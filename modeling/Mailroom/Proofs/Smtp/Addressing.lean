import Mailroom.Proofs.Smtp.Sending

/-! The addresses that a conversation names, whatever the server replies. -/
namespace Mailroom.Smtp

def sendersOf (cs : List Command) : List Address :=
  cs.filterMap fun
    | .sender a _ _ => some a
    | _ => none

def recipientsOf (cs : List Command) : List Address :=
  cs.filterMap fun
    | .recipient a => some a
    | _ => none

@[simp] theorem sendersOf_append (cs ds : List Command) :
    sendersOf (cs ++ ds) = sendersOf cs ++ sendersOf ds :=
  List.filterMap_append

@[simp] theorem recipientsOf_append (cs ds : List Command) :
    recipientsOf (cs ++ ds) = recipientsOf cs ++ recipientsOf ds :=
  List.filterMap_append

def IsQuiet (cs : List Command) : Prop := sendersOf cs = [] ∧ recipientsOf cs = []

private theorem isQuiet_nil : IsQuiet [] := ⟨rfl, rfl⟩

theorem IsQuiet.append {cs ds : List Command} (hc : IsQuiet cs) (hd : IsQuiet ds) :
    IsQuiet (cs ++ ds) := by
  simp [IsQuiet, hc.1, hc.2, hd.1, hd.2]

private theorem isQuiet_of_forall {cs : List Command} (h : ∀ c ∈ cs, IsQuiet [c]) : IsQuiet cs := by
  induction cs with
  | nil => exact isQuiet_nil
  | cons c cs ih => exact (h c (by simp)).append (ih fun d hd => h d (by simp [hd]))

private theorem IsFarewell.isQuiet {ts : List Turn} (h : IsFarewell ts) :
    IsQuiet (ts.map Turn.command) := by
  rcases h with rfl | ⟨x, rfl⟩
  · exact isQuiet_nil
  · exact ⟨rfl, rfl⟩

def Quiet {α : Type} (s : Session α) : Prop := Emits s fun cs _ => IsQuiet cs

/-- Nothing that comes before a delivery names an address. -/
private theorem quiet_enter (o : Options) (caller : Caller) : Quiet (enter o caller) := by
  have hsends : Sends (fun c => IsQuiet [c]) (enter o caller) :=
    sends_enter ⟨rfl, rfl⟩ ⟨rfl, rfl⟩ ⟨rfl, rfl⟩ fun _ h =>
      h.forall_of (fun _ _ => ⟨rfl, rfl⟩) ⟨rfl, rfl⟩ fun _ => ⟨rfl, rfl⟩
  refine hsends.emits.mono ?_
  rintro cs r ⟨es, rfl, hes⟩
  exact isQuiet_of_forall hes

/-! ### Delivery -/

/-- The commands name the sender of a letter and its recipients in order, or end before they do; all
are named if the outcome is good. -/
structure NamesEnvelope {α : Type} (letter : Mime.Letter) (cs : List Command) (r : Except Fault α) :
    Prop where
  sender : sendersOf cs <+: [letter.sender]
  recipients : recipientsOf cs <+: letter.recipients
  complete : ∀ a, r = .ok a → sendersOf cs = [letter.sender] ∧ recipientsOf cs = letter.recipients

private theorem namesEnvelope_nil {α : Type} (letter : Mime.Letter) (e : Fault) :
    NamesEnvelope letter [] (.error e : Except Fault α) :=
  ⟨List.nil_prefix, List.nil_prefix, by simp⟩

theorem sendersOf_handOverCommands (letter : Mime.Letter) :
    sendersOf (handOverCommands letter) = [letter.sender] := by
  have hnone : sendersOf (letter.recipients.map .recipient) = [] := by
    simp [sendersOf]
  rw [handOverCommands, ← List.singleton_append, sendersOf_append, sendersOf_append, hnone]
  rfl

theorem recipientsOf_handOverCommands (letter : Mime.Letter) :
    recipientsOf (handOverCommands letter) = letter.recipients := by
  simp only [recipientsOf, handOverCommands, List.filterMap_cons, List.filterMap_append,
    List.filterMap_map, Function.comp_def, List.filterMap_some, List.filterMap_nil, List.append_nil]

/-- Who hands over a letter, or begins to, names its envelope, or a beginning of it. -/
theorem namesEnvelope_of_closes {α : Type} {letter : Mime.Letter} {ts : List Turn} {r : Except Fault α}
    (h : Closes (handOverCommands letter) ts r) : NamesEnvelope letter (ts.map Turn.command) r := by
  obtain ⟨us, vs, rfl, hfollows, hvs⟩ := h
  have hsenders : sendersOf ((us ++ vs).map Turn.command) = sendersOf (us.map Turn.command) := by
    rw [List.map_append, sendersOf_append, hvs.isQuiet.1, List.append_nil]
  have hrecipients : recipientsOf ((us ++ vs).map Turn.command) =
      recipientsOf (us.map Turn.command) := by
    rw [List.map_append, recipientsOf_append, hvs.isQuiet.2, List.append_nil]
  refine ⟨?_, ?_, ?_⟩
  · rw [hsenders, ← sendersOf_handOverCommands letter]
    exact hfollows.ahead.filterMap _
  · rw [hrecipients, ← recipientsOf_handOverCommands letter]
    exact hfollows.ahead.filterMap _
  · intro a ha
    rw [hsenders, hrecipients, hfollows.complete a ha]
    exact ⟨sendersOf_handOverCommands letter, recipientsOf_handOverCommands letter⟩

/-- A delivery names the envelope of the letter, or a beginning of it. -/
theorem emits_deliver (letter : Mime.Letter) (c : Capabilities) :
    Emits (Session.deliver letter c) (NamesEnvelope letter) := by
  refine (takes_deliver letter c).emits.mono ?_
  rintro cs r ⟨ts, rfl, hts⟩
  exact namesEnvelope_of_closes hts

/-- A conversation adds commands to those that were sent, which name the envelope of the letter or a
beginning of it. -/
theorem converse_deliver (o : Options) (caller : Caller) (letter : Mime.Letter) (net : Network) :
    ∃ cs, (converse o caller (Session.deliver letter) net).2.sent = net.sent ++ cs ∧
      NamesEnvelope letter cs (converse o caller (Session.deliver letter) net).1 := by
  have hemits : Emits (enter o caller >>= Session.deliver letter) (NamesEnvelope letter) := by
    apply Emits.bind (quiet_enter o caller)
    · intro cs e hc
      exact ⟨by simp [hc.1], by simp [hc.2], by simp⟩
    · intro cs c hc
      refine (emits_deliver letter c).mono ?_
      intro ds r h
      exact ⟨by simpa [hc.1] using h.sender, by simpa [hc.2] using h.recipients,
        by simpa [hc.1, hc.2] using h.complete⟩
  cases hscript : net.scriptAt? o.host o.port with
  | none =>
    rw [converse_of_absent hscript]
    exact ⟨[], by simp [Network.sent], namesEnvelope_nil letter _⟩
  | some replies =>
    rw [converse_of_present hscript]
    obtain ⟨cs, hsent, hnames⟩ := hemits (Wire.connect replies net.canProtect)
    refine ⟨cs, ?_, hnames⟩
    rw [Network.sent, List.filterMap_append]
    exact congrArg (net.sent ++ ·) hsent

end Mailroom.Smtp
