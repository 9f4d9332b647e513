import Mailroom.Proofs.Smtp.Turns

/-! What is logged by a part of a conversation, and parts that send only commands of some kind. -/
namespace Mailroom.Smtp

variable {α β : Type}

def commandsIn (es : List Event) : List Command := es.filterMap Event.command?

@[simp] theorem commandsIn_append (es ds : List Event) :
    commandsIn (es ++ ds) = commandsIn es ++ commandsIn ds :=
  List.filterMap_append

@[simp] theorem commandsIn_transcript (p : Bool) (ts : List Turn) :
    commandsIn (Turn.transcript p ts) = ts.map Turn.command :=
  Turn.filterMap_command?_transcript p ts

/-- What is logged satisfies `Q` together with the outcome, wherever the server stands. -/
def Logs (s : Session α) (Q : List Event → Except Fault α → Prop) : Prop :=
  ∀ w, ∃ es, (play s w).2.log = w.log ++ es ∧ Q es (play s w).1

namespace Logs

variable {s : Session α} {f : α → Session β} {P Q : List Event → Except Fault α → Prop}
  {R : List Event → Except Fault β → Prop}

theorem mono (h : Logs s P) (hPQ : ∀ es r, P es r → Q es r) : Logs s Q := by
  intro w
  obtain ⟨es, hlog, hP⟩ := h w
  exact ⟨es, hlog, hPQ es _ hP⟩

theorem pure {a : α} (h : Q [] (.ok a)) : Logs (pure a) Q :=
  fun w => ⟨[], by simp, h⟩

theorem throw {e : Fault} (h : Q [] (.error e)) : Logs (throw e) Q :=
  fun w => ⟨[], by simp, h⟩

theorem bind (hs : Logs s P) (herror : ∀ es e, P es (.error e) → R es (.error e))
    (hf : ∀ es a, P es (.ok a) → Logs (f a) fun ds r => R (es ++ ds) r) : Logs (s >>= f) R := by
  intro w
  obtain ⟨es, hlog, hP⟩ := hs w
  rw [play_bind]
  cases hplay : play s w with
  | mk r w' =>
    rw [hplay] at hlog hP
    cases r with
    | error e => exact ⟨es, hlog, herror es e hP⟩
    | ok a =>
      obtain ⟨ds, hlog', hR⟩ := hf es a hP w'
      exact ⟨es ++ ds, by rw [hlog', hlog, List.append_assoc], hR⟩

theorem and (h : Logs s P) (h' : Logs s Q) : Logs s fun es r => P es r ∧ Q es r := by
  intro w
  obtain ⟨es, hlog, hP⟩ := h w
  obtain ⟨es', hlog', hQ⟩ := h' w
  obtain rfl : es = es' := List.append_cancel_left (hlog.symm.trans hlog')
  exact ⟨es, hlog, hP, hQ⟩

/-- Of what is logged, the commands are what is sent. -/
theorem emits (h : Logs s Q) : Emits s fun cs r => ∃ es, cs = commandsIn es ∧ Q es r := by
  intro w
  obtain ⟨es, hlog, hQ⟩ := h w
  refine ⟨_, ?_, es, rfl, hQ⟩
  rw [Wire.sent, hlog, List.filterMap_append]
  rfl

end Logs

/-- Turns are logged one after the other. -/
theorem Takes.logs {s : Session α} {Q : List Turn → Except Fault α → Prop} (h : Takes s Q) :
    Logs s fun es r => ∃ p ts, es = Turn.transcript p ts ∧ Q ts r := by
  intro w
  obtain ⟨ts, hlog, -, hQ⟩ := h w
  exact ⟨_, hlog, _, ts, rfl, hQ⟩

/-- What is added to the log of a network satisfies `Q` together with the result. -/
def Adds {ε : Type} (Q : List Event → Except ε α → Prop) (net : Network)
    (result : Except ε α × Network) : Prop :=
  ∃ es, result.2.log = net.log ++ es ∧ Q es result.1

/-- What is logged in a conversation is added to the log of the network. -/
theorem Logs.adds {o : Options} {caller : Caller} {action : Capabilities → Session α}
    {Q : List Event → Except Fault α → Prop} (h : Logs (enter o caller >>= action) Q)
    (habsent : Q [] (.error .refused)) (net : Network) :
    Adds Q net (converse o caller action net) := by
  cases hscript : net.scriptAt? o.host o.port with
  | none =>
    rw [converse_of_absent hscript]
    exact ⟨[], by simp, habsent⟩
  | some replies =>
    rw [converse_of_present hscript]
    obtain ⟨es, hlog, hQ⟩ := h (Wire.connect replies net.canProtect)
    exact ⟨es, congrArg (net.log ++ ·) hlog, hQ⟩

/-! ### Commands of some kind -/

def Sends (A : Command → Prop) (s : Session α) : Prop :=
  Logs s fun es _ => ∀ c ∈ commandsIn es, A c

namespace Sends

variable {A : Command → Prop} {s : Session α} {f : α → Session β}

theorem pure (a : α) : Sends A (pure a) := Logs.pure (List.forall_mem_nil A)

theorem throw (e : Fault) : Sends A (throw e : Session α) := Logs.throw (List.forall_mem_nil A)

theorem bind (hs : Sends A s) (hf : ∀ a, Sends A (f a)) : Sends A (s >>= f) :=
  Logs.bind hs (fun _ _ h => h) fun es a hes => (hf a).mono fun ds _ hds => by
    rw [commandsIn_append]
    exact List.forall_mem_append.2 ⟨hes, hds⟩

/-- A part that follows a plan of such commands, and may take leave. -/
theorem of_takes {Q : List Turn → Except Fault α → Prop} (h : Takes s Q) (hquit : A .quit)
    (hQ : ∀ ts r, Q ts r → ∃ plan, (∀ c ∈ plan, A c) ∧ Closes plan ts r) : Sends A s := by
  refine h.logs.mono ?_
  rintro es r ⟨p, ts, rfl, hts⟩
  obtain ⟨plan, hplan, hcloses⟩ := hQ ts r hts
  rw [commandsIn_transcript]
  intro c hc
  obtain ⟨t, ht, rfl⟩ := List.mem_map.1 hc
  rcases hcloses.mem_or_quit ht with h | h
  · exact hplan _ h
  · exact h ▸ hquit

/-- What is only read is not sent. -/
theorem receive : Sends A Session.receive := by
  intro w
  rw [play_receive]
  exact ⟨[_], rfl, by simp [commandsIn]⟩

/-- An action that is taken in some cases only, before others. -/
theorem guarded {p : Prop} [Decidable p] {s : Session Unit} {f : Unit → Session β} (hs : Sends A s)
    (hf : ∀ u, Sends A (f u)) : Sends A (if p then s >>= f else f ()) := by
  split
  · exact bind hs hf
  · exact hf ()

theorem handshake : Sends A Session.handshake := by
  apply bind (fun _ => ⟨[], by simp, List.forall_mem_nil A⟩)
  intro w
  exact guarded (throw _) fun _ => fun _ => ⟨[], by simp, List.forall_mem_nil A⟩

theorem hello {name : String} (hhello : A (.hello name)) (hquit : A .quit) :
    Sends A (Session.hello name) :=
  of_takes (takes_hello name) hquit fun _ _ h => ⟨_, List.forall_mem_singleton.2 hhello, h.closes⟩

theorem upgradeIfAsked {o : Options} {name : String} (hhello : A (.hello name))
    (hstart : A .startTls) (hquit : A .quit) (c : Capabilities) :
    Sends A (upgradeIfAsked o name c) := by
  have hask : Sends A (Session.orHangUp (Session.exchange .startTls)) :=
    of_takes (takes_orHangUp (takes_exchange .startTls)) hquit fun _ _ h =>
      ⟨_, List.forall_mem_singleton.2 hstart, h.closes⟩
  unfold Smtp.upgradeIfAsked
  split
  · exact guarded (throw _) fun _ => bind hask fun _ => bind handshake fun _ => hello hhello hquit
  · exact pure c

end Sends

/-! ### Before a delivery -/

def approach (o : Options) (caller : Caller) : Session Capabilities := do
  if o.security = .tls then Session.handshake
  let _ ← Session.receive
  upgradeIfAsked o caller.name (← Session.hello caller.name)

theorem enter_eq (o : Options) (caller : Caller) :
    enter o caller = approach o caller >>= fun c => logInIfAsked o c >>= fun _ => pure c := by
  unfold enter approach
  split
  · simp only [bind_assoc]
  · simp only [bind_assoc]

section
variable {A : Command → Prop} {o : Options} {caller : Caller}

theorem sends_approach (hhello : A (.hello caller.name)) (hstart : A .startTls) (hquit : A .quit) :
    Sends A (approach o caller) := by
  apply Sends.guarded Sends.handshake
  intro _
  apply Sends.receive.bind
  intro _
  exact (Sends.hello hhello hquit).bind fun c => Sends.upgradeIfAsked hhello hstart hquit c

private theorem sends_logInIfAsked (hquit : A .quit) (hlogin : ∀ cs, IsLoginOf o cs → ∀ c ∈ cs, A c)
    (c : Capabilities) : Sends A (logInIfAsked o c) :=
  Sends.of_takes (takes_logInIfAsked o c) hquit fun _ _ ⟨plan, hplan, h⟩ =>
    ⟨plan, hlogin plan hplan, h.closes⟩

/-- What comes before any delivery introduces the client, asks for protection, logs in or takes leave. -/
theorem sends_enter (hhello : A (.hello caller.name)) (hstart : A .startTls) (hquit : A .quit)
    (hlogin : ∀ cs, IsLoginOf o cs → ∀ c ∈ cs, A c) : Sends A (enter o caller) := by
  rw [enter_eq]
  exact (sends_approach hhello hstart hquit).bind fun c =>
    (sends_logInIfAsked hquit hlogin c).bind fun _ => Sends.pure c

end

end Mailroom.Smtp
