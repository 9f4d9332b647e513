import Mailroom.Outbox
import Mailroom.Proofs.Smtp.Dialling
import Mailroom.Proofs.Smtp.Payload

/-! Two runs that differ in the format of the text. The server cannot tell the lines apart that differ, so
that it answers alike, and the client goes on alike. -/
namespace Mailroom.Smtp

open Mime

/-! ### Lines that a server makes the same of -/

/-- The lines end a message, or ask for one, both or neither. -/
def SoundsAlike (l l' : List Char) : Prop :=
  (l' = ['.'] ↔ l = ['.']) ∧ (l' = "DATA".toList ↔ l = "DATA".toList)

theorem SoundsAlike.refl (l : List Char) : SoundsAlike l l := ⟨.rfl, .rfl⟩

private theorem soundsAlike_refl (ls : List (List Char)) : List.Forall₂ SoundsAlike ls ls :=
  List.forall₂_same.2 fun l _ => .refl l

def Peer.remembering (p : Peer) (heard : List (List Char)) : Peer := { p with heard }

/-- What a server has heard before does not count. -/
private theorem hear_soundsAlike {l l' : List Char} (h : SoundsAlike l l') {p : Peer}
    (he : p.ended = false) :
    ∃ (q : Peer) (out : List Char), ∀ heard,
      (p.remembering heard).hear l = (q.remembering (heard ++ [l]), out) ∧
        (p.remembering heard).hear l' = (q.remembering (heard ++ [l']), out) := by
  obtain ⟨hpoint, hdata⟩ := h
  refine ⟨(p.hear l).1, (p.hear l).2, fun heard => ?_⟩
  have hopens (out : List Char) : Peer.opensMessage l' out = Peer.opensMessage l out := by
    have hbeq : (l' == "DATA".toList) = (l == "DATA".toList) := by
      rw [Bool.eq_iff_iff, beq_iff_eq, beq_iff_eq]
      exact hdata
    rw [Peer.opensMessage, Peer.opensMessage, hbeq]
  cases hm : p.inMessage with
  | true =>
    by_cases hl : l = ['.']
    · cases hr : p.replies <;> simp [Peer.hear, Peer.remembering, Peer.reply, he, hm, hl, hpoint.2 hl, hr]
    · have hl' : l' ≠ ['.'] := mt hpoint.1 hl
      simp [Peer.hear, Peer.remembering, he, hm, hl, hl']
  | false =>
    cases hr : p.replies <;> simp [Peer.hear, Peer.remembering, Peer.reply, he, hm, hr, hopens]

/-- A server hears as much of one text as of another that it makes the same of line by line, and says the
same. -/
theorem hearAll_soundsAlike {ls ls' : List (List Char)} (h : List.Forall₂ SoundsAlike ls ls') (p : Peer) :
    ∃ (q : Peer) (k : Nat) (out : List Char), (p.ended = true → k = 0) ∧ ∀ heard,
      (p.remembering heard).hearAll ls = (q.remembering (heard ++ ls.take k), out) ∧
        (p.remembering heard).hearAll ls' = (q.remembering (heard ++ ls'.take k), out) := by
  induction h generalizing p with
  | nil => exact ⟨p, 0, [], fun _ => rfl, fun heard => by simp [Peer.hearAll]⟩
  | @cons l l' ls ls' hl _ ih =>
    cases he : p.ended with
    | true =>
      obtain ⟨q, k, out, hk, hrest⟩ := ih p
      obtain rfl := hk he
      have hsilent (heard l) : (p.remembering heard).hear l = (p.remembering heard, []) := by
        simp [Peer.hear, Peer.remembering, he]
      refine ⟨q, 0, out, fun _ => rfl, fun heard => ?_⟩
      obtain ⟨hheard, hheard'⟩ := hrest heard
      simp only [List.take_zero, List.append_nil] at hheard hheard' ⊢
      simp [Peer.hearAll, hsilent, hheard, hheard']
    | false =>
      obtain ⟨p', out, hfirst⟩ := hear_soundsAlike hl he
      obtain ⟨q, k, more, -, hrest⟩ := ih p'
      refine ⟨q, k + 1, out ++ more, fun h => absurd h (by simp), fun heard => ?_⟩
      simp [Peer.hearAll, hfirst, hrest]

/-! ### Commands that a server answers alike -/

def Wire.withPast (w : Wire) (log : List Event) (heard : List (List Char)) : Wire :=
  { w with log, peer := w.peer.remembering heard }

private theorem play_exchange_eq (c : Command) (w : Wire) :
    play (Session.exchange c) w =
      (outcome (readReply (w.unread ++ (w.peer.hearAll (textLines c.text)).2)).1, { w with
        peer := (w.peer.hearAll (textLines c.text)).1
        unread := (readReply (w.unread ++ (w.peer.hearAll (textLines c.text)).2)).2
        log := w.log ++ Turn.events w.isProtected
          ⟨c, (readReply (w.unread ++ (w.peer.hearAll (textLines c.text)).2)).1⟩ }) := by
  simp [Session.exchange, play_bind, Session.send, play_receive, Turn.events]

/-- Whatever came before, commands that a server makes the same of are answered alike. -/
private theorem play_exchange_soundsAlike {c c' : Command}
    (h : List.Forall₂ SoundsAlike (textLines c.text) (textLines c'.text)) (w : Wire) :
    ∃ (x : Except ReplyFault Reply) (v : Wire) (k : Nat), ∀ log heard,
      play (Session.exchange c) (w.withPast log heard) =
          (outcome x, v.withPast (log ++ Turn.events w.isProtected ⟨c, x⟩)
            (heard ++ (textLines c.text).take k)) ∧
        play (Session.exchange c') (w.withPast log heard) =
          (outcome x, v.withPast (log ++ Turn.events w.isProtected ⟨c', x⟩)
            (heard ++ (textLines c'.text).take k)) := by
  obtain ⟨q, k, out, -, hhear⟩ := hearAll_soundsAlike h w.peer
  refine ⟨(readReply (w.unread ++ out)).1,
    { w with peer := q, unread := (readReply (w.unread ++ out)).2 }, k, fun log heard => ?_⟩
  obtain ⟨hhear, hhear'⟩ := hhear heard
  constructor
  · simp only [play_exchange_eq, Wire.withPast, hhear]
  · simp only [play_exchange_eq, Wire.withPast, hhear']

/-! ### Letters that are delivered alike -/

def announce (letter : Letter) : Session Unit := do
  let _ ← Session.exchange
    (.sender letter.sender (Session.needsUtf8 letter) (Session.needsEightBit letter))
  for a in letter.recipients do
    let _ ← Session.exchange (.recipient a)
  let _ ← Session.exchange .data

private theorem handOver_eq (letter : Letter) :
    Session.handOver letter =
      announce letter >>= fun _ => Session.exchange (.payload letter.content) >>= fun _ => pure () := by
  simp [Session.handOver, announce]

/-- A letter is delivered in three parts, of which the last one comes in any case. -/
theorem play_deliver_eq (letter : Letter) (c : Capabilities) (w : Wire) :
    play (Session.deliver letter c) w =
      if Session.needsUtf8 letter && !c.utf8 then (.error .noUtf8, w)
      else if Session.needsEightBit letter && !c.eightBit then (.error .noEightBit, w)
      else match play (announce letter) w with
        | (.error e, w) => (.error e, (play (Session.exchange .quit) w).2)
        | (.ok _, w) =>
          ((play (Session.exchange (.payload letter.content)) w).1.map fun _ => (),
            (play (Session.exchange .quit) (play (Session.exchange (.payload letter.content)) w).2).2) := by
  simp only [Session.deliver, handOver_eq, Session.orHangUp]
  split
  · rfl
  · split
    · rfl
    · simp only [play_bind, play_tryCatch]
      cases play (announce letter) w with
      | mk r w₁ =>
        cases r with
        | error e => simp [play_hangUp_eq]
        | ok _ =>
          cases hpayload : play (Session.exchange (.payload letter.content)) w₁ with
          | mk r w₂ =>
            cases r with
            | error e => simp [hpayload, play_hangUp_eq, Except.map]
            | ok _ => simp [hpayload, play_hangUp_eq, Except.map]

/-- What has happened is the same but for one content, of which as many lines were heard. -/
inductive DiffersInContent (content content' : List Char) :
    (log log' : List Event) → (heard heard' : List (List Char)) → Prop
  | intro (before after : List Event) (isProtected : Bool) (front back : List (List Char)) (k : Nat) :
      DiffersInContent content content'
        (before ++ .sent (.payload content) isProtected :: after)
        (before ++ .sent (.payload content') isProtected :: after)
        (front ++ (messageLines content).take k ++ back)
        (front ++ (messageLines content').take k ++ back)

/-- What has happened before is the same. -/
private theorem DiffersInContent.append_left {content content' : List Char} {log log' : List Event}
    {heard heard' : List (List Char)} (h : DiffersInContent content content' log log' heard heard')
    (past : List Event) (memory : List (List Char)) :
    DiffersInContent content content' (past ++ log) (past ++ log') (memory ++ heard) (memory ++ heard') := by
  cases h with
  | intro before after isProtected front back k =>
    simpa using intro (past ++ before) after isProtected (memory ++ front) back k

/-- The letters differ in nothing that a server answers to. -/
structure SoundAlike (letter letter' : Letter) : Prop where
  sender : letter'.sender = letter.sender
  recipients : letter'.recipients = letter.recipients
  eightBit : Session.needsEightBit letter' = Session.needsEightBit letter
  lines : List.Forall₂ SoundsAlike (messageLines letter.content) (messageLines letter'.content)

theorem SoundAlike.utf8 {letter letter' : Letter} (h : SoundAlike letter letter') :
    Session.needsUtf8 letter' = Session.needsUtf8 letter := by
  rw [Session.needsUtf8, Session.needsUtf8, h.sender, h.recipients]

def Wire.SameButContent (content content' : List Char) (w w' : Wire) : Prop :=
  ∃ log' heard', w' = w.withPast log' heard' ∧
    DiffersInContent content content' w.log log' w.peer.heard heard'

/-- Contents are answered alike, and so is the farewell after them. -/
theorem SoundAlike.play_payload {letter letter' : Letter} (h : SoundAlike letter letter') (w : Wire) :
    (play (Session.exchange (.payload letter'.content)) w).1 =
        (play (Session.exchange (.payload letter.content)) w).1 ∧
      Wire.SameButContent letter.content letter'.content
        (play (Session.exchange .quit) (play (Session.exchange (.payload letter.content)) w).2).2
        (play (Session.exchange .quit) (play (Session.exchange (.payload letter'.content)) w).2).2 := by
  obtain ⟨x, v, k, hpayload⟩ := play_exchange_soundsAlike h.lines w
  obtain ⟨hplay, hplay'⟩ := hpayload w.log w.peer.heard
  obtain ⟨y, u, n, hquit⟩ := play_exchange_soundsAlike (soundsAlike_refl (textLines Command.quit.text)) v
  have hself : w.withPast w.log w.peer.heard = w := rfl
  rw [hself] at hplay hplay'
  rw [hplay, hplay', (hquit _ _).1, (hquit _ _).1]
  refine ⟨rfl, _, _, rfl, ?_⟩
  simpa [Turn.events, Wire.withPast, Peer.remembering, messageLines] using
    DiffersInContent.intro w.log ([Event.ofReading x] ++ Turn.events v.isProtected ⟨.quit, y⟩)
      w.isProtected w.peer.heard ((textLines Command.quit.text).take n) k

/-- A conversation about one letter goes like that about the other, or the same way but for the content. -/
theorem SoundAlike.play_deliver {letter letter' : Letter} (h : SoundAlike letter letter')
    (c : Capabilities) (w : Wire) :
    (play (Session.deliver letter' c) w).1 = (play (Session.deliver letter c) w).1 ∧
      ((play (Session.deliver letter' c) w).2 = (play (Session.deliver letter c) w).2 ∨
        Wire.SameButContent letter.content letter'.content (play (Session.deliver letter c) w).2
          (play (Session.deliver letter' c) w).2) := by
  have hannounce : announce letter' = announce letter := by
    simp only [announce, h.sender, h.recipients, h.utf8, h.eightBit]
  simp only [play_deliver_eq, hannounce, h.utf8, h.eightBit]
  split
  · exact ⟨rfl, .inl rfl⟩
  · split
    · exact ⟨rfl, .inl rfl⟩
    · split
      · exact ⟨rfl, .inl rfl⟩
      · next w₁ _ =>
        obtain ⟨hresult, hsame⟩ := h.play_payload w₁
        refine ⟨?_, .inr ?_⟩
        · simp only [hresult]
        · simpa only using hsame

def Network.SameButContent (content content' : List Char) (net net' : Network) : Prop :=
  ∃ log' heard', net' = { net with log := log', heard := heard' } ∧
    DiffersInContent content content' net.log log' net.heard heard'

/-- To enter, a client says its name and nothing else of itself. -/
private theorem enter_congr {caller caller' : Caller} (h : caller'.name = caller.name)
    (o : Options) :
    enter o caller' = enter o caller := by
  simp only [enter, h]

theorem SoundAlike.converse {letter letter' : Letter} (h : SoundAlike letter letter')
    {caller caller' : Caller} (hname : caller'.name = caller.name) (o : Options) (net : Network) :
    (converse o caller' (Session.deliver letter') net).1 =
        (converse o caller (Session.deliver letter) net).1 ∧
      ((converse o caller' (Session.deliver letter') net).2 =
          (converse o caller (Session.deliver letter) net).2 ∨
        Network.SameButContent letter.content letter'.content
          (converse o caller (Session.deliver letter) net).2
          (converse o caller' (Session.deliver letter') net).2) := by
  cases hscript : net.scriptAt? o.host o.port with
  | none =>
    rw [converse_of_absent hscript, converse_of_absent hscript]
    exact ⟨rfl, .inl rfl⟩
  | some replies =>
    rw [converse_of_present hscript, converse_of_present hscript, play_bind, play_bind,
      enter_congr hname]
    cases play (enter o caller) (Wire.connect replies net.canProtect) with
    | mk r w =>
      cases r with
      | error e => exact ⟨rfl, .inl rfl⟩
      | ok c =>
        obtain ⟨hresult, hsame | ⟨log', heard', hwire, hdiffers⟩⟩ := h.play_deliver c w
        · exact ⟨hresult, .inl (by simp only [hsame])⟩
        · refine ⟨hresult, .inr ⟨net.log ++ log', net.heard ++ heard', ?_, hdiffers.append_left _ _⟩⟩
          simp only [hwire]
          rfl

/-! ### Two formats -/

/-- The lines of the contents are the same but for the one that announces the format and the one with the
date. -/
def SameButType (f f' : BodyFormat) (date date' : String) (content content' : List Char) : Prop :=
  ∃ before encoding after,
    messageLines content = before ++ typeLine f :: encoding :: dateLine date :: after ∧
      messageLines content' = before ++ typeLine f' :: encoding :: dateLine date' :: after

private theorem SameButType.soundsAlike {f f' : BodyFormat} {date date' : String}
    {content content' : List Char} (h : SameButType f f' date date' content content') :
    List.Forall₂ SoundsAlike (messageLines content) (messageLines content') := by
  obtain ⟨before, encoding, after, hlines, hlines'⟩ := h
  have hneutral {name : String} {value : List Char} (hname : name = "Content-Type" ∨ name = "Date") :
      fieldLine name value ≠ ['.'] ∧ fieldLine name value ≠ "DATA".toList := by
    rcases hname with rfl | rfl
    · exact ⟨by simp [fieldLine], by simp [fieldLine]⟩
    · exact ⟨by simp [fieldLine], by simp [fieldLine]⟩
  have hfield {name : String} {value value' : List Char} (hname : name = "Content-Type" ∨ name = "Date") :
      SoundsAlike (fieldLine name value) (fieldLine name value') :=
    ⟨iff_of_false (hneutral hname).1 (hneutral hname).1, iff_of_false (hneutral hname).2 (hneutral hname).2⟩
  rw [hlines, hlines']
  exact List.rel_append (soundsAlike_refl _)
    (.cons (hfield (.inl rfl)) (.cons (.refl _) (.cons (hfield (.inr rfl)) (soundsAlike_refl _))))

section
variable {m : Message} {f : BodyFormat} {date date' : String}

/-- The envelope does not depend on the format, nor does whether there is one. -/
theorem ofMessage_inFormat (m : Message) (f : BodyFormat) (date date' : String) :
    Letter.ofMessage (m.inFormat f) date' =
      (Letter.ofMessage m date).map fun letter =>
        { letter with content := contentOf (m.inFormat f) date' } := by
  have hsender : envelopeSender (m.inFormat f).sender = envelopeSender m.sender := rfl
  have hrecipients : envelopeRecipients (m.inFormat f) = envelopeRecipients m := rfl
  simp only [Letter.ofMessage, hsender, hrecipients]
  cases envelopeSender m.sender with
  | error e => rfl
  | ok sender =>
    cases envelopeRecipients m with
    | error e => rfl
    | ok recipients => rfl

/-- Whether a content is in ASCII is up to its first fields and its text. -/
private theorem isAscii_contentOf (hdate : date.toList.all isHeaderChar = true) :
    Text.isAscii (contentOf m date) =
      (Text.isAscii (opening m) && Text.isAscii ((encodingOf m).apply m.body.text.toList)) := by
  have htype : Text.isAscii (typeLine m.body.format) = true := by
    cases m.body.format with
    | plain => decide
    | html => decide
  have hencoding : Text.isAscii (encodingLine (encodingOf m)) = true := by
    cases encodingOf m with
    | sevenBit => decide
    | quotedPrintable => decide
    | base64 => decide
  have hdated : Text.isAscii (dateLine date) = true := by
    have hchars : Text.isAscii date.toList = true := by
      refine List.all_eq_true.2 fun c hc => ?_
      have hchar := List.all_eq_true.1 hdate c hc
      simp only [isHeaderChar, Bool.and_eq_true, decide_eq_true_eq] at hchar
      simpa using hchar.1.1.2
    have hname : Text.isAscii ("Date".toList ++ [':', ' ']) = true := by decide
    simp only [Text.isAscii] at hchars hname ⊢
    rw [dateLine, fieldLine, List.all_append, hname, hchars]
    rfl
  simp only [Text.isAscii] at htype hencoding hdated ⊢
  simp [contentOf_eq, List.all_append, htype, hencoding, hdated]

/-- A message is written down in any format, as a letter of which the server can tell only the line that
announces the format and the one with the date. -/
theorem exists_letter_inFormat (hm : m.WellFormed) {letter : Letter}
    (h : Letter.ofMessage m date = .ok letter) (hdate : date.toList.all isHeaderChar = true)
    (hdate' : date'.toList.all isHeaderChar = true) :
    ∃ letter', Letter.ofMessage (m.inFormat f) date' = .ok letter' ∧ SoundAlike letter letter' ∧
      SameButType m.body.format f date date' letter.content letter'.content := by
  obtain ⟨fields, body, -, hlines⟩ := exists_messageLines hm
  have hcontent : letter.content = contentOf (m.inFormat m.body.format) date :=
    (ofMessage_eq_ok_iff.1 h).2.2
  have hsame : SameButType m.body.format f date date' letter.content (contentOf (m.inFormat f) date') := by
    refine ⟨fields.flatten, encodingLine (encodingOf m), [] :: (body ++ [['.']]), ?_, ?_⟩
    · rw [hcontent, (hlines _ _ (Writer.isInline_of_isHeaderChar hdate)).2.2]
      simp [closing]
    · rw [(hlines _ _ (Writer.isInline_of_isHeaderChar hdate')).2.2]
      simp [closing]
  have heightBit : Text.isAscii (contentOf (m.inFormat f) date') = Text.isAscii letter.content := by
    have hopening (g : BodyFormat) : opening (m.inFormat g) = opening m := rfl
    have hencoding (g : BodyFormat) : encodingOf (m.inFormat g) = encodingOf m := rfl
    have htext (g : BodyFormat) : (m.inFormat g).body.text = m.body.text := rfl
    rw [hcontent, isAscii_contentOf hdate, isAscii_contentOf hdate', hopening, hopening, hencoding, hencoding,
      htext, htext]
  have hletter : Letter.ofMessage (m.inFormat f) date' =
      .ok { letter with content := contentOf (m.inFormat f) date' } := by
    rw [ofMessage_inFormat m f date date', h, Except.map]
  exact ⟨_, hletter, ⟨rfl, rfl, congrArg not heightBit, hsame.soundsAlike⟩, hsame⟩

end

/-! ### Two calls -/

/-- Two deliveries into memory: what came in is the same, in the one format and in the other. -/
def SentAlike (f : BodyFormat) (box : Outbox) (run run' : Except Error Unit × Outbox) : Prop :=
  run'.1 = run.1 ∧ run'.2.pending = run.2.pending ∧
    ∃ ms, run.2.sent = box.sent ++ ms ∧ run'.2.sent = box.sent ++ ms.map (·.inFormat f)

/-- Two deliveries over a network: all that has happened is the same, or all but one content, of which the
lines are the same but for the one that announces the format and the one with the date. -/
def RunsAlike (f f' : BodyFormat) (date date' : String) (run run' : Except Error Unit × Network) : Prop :=
  run'.1 = run.1 ∧ (run'.2 = run.2 ∨ ∃ content content', SameButType f f' date date' content content' ∧
    Network.SameButContent content content' run.2 run'.2)

section
variable (sender : String) (recipients : Recipients) (subject text : String) (f f' : BodyFormat)

theorem sentAlike_send (o : Options) (box : Outbox) :
    SentAlike f' box (Client.send ⟨o, Outbox.transport⟩ sender recipients subject text f box)
      (Client.send ⟨o, Outbox.transport⟩ sender recipients subject text f' box) := by
  simp only [Client.send, Message.compose_inFormat sender recipients subject text f f']
  cases Message.compose sender recipients subject text f with
  | error e => exact ⟨rfl, rfl, [], by simp [Except.map]⟩
  | ok m =>
    have hrecipients : (m.inFormat f').allRecipients = m.allRecipients := rfl
    simp only [Except.map, Client.deliver, hrecipients]
    split
    · exact ⟨rfl, rfl, [], by simp⟩
    · simp only [Outbox.transport, Outbox.deliver]
      cases box.pending with
      | some failure => exact ⟨rfl, rfl, [], by simp⟩
      | none => exact ⟨rfl, rfl, [m], by simp⟩

/-- Whether a client can be had does not depend on what it says of itself. -/
private theorem clientOf_or (source : OptionsSource) :
    (∃ e, ∀ caller, clientOf source caller = .error e) ∨
      ∃ o, ∀ caller, clientOf source caller = .ok ⟨o, transport o caller⟩ := by
  cases hoptions : source.options with
  | error e => exact .inl ⟨e, fun caller => by simp only [clientOf, hoptions]; rfl⟩
  | ok o =>
    cases hvalid : o.validate with
    | error e =>
      refine .inl ⟨e, fun caller => ?_⟩
      simp only [clientOf, hoptions, client, Client.create, bind, Except.bind, hvalid]
    | ok _ =>
      refine .inr ⟨o, fun caller => ?_⟩
      simp only [clientOf, hoptions, client, Client.create, bind, Except.bind, hvalid]
      rfl

theorem runsAlike_sendOnce (source : OptionsSource) {caller caller' : Caller} (net : Network)
    (hname : caller'.name = caller.name) (hdate : caller.date.toList.all isHeaderChar = true)
    (hdate' : caller'.date.toList.all isHeaderChar = true) :
    RunsAlike f f' caller.date caller'.date
      (sendOnce source caller sender recipients subject text f net)
      (sendOnce source caller' sender recipients subject text f' net) := by
  rcases clientOf_or source with ⟨e, hclient⟩ | ⟨o, hclient⟩
  · simp only [sendOnce, hclient]
    exact ⟨rfl, .inl rfl⟩
  · simp only [sendOnce, hclient, Client.send, Message.compose_inFormat sender recipients subject text f f']
    cases hcompose : Message.compose sender recipients subject text f with
    | error e => exact ⟨rfl, .inl rfl⟩
    | ok m =>
      obtain ⟨hm, hne⟩ := Message.wellFormed_of_compose hcompose
      have hformat : m.body.format = f := by
        rw [(Message.compose_eq_ok_iff.1 hcompose).2.2.2.2]
      simp only [Except.map]
      cases hletter : Letter.ofMessage m caller.date with
      | error fault =>
        have hletter' : Letter.ofMessage (m.inFormat f') caller'.date = .error fault := by
          rw [ofMessage_inFormat m f' caller.date caller'.date, hletter, Except.map]
        have hrecipients : m.allRecipients.isEmpty = false := by simpa using hne
        have hrecipients' : (m.inFormat f').allRecipients.isEmpty = false := hrecipients
        simp only [Client.deliver, hrecipients, hrecipients', transport, hletter, hletter']
        exact ⟨rfl, .inl rfl⟩
      | ok letter =>
        obtain ⟨letter', hletter', hsound, htype⟩ := exists_letter_inFormat hm hletter hdate hdate' (f := f')
        rw [hformat] at htype
        obtain ⟨hresult, hnet⟩ := hsound.converse hname o net
        rw [deliver_of_client hletter, deliver_of_client hletter']
        exact ⟨by simp only [hresult], hnet.imp_right fun hsame => ⟨_, _, htype, hsame⟩⟩

/-- The format of a message changes nothing but the line that announces it: messages are composed alike, they
go alike into memory, and a server hears and answers the same but for that line and for the date. -/
theorem format_changes_type_line :
    Message.compose sender recipients subject text f' =
        (Message.compose sender recipients subject text f).map (·.inFormat f') ∧
      (∀ o box, SentAlike f' box (Client.send ⟨o, Outbox.transport⟩ sender recipients subject text f box)
        (Client.send ⟨o, Outbox.transport⟩ sender recipients subject text f' box)) ∧
      ∀ source (caller caller' : Caller) net, caller'.name = caller.name →
        caller.date.toList.all isHeaderChar = true → caller'.date.toList.all isHeaderChar = true →
        RunsAlike f f' caller.date caller'.date
          (sendOnce source caller sender recipients subject text f net)
          (sendOnce source caller' sender recipients subject text f' net) :=
  ⟨Message.compose_inFormat sender recipients subject text f f',
    sentAlike_send sender recipients subject text f f',
    fun source _ _ net hname hdate hdate' =>
      runsAlike_sendOnce sender recipients subject text f f' source net hname hdate hdate'⟩

end

def sendPointed (date : String) (f : BodyFormat) : Except Error Unit × Network :=
  sendOnce (.given default) ⟨"client", date⟩ "me@example.com" (.one "a@example.com") "Hi" ".\r\nBody" f
    shortScript

/-- The text is taken in both formats, and the other format is heard. -/
theorem sendPointed_runsAlike :
    (sendPointed "Thu, 01 Jan 1970 00:00:00 +0000" .plain).1 = .ok () ∧
      typeLine .html ∈ (sendPointed "Fri, 02 Jan 1970 00:00:00 +0000" .html).2.heard ∧
      RunsAlike .plain .html "Thu, 01 Jan 1970 00:00:00 +0000" "Fri, 02 Jan 1970 00:00:00 +0000"
        (sendPointed "Thu, 01 Jan 1970 00:00:00 +0000" .plain)
        (sendPointed "Fri, 02 Jan 1970 00:00:00 +0000" .html) :=
  ⟨by decide +kernel, by decide +kernel,
    (format_changes_type_line "me@example.com" (.one "a@example.com") "Hi" ".\r\nBody" .plain .html).2.2
      (.given default) ⟨"client", "Thu, 01 Jan 1970 00:00:00 +0000"⟩
      ⟨"client", "Fri, 02 Jan 1970 00:00:00 +0000"⟩ shortScript rfl (by decide) (by decide)⟩

end Mailroom.Smtp
