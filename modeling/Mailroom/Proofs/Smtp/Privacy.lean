import Mailroom.Proofs.Client
import Mailroom.Proofs.Smtp.Fidelity

/-! What goes over the network in the clear. Where the options ask for protection, nothing does but the
commands that bring it about. -/
namespace Mailroom.Smtp

variable {α β : Type}

/-- Only commands in `A` are sent in the clear. The connection is protected as `before` says, and as
`after` says once the part has succeeded. -/
def Exposes (before : Bool) (s : Session α) (A : Command → Prop) (after : Bool) : Prop :=
  ∀ w, w.isProtected = before → ∃ es, (play s w).2.log = w.log ++ es ∧
    (∀ c ∈ es.filterMap Event.exposed?, A c) ∧
    ∀ a, (play s w).1 = .ok a → (play s w).2.isProtected = after

section
variable {s : Session α} {f : α → Session β} {A : Command → Prop} {p q q' : Bool}
  {Q : List Turn → Except Fault α → Prop}

theorem Exposes.bind (hs : Exposes p s A q) (hf : ∀ a, Exposes q (f a) A q') :
    Exposes p (s >>= f) A q' := by
  intro w hw
  obtain ⟨es, hlog, hexposed, hafter⟩ := hs w hw
  rw [play_bind]
  cases hplay : play s w with
  | mk r w' =>
    rw [hplay] at hlog hafter
    cases r with
    | error e => exact ⟨es, hlog, hexposed, by simp⟩
    | ok a =>
      obtain ⟨es', hlog', hexposed', hafter'⟩ := hf a w' (hafter a rfl)
      refine ⟨es ++ es', by rw [hlog', hlog, List.append_assoc], ?_, hafter'⟩
      intro c hc
      rw [List.filterMap_append, List.mem_append] at hc
      exact hc.elim (hexposed c) (hexposed' c)

private theorem exposes_pure (a : α) : Exposes p (pure a) A p :=
  fun _ hw => ⟨[], by simp, by simp, fun _ _ => hw⟩

/-- A part that fails at once in some cases. -/
theorem Exposes.throwIf {c : Prop} [Decidable c] {e : Fault} {f : Unit → Session β}
    (hf : Exposes p (f ()) A q) : Exposes p (if c then MonadExcept.throw e >>= f else f ()) A q := by
  split
  · exact fun w _ => ⟨[], by simp, by simp, by simp⟩
  · exact hf

/-- What is only read is not sent. -/
private theorem exposes_receive : Exposes p Session.receive A p := by
  intro w hw
  rw [play_receive]
  exact ⟨[_], rfl, by simp, fun _ _ => hw⟩

private theorem exposes_handshake : Exposes p Session.handshake A true := by
  intro w _
  cases hw : w.canProtect with
  | true =>
    refine ⟨[], ?_, by simp, ?_⟩
    · simp [Session.handshake, play_bind, hw]
    · simp [Session.handshake, play_bind, hw]
  | false =>
    refine ⟨[], ?_, by simp, ?_⟩
    · simp [Session.handshake, play_bind, hw]
    · simp [Session.handshake, play_bind, hw]

/-- Under protection turns expose nothing. -/
theorem Takes.exposes_nothing (h : Takes s Q) : Exposes true s A true := by
  intro w hw
  obtain ⟨ts, hlog, hprotected, -⟩ := h w
  refine ⟨_, hlog, ?_, fun _ _ => hprotected.trans hw⟩
  rw [hw, Turn.filterMap_transcript Event.exposed?_ofReading]
  simp

/-- In the clear turns expose their commands. -/
theorem Takes.exposes (h : Takes s Q) (hQ : ∀ ts r, Q ts r → ∀ t ∈ ts, A t.command) :
    Exposes false s A false := by
  intro w hw
  obtain ⟨ts, hlog, hprotected, hts⟩ := h w
  refine ⟨_, hlog, ?_, fun _ _ => hprotected.trans hw⟩
  rw [hw, Turn.filterMap_transcript Event.exposed?_ofReading]
  intro c hc
  obtain ⟨t, ht, hc⟩ := List.mem_filterMap.1 hc
  obtain rfl : t.command = c := by simpa using hc
  exact hQ ts _ hts t ht

end

def MayExpose (name : String) : Security → Command → Prop
  | .none, _ => True
  | .startTls, c => c = .hello name ∨ c = .startTls ∨ c = .quit
  | .tls, _ => False

private theorem exposes_upgrade (name : String) (c : Capabilities) :
    Exposes false (Session.upgrade name c) (MayExpose name .startTls) true := by
  apply Exposes.throwIf
  have hask : Exposes false (Session.orHangUp (Session.exchange .startTls)) (MayExpose name .startTls)
      false := by
    apply (takes_orHangUp (takes_exchange .startTls)).exposes
    intro ts r h t ht
    exact .inr (by simpa using h.closes.mem_or_quit ht)
  exact hask.bind fun _ => exposes_handshake.bind fun _ => (takes_hello name).exposes_nothing

/-- What comes before any delivery exposes only what it may, and leaves the connection protected. -/
theorem exposes_enter {o : Options} (caller : Caller) (ho : o.security ≠ .none) :
    Exposes false (enter o caller) (MayExpose caller.name o.security) true := by
  have hlogin (c : Capabilities) : Exposes true (do
      logInIfAsked o c
      return c) (MayExpose caller.name o.security) true :=
    (takes_logInIfAsked o c).exposes_nothing.bind fun _ => exposes_pure c
  cases hs : o.security with
  | none => exact absurd hs ho
  | tls =>
    rw [hs] at hlogin
    simp only [enter, upgradeIfAsked, hs, if_true, reduceCtorEq, if_false, pure_bind]
    refine exposes_handshake.bind fun _ => exposes_receive.bind fun _ => ?_
    exact (takes_hello caller.name).exposes_nothing.bind hlogin
  | startTls =>
    rw [hs] at hlogin
    simp only [enter, upgradeIfAsked, hs, if_true, reduceCtorEq, if_false]
    refine exposes_receive.bind fun _ => ?_
    have hhello : Exposes false (Session.hello caller.name) (MayExpose caller.name .startTls) false := by
      apply (takes_hello caller.name).exposes
      intro ts r h t ht
      rcases h.closes.mem_or_quit ht with h | h
      · exact .inl (by simpa using h)
      · exact .inr (.inr h)
    exact hhello.bind fun c => (exposes_upgrade caller.name c).bind hlogin

/-! ### On the network -/

/-- A change of the network exposes only commands in `A`. -/
def ExposesOnly (A : Command → Prop) (net net' : Network) : Prop :=
  ∃ cs, net'.exposed = net.exposed ++ cs ∧ ∀ c ∈ cs, A c

private theorem exposesOnly_refl (A : Command → Prop) (net : Network) : ExposesOnly A net net :=
  ⟨[], by simp, by simp⟩

theorem exposesOnly_converse {o : Options} {caller : Caller} {action : Capabilities → Session α}
    {Q : Capabilities → List Turn → Except Fault α → Prop} (ho : o.security ≠ .none)
    (haction : ∀ c, Takes (action c) (Q c)) (net : Network) :
    ExposesOnly (MayExpose caller.name o.security) net (converse o caller action net).2 := by
  cases hscript : net.scriptAt? o.host o.port with
  | none =>
    rw [converse_of_absent hscript]
    exact exposesOnly_refl _ net
  | some replies =>
    rw [converse_of_present hscript]
    have hwhole := (exposes_enter caller ho).bind fun c => (haction c).exposes_nothing
    obtain ⟨es, hlog, hexposed, -⟩ := hwhole (Wire.connect replies net.canProtect) rfl
    refine ⟨es.filterMap Event.exposed?, ?_, hexposed⟩
    simp only [Network.exposed, List.filterMap_append, hlog]
    rfl

theorem exposesOnly_deliver {o : Options} {caller : Caller} (ho : o.security ≠ .none) (m : Message)
    (net : Network) :
    ExposesOnly (MayExpose caller.name o.security) net ((transport o caller).deliver m net).2 := by
  cases hletter : Mime.Letter.ofMessage m caller.date with
  | error f =>
    simp only [transport, hletter]
    exact exposesOnly_refl _ net
  | ok letter =>
    rw [deliver_of_letter hletter]
    exact exposesOnly_converse ho (takes_deliver letter) net

/-- Whatever a client is asked for, and however the server behaves, where the options ask for protection
nothing goes in the clear but what brings it about. -/
theorem exposesOnly_of_client {o : Options} {caller : Caller} {c : Client Network}
    (h : client o caller = .ok c) (ho : o.security ≠ .none) (net : Network) :
    (∀ m, ExposesOnly (MayExpose caller.name o.security) net (c.deliver m net).2) ∧
      (∀ sender recipients subject text format, ExposesOnly (MayExpose caller.name o.security) net
        (c.send sender recipients subject text format net).2) ∧
      ExposesOnly (MayExpose caller.name o.security) net (c.check net).2 := by
  obtain ⟨-, rfl⟩ := Client.create_eq_ok_iff.1 h
  have hdeliver (m : Message) : ExposesOnly (MayExpose caller.name o.security) net
      (Client.deliver { options := o, transport := transport o caller } m net).2 := by
    unfold Client.deliver
    split
    · exact exposesOnly_refl _ net
    · exact exposesOnly_deliver ho m net
  refine ⟨hdeliver, ?_, ?_⟩
  · intro sender recipients subject text format
    unfold Client.send
    split
    · exact exposesOnly_refl _ net
    · exact hdeliver _
  · exact exposesOnly_converse ho takes_probe net

def guardedOptions : Options :=
  { (default : Options) with
    port := 587
    starttls := true
    auth := true
    user := some "me"
    password := some "secret" }

def guardedServer : Network where
  listener := some ⟨[Options.defaultHost], 587, ["220 hi", "250-mx\r\n250 STARTTLS", "220 go",
    "250-mx\r\n250 AUTH PLAIN", "235 welcome", "250 ok", "250 ok", "250 ok", "250 ok", "354 go",
    "250 queued", "221 bye"].map String.toList⟩
  canProtect := true

/-- The message is delivered after a login, and nothing of that is exposed. -/
theorem guardedServer_learns_greeting_only :
    ∃ c, client guardedOptions ⟨"client", ""⟩ = .ok c ∧ guardedOptions.security ≠ .none ∧
      (c.deliver circular guardedServer).1 = .ok () ∧
      (c.deliver circular guardedServer).2.exposed = [.hello "client", .startTls] ∧
      ExposesOnly (MayExpose "client" guardedOptions.security) guardedServer
        (c.deliver circular guardedServer).2 := by
  have hclient : client guardedOptions ⟨"client", ""⟩ =
      .ok ⟨guardedOptions, transport guardedOptions ⟨"client", ""⟩⟩ := rfl
  have hsecurity : guardedOptions.security ≠ .none := by decide
  refine ⟨_, hclient, hsecurity, by decide +kernel, by decide +kernel, ?_⟩
  exact (exposesOnly_of_client hclient hsecurity guardedServer).1 circular

end Mailroom.Smtp
