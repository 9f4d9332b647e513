import Mailroom.Smtp.Transport

/-! What a part of a conversation sends, whatever the server replies. -/
namespace Mailroom.Smtp

variable {α β : Type}

def play (s : Session α) (w : Wire) : Except Fault α × Wire := s.run.run w

@[simp] theorem play_pure (a : α) (w : Wire) : play (pure a) w = (.ok a, w) := rfl

@[simp] theorem play_throw (f : Fault) (w : Wire) : play (throw f : Session α) w = (.error f, w) := rfl

@[simp] theorem play_get (w : Wire) : play get w = (.ok w, w) := rfl

@[simp] theorem play_modify (g : Wire → Wire) (w : Wire) : play (modify g) w = (.ok (), g w) := rfl

theorem play_bind (s : Session α) (f : α → Session β) (w : Wire) :
    play (s >>= f) w =
      match play s w with
      | (.ok a, w) => play (f a) w
      | (.error e, w) => (.error e, w) := by
  simp only [play, ExceptT.run_bind, StateT.run_bind]
  cases h : s.run.run w with
  | mk r w => cases r <;> rfl

theorem play_tryCatch (s : Session α) (handle : Fault → Session α) (w : Wire) :
    play (tryCatch s handle) w =
      match play s w with
      | (.ok a, w) => (.ok a, w)
      | (.error e, w) => play (handle e) w := by
  simp only [play, ExceptT.run_tryCatch, StateT.run_bind]
  cases h : s.run.run w with
  | mk r w => cases r <;> rfl

def outcome : Except ReplyFault Reply → Except Fault Reply
  | .error f => .error (.badReply f)
  | .ok r => if r.isPositive then .ok r else .error (.rejected r)

theorem play_receive (w : Wire) :
    play Session.receive w =
      (outcome (readReply w.unread).1, { w with
        unread := (readReply w.unread).2
        log := w.log ++ [.ofReading (readReply w.unread).1] }) := by
  unfold Session.receive
  simp only [play_bind, play_get, play_modify]
  cases readReply w.unread with
  | mk result unread =>
    cases result with
    | error f => rfl
    | ok r =>
      simp only [outcome]
      split
      · rfl
      · rfl

/-! ### On the network -/

section
variable {o : Options} {caller : Caller} {action : Capabilities → Session α} {net : Network}

/-- Nobody is at the address. -/
theorem converse_of_absent (h : net.scriptAt? o.host o.port = none) :
    converse o caller action net =
      (.error .refused, { net with dials := net.dials ++ [(o.host, o.port)] }) := by
  have hdialled : ({ net with dials := net.dials ++ [(o.host, o.port)] } : Network).scriptAt?
      o.host o.port = none := h
  simp only [converse, hdialled]

/-- A server is at the address. -/
theorem converse_of_present {replies : List (List Char)}
    (h : net.scriptAt? o.host o.port = some replies) :
    converse o caller action net =
      ((play (enter o caller >>= action) (Wire.connect replies net.canProtect)).1, { net with
        listener := none
        dials := net.dials ++ [(o.host, o.port)]
        log := net.log ++
          (play (enter o caller >>= action) (Wire.connect replies net.canProtect)).2.log
        heard := net.heard ++
          (play (enter o caller >>= action) (Wire.connect replies net.canProtect)).2.peer.heard }) := by
  have hdialled : ({ net with dials := net.dials ++ [(o.host, o.port)] } : Network).scriptAt?
      o.host o.port = some replies := h
  simp only [converse, hdialled]
  rfl

variable (o caller action net) in
theorem dials_converse :
    (converse o caller action net).2.dials = net.dials ++ [(o.host, o.port)] := by
  cases hscript : net.scriptAt? o.host o.port with
  | none => rw [converse_of_absent hscript]
  | some replies => rw [converse_of_present hscript]

end

/-! ### What is sent -/

/-- The commands that are sent satisfy `Q` together with the outcome, wherever the server stands. -/
def Emits (s : Session α) (Q : List Command → Except Fault α → Prop) : Prop :=
  ∀ w, ∃ cs, (play s w).2.sent = w.sent ++ cs ∧ Q cs (play s w).1

namespace Emits

variable {s : Session α} {f : α → Session β} {P Q : List Command → Except Fault α → Prop}
  {R : List Command → Except Fault β → Prop}

theorem mono (h : Emits s P) (hPQ : ∀ cs r, P cs r → Q cs r) : Emits s Q := by
  intro w
  obtain ⟨cs, hsent, hP⟩ := h w
  exact ⟨cs, hsent, hPQ cs _ hP⟩

theorem bind (hs : Emits s P) (herror : ∀ cs e, P cs (.error e) → R cs (.error e))
    (hf : ∀ cs a, P cs (.ok a) → Emits (f a) fun ds r => R (cs ++ ds) r) : Emits (s >>= f) R := by
  intro w
  obtain ⟨cs, hsent, hP⟩ := hs w
  rw [play_bind]
  cases hplay : play s w with
  | mk r w' =>
    rw [hplay] at hsent hP
    cases r with
    | error e => exact ⟨cs, hsent, herror cs e hP⟩
    | ok a =>
      obtain ⟨ds, hsent', hR⟩ := hf cs a hP w'
      exact ⟨cs ++ ds, by rw [hsent', hsent, List.append_assoc], hR⟩

end Emits

end Mailroom.Smtp
