import Mailroom.Smtp.Reply

/-! The codes of replies that can be read. -/
namespace Mailroom.Smtp

variable {cs rest : List Char}

private theorem scanDigit_eq_found {first last : Char} {d : Nat}
    (h : scanDigit first last cs = .found d rest) :
    first.toNat - '0'.toNat ≤ d ∧ d ≤ last.toNat - '0'.toNat := by
  unfold scanDigit at h
  split at h
  · cases h
  · split at h
    · next hc =>
      cases h
      exact ⟨Nat.sub_le_sub_right hc.1 _, Nat.sub_le_sub_right hc.2 _⟩
    · cases h

private theorem scanCode_eq_found {code : Nat} (h : scanCode cs = .found code rest) :
    200 ≤ code ∧ code < 600 := by
  unfold scanCode at h
  split at h
  · next a _ ha =>
    split at h
    · next b _ hb =>
      split at h
      · next c _ hc =>
        cases h
        have ha := scanDigit_eq_found ha
        have hb := scanDigit_eq_found hb
        have hc := scanDigit_eq_found hc
        simp only [Char.reduceToNat] at ha hb hc
        omega
      · next hnone => exact absurd h (hnone _ _)
    · next hnone => exact absurd h (hnone _ _)
  · next hnone => exact absurd h (hnone _ _)

private theorem scanLines_eq_found {fuel : Nat} {done : List (Nat × List Char)} {r : Reply}
    (h : scanLines done fuel cs = .found r rest) : 200 ≤ r.code ∧ r.code < 600 := by
  induction fuel generalizing done cs with
  | zero => cases h
  | succ fuel ih =>
    unfold scanLines at h
    split at h
    · cases h
    · cases h
    · cases h
    · next code c cs' hcode =>
      split at h
      · split at h
        · cases h
        · exact ih h
      · split at h
        · split at h
          · cases h
          · split at h
            · cases h
              exact scanCode_eq_found hcode
            · cases h
        · cases h

private theorem readReplyFrom_eq_ok {fuel : Nat} {read unread : List Char} {r : Reply}
    (h : (readReplyFrom fuel read unread).1 = .ok r) : 200 ≤ r.code ∧ r.code < 600 := by
  induction fuel generalizing read unread with
  | zero => cases h
  | succ fuel ih =>
    unfold readReplyFrom at h
    split at h
    · cases h
    · split at h
      · next hscan =>
        cases h
        exact scanLines_eq_found hscan
      · cases h
      · exact ih h

/-- The code of a reply has three digits, the first of them from 2 to 5. -/
theorem code_of_readReply {unread : List Char} {r : Reply} (h : (readReply unread).1 = .ok r) :
    200 ≤ r.code ∧ r.code < 600 :=
  readReplyFrom_eq_ok h

/-- A reply is not positive exactly if its code says so. -/
theorem isPositive_eq_false_iff {unread : List Char} {r : Reply} (h : (readReply unread).1 = .ok r) :
    r.isPositive = false ↔ 400 ≤ r.code := by
  have hcode := code_of_readReply h
  simp only [Reply.isPositive, Bool.and_eq_false_iff, decide_eq_false_iff_not]
  omega

end Mailroom.Smtp
