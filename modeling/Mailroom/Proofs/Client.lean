import Mailroom.Client
import Mailroom.Proofs.Outcome

/-! Which options make a client, and what a client makes of a delivery. -/
namespace Mailroom

theorem Options.validate_eq_ok_iff {o : Options} : o.validate = .ok () ↔ o.problems = [] := by
  unfold Options.validate
  split
  · next h => simp [h]
  · next h => simpa using h

theorem Options.failsOnly_validate (o : Options) :
    FailsOnly (fun e => e = .configuration o.problems) o.validate := by
  unfold Options.validate
  split
  · exact failsOnly_ok _
  · exact failsOnly_error rfl

/-- Options without problems that ask for a login say under which name and with which password. -/
theorem Options.exists_credentials {o : Options} (h : o.problems = []) (hauth : o.auth = true) :
    ∃ user password, o.user = some user ∧ o.password = some password := by
  simp only [problems, hauth, if_true, List.append_eq_nil_iff, ite_eq_right_iff, List.cons_ne_nil,
    imp_false] at h
  obtain ⟨-, huser, hpassword⟩ := h
  cases hu : o.user with
  | none => exact absurd (by simp [hu]) huser
  | some user =>
    cases hp : o.password with
    | none => exact absurd (by simp [hp]) hpassword
    | some password => exact ⟨user, password, rfl, rfl⟩

namespace Client

variable {σ : Type} {o : Options} {t : Transport σ}

theorem create_eq_ok_iff {c : Client σ} :
    create o t = .ok c ↔ o.problems = [] ∧ c = { options := o, transport := t } := by
  constructor
  · intro h
    obtain ⟨⟨⟩, hvalid, hc⟩ := bind_eq_ok_iff.1 h
    exact ⟨Options.validate_eq_ok_iff.1 hvalid, (pure_eq_ok_iff.1 hc).symm⟩
  · rintro ⟨h, rfl⟩
    exact bind_eq_ok_iff.2 ⟨(), Options.validate_eq_ok_iff.2 h, rfl⟩

theorem failsOnly_create : FailsOnly (fun e => e = .configuration o.problems) (create o t) :=
  o.failsOnly_validate.bind fun _ => failsOnly_ok _

end Client

end Mailroom
