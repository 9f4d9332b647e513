import Mailroom.Proofs.Options.Reading

/-! How options fail to be read. -/
namespace Mailroom.Options

variable {bag : PropertyBag} {e : Error}

def IsOfProperty (e : Error) : Prop := ∃ key fault, e = .invalidProperty key fault

theorem IsRefusedFor.isOfProperty (h : IsRefusedFor bag e) : IsOfProperty e := by
  cases h with
  | protocol hget hnone => exact ⟨_, _, rfl⟩
  | setting hp h =>
    obtain ⟨before, c, after, text, -, -, -, rfl⟩ := h
    exact ⟨_, _, rfl⟩

theorem failsOnly_ofBag (bag : PropertyBag) : FailsOnly IsOfProperty (ofBag bag) := by
  intro e he
  exact (ofBag_eq_error_iff.1 he).isOfProperty

end Mailroom.Options
