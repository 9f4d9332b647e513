import Mailroom.Proofs.Command.Layers
import Mailroom.Proofs.Properties.Merging

/-! Settings in several layers. They may be made in one pass or layer by layer, as pairs or as overrides;
only for overrides it matters that each of them is one. -/
namespace Mailroom.Command

open PropertyBag

variable {f : Failure} {texts : List String}

/-- The first of the texts that are at fault is refused in this way. -/
def RefusesFirst (texts : List String) (f : Failure) : Prop :=
  ∃ before text after, texts = before ++ text :: after ∧ (∀ t ∈ before, ¬IsFaulty t) ∧ Refuses text f

/-- Overrides that are made in place come to the same as overrides that are collected and then laid over. -/
private theorem foldlM_addOverride (base : PropertyBag) (texts : List String) :
    texts.foldlM addOverride base = (overrideBag texts).map base.merge := by
  rcases forall_or_exists_first_refuses texts with h | ⟨before, text, after, f, rfl, hbefore, hf⟩
  · obtain ⟨inPlace, hfold, hlayered⟩ := exists_isLayered base h
    obtain ⟨collected, hcollect, hlayer⟩ := exists_isLayered .empty h
    have hbag : overrideBag texts = .ok collected := hcollect
    rw [hfold, hbag, hlayered.unique (hlayer.merge base)]
    rfl
  · have hbag : overrideBag (before ++ text :: after) = .error f :=
      foldlM_addOverride_of_refuses .empty hbefore hf
    rw [foldlM_addOverride_of_refuses base hbefore hf, hbag]
    rfl

theorem overrideBag_append (xs ys : List String) :
    overrideBag (xs ++ ys) = do
      let a ← overrideBag xs
      let b ← overrideBag ys
      return a.merge b := by
  have hlater (a : PropertyBag) :
      ys.foldlM addOverride a = (overrideBag ys >>= fun b => pure (a.merge b)) := by
    rw [foldlM_addOverride]
    cases overrideBag ys <;> rfl
  rw [overrideBag, List.foldlM_append]
  exact bind_congr hlater

theorem overrideBag_eq_error_iff : overrideBag texts = .error f ↔ RefusesFirst texts f := by
  constructor
  · intro h
    rcases forall_or_exists_first_refuses texts with hnone | ⟨before, text, after, g, rfl, hbefore, hg⟩
    · obtain ⟨bag, hbag, -⟩ := exists_isLayered .empty hnone
      exact nomatch h.symm.trans hbag
    · obtain rfl : f = g := Except.error.inj (h.symm.trans (foldlM_addOverride_of_refuses _ hbefore hg))
      exact ⟨before, text, after, rfl, hbefore, hg⟩
  · rintro ⟨before, text, after, rfl, hbefore, hf⟩
    exact foldlM_addOverride_of_refuses .empty hbefore hf

/-- Overrides fail together exactly if some of them fail apart. -/
private theorem exists_overrideBag_append_eq_error_iff (xs ys : List String) :
    (∃ f, overrideBag (xs ++ ys) = .error f) ↔
      (∃ f, overrideBag xs = .error f) ∨ ∃ f, overrideBag ys = .error f := by
  rw [overrideBag_append]
  cases overrideBag xs with
  | error f => simp [bind, Except.bind]
  | ok a =>
    cases overrideBag ys with
    | error f => simp [bind, Except.bind]
    | ok b => simp [bind, Except.bind, pure, Except.pure]

/-- Pairs one after the other, or bags of them over one another, are the same: each key has the trimmed
value of the last pair for it. Layers may be grouped at will; a layer over itself or an empty one changes
nothing, and no key is lost. Overrides do the same as long as each of them is one, and otherwise the first
that is not is reported. -/
theorem layers_can_be_joined :
    (∀ xs ys, ofPairs (xs ++ ys) = (ofPairs xs).merge (ofPairs ys)) ∧
      (∀ xs k v, (ofPairs xs).get? k = some v ↔ k ≠ "" ∧ GivesLast xs k v) ∧
      (∀ a b c : PropertyBag, (a.merge b).merge c = a.merge (b.merge c)) ∧
      (∀ a : PropertyBag, a.merge a = a ∧ a.merge .empty = a ∧ PropertyBag.empty.merge a = a) ∧
      (∀ (a b : PropertyBag) k, (a.merge b).get? k = (b.get? k).or (a.get? k) ∧
        ((a.merge b).get? k = none ↔ a.get? k = none ∧ b.get? k = none)) ∧
      (∀ xs ys, (∃ f, overrideBag (xs ++ ys) = .error f) ↔
        (∃ f, overrideBag xs = .error f) ∨ ∃ f, overrideBag ys = .error f) ∧
      (∀ xs ys f, overrideBag (xs ++ ys) = .error f ↔ RefusesFirst (xs ++ ys) f) ∧
      (∀ xs ys, overrideBag (xs ++ ys) = do
        let a ← overrideBag xs
        let b ← overrideBag ys
        return a.merge b) ∧
      ∀ base texts, texts.foldlM addOverride base = (overrideBag texts).map base.merge :=
  ⟨ofPairs_append, fun _ _ _ => get?_ofPairs_eq_some_iff.trans (and_congr_right' lastValue?_eq_some_iff),
    merge_assoc, fun a => ⟨merge_self a, merge_empty a, empty_merge a⟩,
    fun a b k => ⟨get?_merge a b k, get?_merge_eq_none_iff a b k⟩,
    exists_overrideBag_append_eq_error_iff, fun _ _ _ => overrideBag_eq_error_iff, overrideBag_append,
    foldlM_addOverride⟩

example : overrideBag ["team=post", " team = mail=1", "=x", "y"] =
    .error (.refusedOverride "=x" .blankKey) := by decide +kernel

end Mailroom.Command
