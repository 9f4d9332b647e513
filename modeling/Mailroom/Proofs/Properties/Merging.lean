import Mailroom.Proofs.Properties.Normal

/-! Bags that are laid over one another. It does not matter how the layers are grouped, and the bag of some
pairs and then others is the bag of the others over that of the first. -/
namespace Mailroom.PropertyBag

variable {k v : String} {pairs : List (String × String)}

/-- The last of the pairs that are for the key gives it this value; key and value of a pair count without the
blanks around them. -/
def GivesLast (pairs : List (String × String)) (k v : String) : Prop :=
  ∃ before pair after, pairs = before ++ pair :: after ∧ Text.trim pair.1 = k ∧ Text.trim pair.2 = v ∧
    ∀ later ∈ after, Text.trim later.1 ≠ k

/-! ### Pairs -/

theorem lastValue?_append (k : String) (xs ys : List (String × String)) :
    lastValue? k (xs ++ ys) = (lastValue? k ys).or (lastValue? k xs) := by
  simp [lastValue?, List.findSome?_append]

theorem lastValue?_eq_some_iff : lastValue? k pairs = some v ↔ GivesLast pairs k v := by
  simp only [lastValue?, List.findSome?_eq_some_iff, Option.ite_none_right_eq_some]
  constructor
  · rintro ⟨after, pair, before, hpairs, ⟨hk, hv⟩, hlater⟩
    refine ⟨before.reverse, pair, after.reverse, ?_, hk, Option.some.inj hv, ?_⟩
    · simpa using congrArg List.reverse hpairs
    · intro later hlate
      simpa using hlater later (List.mem_reverse.1 hlate)
  · rintro ⟨before, pair, after, rfl, hk, hv, hlater⟩
    refine ⟨after.reverse, pair, before.reverse, by simp, ⟨hk, congrArg some hv⟩, ?_⟩
    intro later hlate
    simpa using hlater later (List.mem_reverse.1 hlate)

/-- No pair fills the empty key. -/
private theorem get?_ofPairs_empty (pairs : List (String × String)) :
    (ofPairs pairs).get? "" = none := by
  by_contra h
  obtain ⟨v, hv⟩ := Option.ne_none_iff_exists'.1 h
  exact (isNormal_iff.1 (isNormal_ofPairs pairs) _ _ hv).1.2 rfl

theorem get?_ofPairs_eq_some_iff :
    (ofPairs pairs).get? k = some v ↔ k ≠ "" ∧ lastValue? k pairs = some v := by
  by_cases hk : k = ""
  · subst hk
    simp [get?_ofPairs_empty]
  · rw [get?_ofPairs _ hk]
    exact (and_iff_right hk).symm

/-- Pairs that follow others lie over them. -/
theorem ofPairs_append (xs ys : List (String × String)) :
    ofPairs (xs ++ ys) = (ofPairs xs).merge (ofPairs ys) := by
  apply ext_get?
  intro k
  rw [get?_merge]
  by_cases hk : k = ""
  · subst hk
    simp only [get?_ofPairs_empty, Option.or_none]
  · simp only [get?_ofPairs _ hk, lastValue?_append]

/-! ### Layers -/

theorem merge_assoc (a b c : PropertyBag) : (a.merge b).merge c = a.merge (b.merge c) := by
  apply ext_get?
  intro k
  simp only [get?_merge, Option.or_assoc]

theorem merge_self (a : PropertyBag) : a.merge a = a := by
  apply ext_get?
  intro k
  rw [get?_merge, Option.or_self]

theorem merge_empty (a : PropertyBag) : a.merge empty = a := rfl

theorem empty_merge (a : PropertyBag) : empty.merge a = a := by
  apply ext_get?
  intro k
  rw [get?_merge, get?_empty, Option.or_none]

/-- No key of a layer is lost. -/
theorem get?_merge_eq_none_iff (a b : PropertyBag) (k : String) :
    (a.merge b).get? k = none ↔ a.get? k = none ∧ b.get? k = none := by
  rw [get?_merge, Option.or_eq_none_iff, and_comm]

end Mailroom.PropertyBag
