import Mailroom.Command.Settings
import Mailroom.Proofs.Options.FixedPoint

/-! The ways to come by a bag of properties, in all parts of the program. They lead to the normal bags,
and to no others. -/
namespace Mailroom.Command

open PropertyBag

variable {s : Surroundings} {bag : PropertyBag}

theorem isNormal_fileBag {files : Files} (h : fileBag files path = .ok bag) : bag.IsNormal := by
  simp only [fileBag, bind_eq_ok_iff, mapError_eq_ok_iff] at h
  obtain ⟨text, -, value, -, h⟩ := h
  exact isNormal_of_ofJson h

theorem isNormal_baseBag {optionsFile : Option String} (h : baseBag s optionsFile = .ok bag) :
    bag.IsNormal := by
  unfold baseBag at h
  split at h
  · exact isNormal_fileBag h
  · split at h
    · exact isNormal_fileBag h
    · obtain rfl := Except.ok.inj h
      exact isNormal_ofPairs _

theorem isNormal_overrideBag {texts : List String} (h : overrideBag texts = .ok bag) : bag.IsNormal := by
  refine invariant_of_foldlM ?_ isNormal_empty h
  intro bag text other hbag hadd
  unfold addOverride at hadd
  split at hadd
  · exact absurd hadd (by simp)
  · exact hbag.set (mapError_eq_ok_iff.1 hadd)

/-- Blanks do not matter to the properties, wherever they come from. -/
theorem isNormal_bag {sources : Sources} (h : sources.bag s = .ok bag) : bag.IsNormal := by
  simp only [Sources.bag, bind_eq_ok_iff, pure_eq_ok_iff] at h
  obtain ⟨base, hbase, overrides, hoverrides, rfl⟩ := h
  exact (isNormal_baseBag hbase).merge (isNormal_overrideBag hoverrides)

/-- The bag comes about in one of the ways to fill a bag. What is laid over another bag has come about
itself. -/
inductive Arises : PropertyBag → Prop where
  | empty : Arises .empty
  | edit {bag : PropertyBag} {e : Edit} : Arises bag → (∀ other, e = .merge other → Arises other) →
    Arises (bag.edit e).2
  | json {v : Json} {bag : PropertyBag} : PropertyBag.ofJson v = .ok bag → Arises bag
  | environment (lookup : String → Option String) : Arises (Options.environmentBag lookup)
  | overrides {texts : List String} {bag : PropertyBag} : overrideBag texts = .ok bag → Arises bag
  /-- What options keep of the bag that they are read from. -/
  | extra {bag : PropertyBag} {o : Options} : bag.IsNormal → Options.ofBag bag = .ok o → Arises o.extra
  | options {o : Options} : o.extra.IsNormal → Arises o.toBag

theorem arises_iff_isNormal : Arises bag ↔ bag.IsNormal := by
  constructor
  · intro h
    induction h with
    | empty => exact isNormal_empty
    | edit _ _ hbag hother => exact hbag.edit hother
    | json h => exact isNormal_of_ofJson h
    | environment lookup => exact isNormal_ofPairs _
    | overrides h => exact isNormal_overrideBag h
    | extra hbag h => exact (Options.readFrom_of_ofBag h).isNormal_extra hbag
    | options h => exact Options.isNormal_toBag h
  · intro h
    exact .json ((ofJson_toJson_eq_self_iff bag).2 h)

/-- What becomes of a bag that is written as JSON and read again. -/
structure IsReread (bag : PropertyBag) : Prop where
  same : PropertyBag.ofJson bag.toJson = .ok bag ↔ bag.IsNormal
  refused : (∃ f, PropertyBag.ofJson bag.toJson = .error f) ↔
    (∃ e ∈ bag.entries, Text.trim e.1 = "") ∨
      ∃ e ∈ bag.entries, ∃ e' ∈ bag.entries, e.1 ≠ e'.1 ∧ Text.trim e.1 = Text.trim e'.1
  /-- Another time changes nothing. -/
  settled : ∀ other, PropertyBag.ofJson bag.toJson = .ok other →
    other.IsNormal ∧ PropertyBag.ofJson other.toJson = .ok other

/-- The bags that come about are the normal ones, and a change that is refused, which is only the setting
of a blank key, leaves a bag as it is. Of all bags, those and no others are read from JSON as they were
written; one is refused exactly if blanks are all that makes up a key or keeps two keys apart. -/
theorem arises_iff_isNormal_and_isReread (bag : PropertyBag) :
    (Arises bag ↔ bag.IsNormal) ∧
      (∀ e f other, bag.edit e = (.error f, other) ↔
        other = bag ∧ f = .blankKey ∧ ∃ key value, e = .set key value ∧ Text.trim key = "") ∧
      IsReread bag := by
  refine ⟨arises_iff_isNormal, fun e f other => edit_eq_error_iff, ?_⟩
  refine ⟨ofJson_toJson_eq_self_iff bag, exists_ofJson_toJson_eq_error_iff bag, ?_⟩
  intro other h
  have hnormal := isNormal_of_ofJson h
  exact ⟨hnormal, (ofJson_toJson_eq_self_iff other).2 hnormal⟩

example : PropertyBag.ofJson (ofEntries [("team", "post"), ("team ", "parcels")]).toJson =
    .error (.duplicateKey "team") := by decide +kernel

end Mailroom.Command
