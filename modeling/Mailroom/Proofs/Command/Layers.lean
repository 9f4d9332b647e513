import Mailroom.Command.Settings
import Mailroom.Proofs.Outcome
import Mailroom.Proofs.Properties.Lookup
import Mailroom.Proofs.Properties.Normal
import Mailroom.Proofs.Text.Cutting

/-! The layers from which the properties come: a file or else the environment, and overrides over it. -/
namespace Mailroom.Command

open PropertyBag

/-! ### Overrides -/

/-- The text is a key and a value, with the first equals sign of the text between them. -/
def IsPair (text key value : String) : Prop :=
  text = key ++ "=" ++ value ∧ '=' ∉ key.toList

def Assigns (text k v : String) : Prop :=
  ∃ key value, IsPair text key value ∧ Text.trim key = k ∧ Text.trim value = v

/-- The text is no override: it has no equals sign, or nothing in front of the first one. -/
def IsFaulty (text : String) : Prop :=
  '=' ∉ text.toList ∨ ∃ v, Assigns text "" v

inductive Refuses (text : String) : Failure → Prop
  | bare (h : '=' ∉ text.toList) : Refuses text (.bareOverride text)
  | blank {v : String} (h : Assigns text "" v) : Refuses text (.refusedOverride text .blankKey)

def AssignsLast (texts : List String) (k v : String) : Prop :=
  ∃ before text after, texts = before ++ text :: after ∧ Assigns text k v ∧
    ∀ later ∈ after, ∀ w, ¬Assigns later k w

/-- The bag is another one under overrides, which hold for the keys that they name. -/
structure IsLayered (base : PropertyBag) (texts : List String) (bag : PropertyBag) : Prop where
  overridden : ∀ k v, AssignsLast texts k v → bag.get? k = some v
  kept : ∀ k, (∀ text ∈ texts, ∀ v, ¬Assigns text k v) → bag.get? k = base.get? k

variable {bag base : PropertyBag} {text k v : String} {texts : List String}

theorem cutFirst?_eq_some_iff {a b : List Char} :
    Text.cutFirst? (· == '=') text.toList = some (a, b) ↔ IsPair text (.ofList a) (.ofList b) := by
  constructor
  · intro h
    obtain ⟨c, hc, htext, ha⟩ := Text.eq_append_of_cutFirst? h
    obtain rfl : c = '=' := by simpa using hc
    refine ⟨?_, ?_⟩
    · rw [← String.toList_inj, htext]
      simp
    · intro hmem
      simpa using ha '=' (by simpa using hmem)
  · rintro ⟨rfl, hkey⟩
    have ha : ∀ x ∈ a, (x == '=') = false := by
      intro x hx
      have hne : x ≠ '=' := by
        rintro rfl
        exact hkey (by simpa using hx)
      simpa using hne
    simpa using Text.cutFirst?_append ha (by rfl) b

theorem IsPair.unique {key value key' value' : String} (h : IsPair text key value)
    (h' : IsPair text key' value') : key = key' ∧ value = value' := by
  have hcut {a b : String} (hab : IsPair text a b) :
      Text.cutFirst? (· == '=') text.toList = some (a.toList, b.toList) :=
    cutFirst?_eq_some_iff.2 (by simpa using hab)
  have heq := (hcut h).symm.trans (hcut h')
  simpa [String.toList_inj] using heq

theorem Assigns.unique {k' v' : String} (h : Assigns text k v) (h' : Assigns text k' v') :
    k = k' ∧ v = v' := by
  obtain ⟨key, value, hpair, rfl, rfl⟩ := h
  obtain ⟨key', value', hpair', rfl, rfl⟩ := h'
  obtain ⟨rfl, rfl⟩ := hpair.unique hpair'
  exact ⟨rfl, rfl⟩

private theorem exists_assigns (h : '=' ∈ text.toList) : ∃ k v, Assigns text k v := by
  cases hcut : Text.cutFirst? (· == '=') text.toList with
  | none => simpa using Text.cutFirst?_eq_none_iff.1 hcut '=' h
  | some parts => exact ⟨_, _, _, _, cutFirst?_eq_some_iff.1 hcut, rfl, rfl⟩

/-- A text that is at fault is refused in one way, and any other gives a value to a key that is not
blank. -/
theorem isFaulty_or_assigns (text : String) :
    (∃ f, Refuses text f ∧ IsFaulty text) ∨ ∃ k v, Assigns text k v ∧ k ≠ "" := by
  by_cases hsign : '=' ∈ text.toList
  · obtain ⟨k, v, h⟩ := exists_assigns hsign
    by_cases hk : k = ""
    · subst hk
      exact .inl ⟨_, .blank h, .inr ⟨v, h⟩⟩
    · exact .inr ⟨k, v, h, hk⟩
  · exact .inl ⟨_, .bare hsign, .inl hsign⟩

private theorem Assigns.not_isFaulty (h : Assigns text k v) (hk : k ≠ "") : ¬IsFaulty text := by
  rintro (hsign | ⟨w, hblank⟩)
  · obtain ⟨key, value, ⟨rfl, -⟩, -, -⟩ := h
    simp at hsign
  · exact hk (h.unique hblank).1

private theorem Refuses.isFaulty {f : Failure} (h : Refuses text f) : IsFaulty text := by
  cases h with
  | bare h => exact .inl h
  | blank h => exact .inr ⟨_, h⟩

/-! ### What overrides do, one by one and all together -/

private theorem addOverride_of_isPair {key value : String} (bag : PropertyBag)
    (h : IsPair text key value) :
    addOverride bag text = (bag.set key value).mapError (.refusedOverride text) := by
  have hcut : Text.cutFirst? (· == '=') text.toList = some (key.toList, value.toList) :=
    cutFirst?_eq_some_iff.2 (by simpa using h)
  simp [addOverride, hcut]

private theorem addOverride_of_assigns (bag : PropertyBag) (h : Assigns text k v) (hk : k ≠ "") :
    addOverride bag text = .ok (bag.put k v) := by
  obtain ⟨key, value, hpair, rfl, rfl⟩ := h
  rw [addOverride_of_isPair bag hpair, mapError_eq_ok_iff]
  simp [PropertyBag.set, hk]

private theorem addOverride_of_refuses {f : Failure} (bag : PropertyBag) (h : Refuses text f) :
    addOverride bag text = .error f := by
  cases h with
  | bare hsign =>
    have hcut : Text.cutFirst? (· == '=') text.toList = none := by
      rw [Text.cutFirst?_eq_none_iff]
      intro c hc
      have hne : c ≠ '=' := by
        rintro rfl
        exact hsign hc
      simpa using hne
    simp [addOverride, hcut]
  | blank h =>
    obtain ⟨key, value, hpair, hkey, -⟩ := h
    rw [addOverride_of_isPair bag hpair, set_eq_error_iff.2 ⟨hkey, rfl⟩]
    rfl

private theorem isLayered_nil (bag : PropertyBag) : IsLayered bag [] bag := by
  refine ⟨?_, fun _ _ => rfl⟩
  rintro k v ⟨before, text, after, h, -⟩
  simp at h

/-- One more override below the others. -/
theorem IsLayered.cons {other : PropertyBag} (h : Assigns text k v)
    (hother : IsLayered (bag.put k v) texts other) : IsLayered bag (text :: texts) other := by
  refine ⟨?_, ?_⟩
  · rintro l w ⟨before, last, after, htexts, hlast, hafter⟩
    cases before with
    | nil =>
      obtain ⟨rfl, rfl⟩ := List.cons.inj htexts
      obtain ⟨rfl, rfl⟩ := h.unique hlast
      rw [hother.kept _ hafter, get?_put_self]
    | cons first before =>
      obtain ⟨rfl, rfl⟩ := List.cons.inj htexts
      exact hother.overridden l w ⟨before, last, after, rfl, hlast, hafter⟩
  · intro l hl
    obtain ⟨htext, htexts⟩ := List.forall_mem_cons.1 hl
    have hne : l ≠ k := by
      rintro rfl
      exact htext v h
    rw [hother.kept l htexts, get?_put_of_ne bag hne]

theorem exists_isLayered (bag : PropertyBag) (h : ∀ text ∈ texts, ¬IsFaulty text) :
    ∃ other, texts.foldlM addOverride bag = .ok other ∧ IsLayered bag texts other := by
  induction texts generalizing bag with
  | nil => exact ⟨bag, rfl, isLayered_nil bag⟩
  | cons text texts ih =>
    obtain ⟨htext, htexts⟩ := List.forall_mem_cons.1 h
    rcases isFaulty_or_assigns text with ⟨f, -, hfaulty⟩ | ⟨k, v, hassigns, hk⟩
    · exact absurd hfaulty htext
    · obtain ⟨other, hfold, hother⟩ := ih (bag.put k v) htexts
      refine ⟨other, ?_, hother.cons hassigns⟩
      rw [List.foldlM_cons, addOverride_of_assigns bag hassigns hk]
      exact hfold

/-- The first text that is at fault is the one that is reported. -/
theorem foldlM_addOverride_of_refuses {before after : List String} {f : Failure} (bag : PropertyBag)
    (hbefore : ∀ text ∈ before, ¬IsFaulty text) (h : Refuses text f) :
    (before ++ text :: after).foldlM addOverride bag = .error f := by
  obtain ⟨other, hfold, -⟩ := exists_isLayered bag hbefore
  rw [List.foldlM_append, hfold]
  change (text :: after).foldlM addOverride other = .error f
  rw [List.foldlM_cons, addOverride_of_refuses other h]
  rfl

/-- No text is at fault, or one is the first. -/
theorem forall_or_exists_first_refuses (texts : List String) :
    (∀ text ∈ texts, ¬IsFaulty text) ∨
      ∃ before text after f, texts = before ++ text :: after ∧ (∀ text ∈ before, ¬IsFaulty text) ∧
        Refuses text f := by
  induction texts with
  | nil => exact .inl (by simp)
  | cons text texts ih =>
    rcases isFaulty_or_assigns text with ⟨f, hf, -⟩ | ⟨k, v, hassigns, hk⟩
    · exact .inr ⟨[], text, texts, f, rfl, by simp, hf⟩
    · have htext := hassigns.not_isFaulty hk
      rcases ih with h | ⟨before, last, after, f, rfl, hbefore, hf⟩
      · exact .inl (List.forall_mem_cons.2 ⟨htext, h⟩)
      · exact .inr ⟨text :: before, last, after, f, rfl, List.forall_mem_cons.2 ⟨htext, hbefore⟩, hf⟩

private theorem exists_assignsLast (h : ∃ text ∈ texts, ∃ v, Assigns text k v) :
    ∃ v, AssignsLast texts k v := by
  induction texts with
  | nil => simp at h
  | cons text texts ih =>
    by_cases hlater : ∃ text ∈ texts, ∃ v, Assigns text k v
    · obtain ⟨v, before, last, after, rfl, hlast⟩ := ih hlater
      exact ⟨v, text :: before, last, after, rfl, hlast⟩
    · obtain ⟨first, hfirst, v, hv⟩ := h
      rcases List.mem_cons.1 hfirst with rfl | hfirst
      · exact ⟨v, [], first, texts, rfl, hv, fun later hlate w hw => hlater ⟨later, hlate, w, hw⟩⟩
      · exact absurd ⟨first, hfirst, v, hv⟩ hlater

/-- There is one bag under overrides. -/
theorem IsLayered.unique {other : PropertyBag} (h : IsLayered base texts bag)
    (hother : IsLayered base texts other) : bag = other := by
  apply ext_get?
  intro k
  by_cases hk : ∃ text ∈ texts, ∃ v, Assigns text k v
  · obtain ⟨v, hv⟩ := exists_assignsLast hk
    rw [h.overridden k v hv, hother.overridden k v hv]
  · have hnone : ∀ text ∈ texts, ∀ v, ¬Assigns text k v :=
      fun text htext v hv => hk ⟨text, htext, v, hv⟩
    rw [h.kept k hnone, hother.kept k hnone]

/-- Overrides that are collected first do the same as overrides that are made in place. -/
theorem IsLayered.merge (h : IsLayered .empty texts bag) (base : PropertyBag) :
    IsLayered base texts (base.merge bag) := by
  refine ⟨?_, ?_⟩
  · intro k v hv
    rw [get?_merge, h.overridden k v hv, Option.some_or]
  · intro k hk
    rw [get?_merge, h.kept k hk, get?_empty, Option.none_or]

/-! ### Files and variables -/

def Sources.file? (sources : Sources) (s : Surroundings) : Option String :=
  sources.optionsFile.or (if s.files.has s.defaultPath then some s.defaultPath else none)

def FileHolds (files : Files) (path : String) (bag : PropertyBag) : Prop :=
  ∃ text value, files.text path = .ok text ∧ Json.ofText text = .ok value ∧
    PropertyBag.ofJson value = .ok bag

inductive FileFails (files : Files) (path : String) : Failure → Prop
  | unreadable {fault : FileFault} (h : files.text path = .error fault) :
      FileFails files path (.unreadableFile path fault)
  | notJson {text : String} {fault : Json.Fault} (htext : files.text path = .ok text)
      (h : Json.ofText text = .error fault) : FileFails files path (.notJson path fault)
  | refused {text : String} {value : Json} {fault : PropertyFault} (htext : files.text path = .ok text)
      (hvalue : Json.ofText text = .ok value) (h : PropertyBag.ofJson value = .error fault) :
      FileFails files path (.refusedFile path fault)

/-- The bag that overrides are laid over: of the file if there is one to read, and of the variables
otherwise. -/
inductive IsBase (sources : Sources) (s : Surroundings) : PropertyBag → Prop
  | file {path : String} {bag : PropertyBag} (hfile : sources.file? s = some path)
      (h : FileHolds s.files path bag) : IsBase sources s bag
  | environment (hfile : sources.file? s = none) : IsBase sources s (Options.environmentBag s.lookup)

/-- What the sources come to. A file that gives no bag is reported before any override, and of the overrides
the first that is at fault. -/
inductive ResolvesTo (sources : Sources) (s : Surroundings) : Except Failure PropertyBag → Prop
  | badFile {path : String} {f : Failure} (hfile : sources.file? s = some path)
      (h : FileFails s.files path f) : ResolvesTo sources s (.error f)
  | badOverride {base : PropertyBag} {before after : List String} {text : String} {f : Failure}
      (hbase : IsBase sources s base) (htexts : sources.overrides = before ++ text :: after)
      (hbefore : ∀ text ∈ before, ¬IsFaulty text) (h : Refuses text f) : ResolvesTo sources s (.error f)
  | bag {base bag : PropertyBag} (hbase : IsBase sources s base)
      (htexts : ∀ text ∈ sources.overrides, ¬IsFaulty text)
      (h : IsLayered base sources.overrides bag) : ResolvesTo sources s (.ok bag)

section
variable {files : Files} {path : String}

theorem fileBag_eq_ok_iff : fileBag files path = .ok bag ↔ FileHolds files path bag := by
  simp only [fileBag, bind_eq_ok_iff, mapError_eq_ok_iff, FileHolds]
  constructor
  · rintro ⟨text, htext, value, hvalue, h⟩
    exact ⟨text, value, htext, hvalue, h⟩
  · rintro ⟨text, value, htext, hvalue, h⟩
    exact ⟨text, htext, value, hvalue, h⟩

theorem fileBag_eq_error_iff {f : Failure} : fileBag files path = .error f ↔ FileFails files path f := by
  simp only [fileBag, bind_eq_error_iff, mapError_eq_error_iff, mapError_eq_ok_iff]
  constructor
  · rintro (⟨fault, h, rfl⟩ | ⟨text, htext, ⟨fault, h, rfl⟩ | ⟨value, hvalue, fault, h, rfl⟩⟩)
    · exact .unreadable h
    · exact .notJson htext h
    · exact .refused htext hvalue h
  · intro h
    cases h with
    | unreadable h => exact .inl ⟨_, h, rfl⟩
    | notJson htext h => exact .inr ⟨_, htext, .inl ⟨_, h, rfl⟩⟩
    | refused htext hvalue h => exact .inr ⟨_, htext, .inr ⟨_, hvalue, _, h, rfl⟩⟩

end

section
variable {sources : Sources} {s : Surroundings}

private theorem baseBag_eq (sources : Sources) (s : Surroundings) :
    baseBag s sources.optionsFile =
      match sources.file? s with
      | some path => fileBag s.files path
      | none => .ok (Options.environmentBag s.lookup) := by
  unfold baseBag Sources.file?
  cases sources.optionsFile with
  | some path => rfl
  | none =>
    cases hhas : s.files.has s.defaultPath with
    | false => rfl
    | true => rfl

theorem baseBag_eq_ok_iff : baseBag s sources.optionsFile = .ok base ↔ IsBase sources s base := by
  rw [baseBag_eq]
  constructor
  · intro h
    split at h
    · next hfile => exact .file hfile (fileBag_eq_ok_iff.1 h)
    · next hfile =>
      obtain rfl := Except.ok.inj h
      exact .environment hfile
  · intro h
    cases h with
    | file hfile h =>
      rw [hfile]
      exact fileBag_eq_ok_iff.2 h
    | environment hfile => rw [hfile]

theorem baseBag_eq_error_iff {f : Failure} :
    baseBag s sources.optionsFile = .error f ↔
      ∃ path, sources.file? s = some path ∧ FileFails s.files path f := by
  rw [baseBag_eq]
  cases sources.file? s with
  | none => simp
  | some path => simp [fileBag_eq_error_iff]

/-- The sources come to something, whatever they are. -/
theorem resolvesTo_bag (sources : Sources) (s : Surroundings) : ResolvesTo sources s (sources.bag s) := by
  unfold Sources.bag
  cases hbase : baseBag s sources.optionsFile with
  | error f =>
    obtain ⟨path, hfile, h⟩ := baseBag_eq_error_iff.1 hbase
    exact .badFile hfile h
  | ok base =>
    have hbase := baseBag_eq_ok_iff.1 hbase
    rcases forall_or_exists_first_refuses sources.overrides with h | ⟨before, text, after, f, htexts, hbefore, hf⟩
    · obtain ⟨bag, hfold, hbag⟩ := exists_isLayered .empty h
      have hoverrides : overrideBag sources.overrides = .ok bag := hfold
      simp only [hoverrides, bind, Except.bind]
      exact .bag hbase h (hbag.merge base)
    · have hoverrides : overrideBag sources.overrides = .error f := by
        rw [htexts]
        exact foldlM_addOverride_of_refuses .empty hbefore hf
      simp only [hoverrides, bind, Except.bind]
      exact .badOverride hbase htexts hbefore hf

/-- The sources come to one thing. -/
theorem ResolvesTo.bag_eq {x : Except Failure PropertyBag} (h : ResolvesTo sources s x) :
    sources.bag s = x := by
  cases h with
  | badFile hfile h =>
    have hbase := baseBag_eq_error_iff.2 ⟨_, hfile, h⟩
    simp only [Sources.bag, hbase, bind, Except.bind]
  | @badOverride base before after text f hbase htexts hbefore h =>
    have hoverrides : (before ++ text :: after).foldlM addOverride .empty = .error f :=
      foldlM_addOverride_of_refuses .empty hbefore h
    simp only [Sources.bag, baseBag_eq_ok_iff.2 hbase, overrideBag, htexts, hoverrides, bind, Except.bind]
  | @bag base bag hbase htexts h =>
    obtain ⟨other, hfold, hother⟩ := exists_isLayered .empty htexts
    obtain rfl : base.merge other = bag := (hother.merge base).unique h
    simp only [Sources.bag, baseBag_eq_ok_iff.2 hbase, overrideBag, hfold, bind, Except.bind]
    rfl

private theorem exists_bag_eq_error_iff :
    (∃ f, sources.bag s = .error f) ↔
      (∃ path f, sources.file? s = some path ∧ FileFails s.files path f) ∨
        ∃ text ∈ sources.overrides, IsFaulty text := by
  constructor
  · rintro ⟨f, hf⟩
    have h := resolvesTo_bag sources s
    rw [hf] at h
    cases h with
    | badFile hfile h => exact .inl ⟨_, f, hfile, h⟩
    | badOverride hbase htexts hbefore h =>
      right
      exact ⟨_, by simp [htexts], h.isFaulty⟩
  · intro hfaulty
    cases hbag : sources.bag s with
    | error f => exact ⟨f, rfl⟩
    | ok bag =>
      have h := resolvesTo_bag sources s
      rw [hbag] at h
      cases h with
      | bag hbase htexts h =>
        rcases hfaulty with ⟨path, f, hfile, hfails⟩ | ⟨text, htext, hfaulty⟩
        · exact nomatch (baseBag_eq_ok_iff.2 hbase).symm.trans
            (baseBag_eq_error_iff.2 ⟨path, hfile, hfails⟩)
        · exact absurd hfaulty (htexts text htext)

end

/-! ### Variables that a file makes idle -/

structure SameButMail (s s' : Surroundings) : Prop where
  files : s'.files = s.files
  accountHome : s'.accountHome = s.accountHome
  lookup : ∀ name, (∀ rest, name ≠ Options.variableName rest) → s'.lookup name = s.lookup name

section
variable {sources : Sources} {s s' : Surroundings}

private theorem SameButMail.defaultPath_eq (h : SameButMail s s') :
    s'.defaultPath = s.defaultPath := by
  have hother : ∀ name : String, name.toList.head? ≠ some 'P' → s'.lookup name = s.lookup name := by
    intro name hname
    apply h.lookup
    rintro rest rfl
    exact hname (by rw [Options.variableName, String.toList_append]; rfl)
  simp only [Surroundings.defaultPath, Surroundings.configDirectory, Surroundings.home?, h.accountHome,
    hother "HOME" (by decide), hother "XDG_CONFIG_HOME" (by decide)]

private theorem SameButMail.file?_eq (h : SameButMail s s') :
    sources.file? s' = sources.file? s := by
  simp only [Sources.file?, h.files, h.defaultPath_eq]

private theorem SameButMail.bag_eq (h : SameButMail s s') (hfile : sources.file? s ≠ none) :
    sources.bag s' = sources.bag s := by
  obtain ⟨path, hpath⟩ := Option.ne_none_iff_exists'.1 hfile
  simp only [Sources.bag, baseBag_eq, h.file?_eq, hpath, h.files]

end

/-- The properties cannot be had exactly if the file that is read gives no bag or an override is at fault, in
that order. Otherwise the overrides are laid over the bag of that file, or of the variables if there is no
file. If there is one, no variable that sets properties has a say in the properties, the options or the
failure. -/
theorem bag_eq_iff_resolvesTo (sources : Sources) (s : Surroundings) :
    ((∃ f, sources.bag s = .error f) ↔
        (∃ path f, sources.file? s = some path ∧ FileFails s.files path f) ∨
          ∃ text ∈ sources.overrides, IsFaulty text) ∧
      (∀ x, sources.bag s = x ↔ ResolvesTo sources s x) ∧
      ∀ s', SameButMail s s' → sources.file? s ≠ none →
        sources.bag s' = sources.bag s ∧ sources.options s' = sources.options s := by
  refine ⟨exists_bag_eq_error_iff, fun x => ⟨?_, ResolvesTo.bag_eq⟩, ?_⟩
  · rintro rfl
    exact resolvesTo_bag sources s
  · intro s' hsame hfile
    have hbag := hsame.bag_eq hfile
    exact ⟨hbag, by rw [Sources.options, Sources.options, hbag]⟩

def layeredSurroundings (port : String) : Surroundings where
  lookup name :=
    if name = "HOME" then some "/home/me"
    else if name = Options.variableName "SMTP_PORT" then some port
    else none
  files path :=
    if path = "/home/me/.config/postline/options.json" then
      .ok (Text.utf8 "\x7b\"mail.smtp.host\": \"file.example.com\", \"team\": \" post \"\x7d".toList)
    else .error .absent

def layeredOverrides : List String :=
  ["mail.smtp.host=a.example.com", " mail.smtp.host = b=c ", "mail.user="]

def layeredBag : PropertyBag :=
  .ofPairs [("mail.smtp.host", "b=c"), ("mail.user", ""), ("team", "post")]

/-- The file and the overrides are read whatever the variable says, and of two overrides at fault the first
is reported. -/
theorem layeredBag_resolves :
    (ResolvesTo ⟨none, layeredOverrides⟩ (layeredSurroundings "2525") (.ok layeredBag) ∧
      SameButMail (layeredSurroundings "2525") (layeredSurroundings "none") ∧
      Sources.file? ⟨none, layeredOverrides⟩ (layeredSurroundings "2525") ≠ none ∧
      Sources.bag ⟨none, layeredOverrides⟩ (layeredSurroundings "none") = .ok layeredBag) ∧
      ResolvesTo ⟨none, ["team=post", " = x", "y"]⟩ (layeredSurroundings "2525")
        (.error (.refusedOverride " = x" .blankKey)) := by
  have hbag : Sources.bag ⟨none, layeredOverrides⟩ (layeredSurroundings "2525") = .ok layeredBag := by
    decide +kernel
  have hfault : Sources.bag ⟨none, ["team=post", " = x", "y"]⟩ (layeredSurroundings "2525") =
      .error (.refusedOverride " = x" .blankKey) := by decide +kernel
  have hsame : SameButMail (layeredSurroundings "2525") (layeredSurroundings "none") := by
    refine ⟨rfl, rfl, fun name hname => ?_⟩
    simp only [layeredSurroundings, if_neg (hname "SMTP_PORT")]
  have hfile : Sources.file? ⟨none, layeredOverrides⟩ (layeredSurroundings "2525") ≠ none := by
    decide +kernel
  have ⟨_, hiff, hidle⟩ := bag_eq_iff_resolvesTo ⟨none, layeredOverrides⟩ (layeredSurroundings "2525")
  refine ⟨⟨(hiff _).1 hbag, hsame, hfile, ?_⟩, ?_⟩
  · exact (hidle _ hsame hfile).1.trans hbag
  · exact ((bag_eq_iff_resolvesTo _ _).2.1 _).1 hfault

end Mailroom.Command
