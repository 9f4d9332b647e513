import Mailroom.Proofs.Decimal.Rendering
import Mailroom.Proofs.Options.Blank
import Mailroom.Proofs.Options.Settling
import Mailroom.Proofs.Properties.Flat

/-! Numbers and truth values that an entry of a JSON object gives to the options: just the values that stand for
them are taken, as they are, and any other one is refused or leaves the default. -/
namespace Mailroom

namespace Json

inductive IsNumber : Json → Nat → Prop
  | whole (n : Nat) : IsNumber (.number (.whole n)) n
  | numeral {s : String} {n : Nat} (h : Decimal.IsNumeral (Text.trim s).toList n) : IsNumber (.string s) n

/-- The value is the truth value, the number for it, or a string that is a word for it but for blanks. -/
inductive IsTruth : Json → Bool → Prop
  | bool (b : Bool) : IsTruth (.bool b) b
  | whole (b : Bool) : IsTruth (.number (.whole b.toNat)) b
  | word {s : String} {b : Bool} (h : Options.IsTruth (Text.trim s) b) : IsTruth (.string s) b

inductive IsBlank : Json → Prop
  | null : IsBlank .null
  | string {s : String} (h : Text.trim s = "") : IsBlank (.string s)

end Json

namespace Options

open PropertyBag

/-- What comes of an entry for a field: values that stand for one of the field are taken, blank ones leave its
default, and all others are refused, containers before anything is read. -/
structure IsTaken {α : Type} (value default : Options → α) (Stands : Json → α → Prop) (key : String) (v : Json)
    (outcome : Except Error Options) : Prop where
  read_iff : ¬v.IsBlank → ∀ a, (∃ o, outcome = .ok o ∧ value o = a) ↔ Stands v a
  default_of_isBlank : v.IsBlank → ∃ o, outcome = .ok o ∧ value o = default o
  unreadable : ∀ text, v.IsWritten text → ¬v.IsBlank → (∀ a, ¬Stands v a) →
    outcome = .error (.invalidProperty (Text.trim key) (.unreadable (Text.trim text)))
  nested : v.IsNested → outcome = .error (.invalidProperties (.notScalar key v.kind))

/-- A setting that is read under a protocol: its key, its field and the default of that, the texts that mean a
value of the field, and the JSON values that stand for one. -/
structure Setting (p : Protocol) (α : Type) where
  key : String
  value : Options → α
  default : Options → α
  Means : String → α → Prop
  Stands : Json → α → Prop
  mem_checks : ⟨key, fun text => ∃ a, Means text a⟩ ∈ checks p
  gives : ∀ {bag o}, IsReadAs bag o → o.protocol = p →
    Gives (nonEmpty? bag key) Means (default o) (value o)
  unique : ∀ {text a b}, Means text a → Means text b → a = b
  exists_isWritten : ∀ {v a}, Stands v a → ∃ text, v.IsWritten text
  stands_iff : ∀ {v text a}, v.IsWritten text → (Stands v a ↔ Means (Text.trim text) a)

variable {α : Type} {bag : PropertyBag} {o : Options} {e : Error} {p : Protocol} {c : Check}
  {key text : String} {v : Json} {b : Bool} {n : Nat} {before after : List (String × Json)}

/-! ### Values -/

theorem isBlank_iff (hv : v.IsWritten text) : v.IsBlank ↔ Text.trim text = "" := by
  cases hv with
  | string s => exact ⟨fun | .string h => h, .string⟩
  | true => exact iff_of_false nofun (by decide)
  | false => exact iff_of_false nofun (by decide)
  | number x => exact iff_of_false nofun (Decimal.trim_render_ne_empty x)

/-- The text of a scalar is a numeral exactly if the scalar is the number. -/
theorem isNumber_iff (hv : v.IsWritten text) : v.IsNumber n ↔ Decimal.IsNumeral (Text.trim text).toList n := by
  cases hv with
  | string s => exact ⟨fun | .numeral h => h, .numeral⟩
  | true =>
    refine iff_of_false nofun ?_
    exact Decimal.not_isNumeral_trim (c := 'u') (by decide) (by decide) (by decide) (by decide)
  | false =>
    refine iff_of_false nofun ?_
    exact Decimal.not_isNumeral_trim (c := 'a') (by decide) (by decide) (by decide) (by decide)
  | number x =>
    rw [Decimal.isNumeral_trim_render_iff]
    constructor
    · rintro ⟨⟩
      rfl
    · rintro rfl
      exact .whole n

private theorem exists_isWritten_of_isNumber (h : v.IsNumber n) : ∃ text, v.IsWritten text := by
  cases h with
  | whole n => exact ⟨_, .number _⟩
  | numeral h => exact ⟨_, .string _⟩

/-- A text with a character that no word has and no trimming removes is no word but for blanks. -/
private theorem not_isTruth_trim {d : Char} (hd : d ∈ text.toList) (hblank : Text.isBlank d = false)
    (hword : ∀ w ∈ truthWords b, d.toLower ∉ w.toList) : ¬IsTruth (Text.trim text) b := by
  intro h
  apply hword _ h
  rw [Text.toList_lowerAscii, Text.toList_trim]
  exact List.mem_map_of_mem (Text.mem_strip hd hblank)

private theorem isTruth_toString_iff : IsTruth (toString n) b ↔ n = b.toNat := by
  have hlower : Text.lowerAscii (toString n) = toString n := by
    rw [← String.toList_inj, Text.toList_lowerAscii]
    refine (List.map_congr_left fun d hd => ?_).trans (List.map_id _)
    exact Decimal.toLower_of_isDigit (Decimal.isDigit_of_mem_toString hd)
  -- one word is made of digits
  have hdigits : (truthWords b).filter (·.toList.all Char.isDigit) = [toString b.toNat] := by
    cases b <;> decide
  have hall : (toString n).toList.all Char.isDigit = true :=
    List.all_eq_true.2 fun _ => Decimal.isDigit_of_mem_toString
  have hmem : toString n ∈ truthWords b ↔ toString n = toString b.toNat := by
    rw [← List.mem_singleton, ← hdigits, List.mem_filter, and_iff_left hall]
  rw [IsTruth, hlower, hmem]
  constructor
  · intro h
    have hnumeral := Decimal.isNumeral_toString n
    rwa [h, Decimal.isNumeral_toString_iff] at hnumeral
  · rintro rfl
    rfl

/-- The numbers whose text is a word for a truth value are those for truth values. -/
private theorem isTruth_trim_render_iff {x : JsonNumber} :
    IsTruth (Text.trim x.render) b ↔ x = .whole b.toNat := by
  cases x with
  | whole k =>
    cases k with
    | ofNat k =>
      have hrender : (JsonNumber.whole (.ofNat k)).render = toString k := rfl
      rw [hrender, Decimal.trim_toString, isTruth_toString_iff, JsonNumber.whole.injEq,
        Int.ofNat_eq_natCast, Int.natCast_inj]
    | negSucc k =>
      have hminus := Decimal.mem_render_negSucc k
      exact iff_of_false (not_isTruth_trim hminus (by decide) (by cases b <;> decide)) (by simp)
  | double x =>
    refine iff_of_false ?_ (by simp)
    -- an exponent alone would not do: there are words with the same letter
    rcases Decimal.isMarked_render x with hpoint | ⟨-, hplus | hminus⟩
    · exact not_isTruth_trim hpoint (by decide) (by cases b <;> decide)
    · exact not_isTruth_trim hplus (by decide) (by cases b <;> decide)
    · exact not_isTruth_trim hminus (by decide) (by cases b <;> decide)

/-- The text of a scalar is a word for a truth value exactly if the scalar stands for that. -/
theorem isTruth_iff (hv : v.IsWritten text) : v.IsTruth b ↔ IsTruth (Text.trim text) b := by
  cases hv with
  | string s => exact ⟨fun | .word h => h, .word⟩
  | true =>
    cases b with
    | true => exact iff_of_true (.bool _) (by decide)
    | false => exact iff_of_false nofun (by decide)
  | false =>
    cases b with
    | true => exact iff_of_false nofun (by decide)
    | false => exact iff_of_true (.bool _) (by decide)
  | number x =>
    rw [isTruth_trim_render_iff]
    constructor
    · rintro ⟨⟩
      rfl
    · rintro rfl
      exact .whole b

private theorem exists_isWritten_of_isTruth (h : v.IsTruth b) : ∃ text, v.IsWritten text := by
  cases h with
  | bool b => cases b <;> exact ⟨_, by constructor⟩
  | whole b => exact ⟨_, .number _⟩
  | word h => exact ⟨_, .string _⟩

/-! ### Settings -/

def portSetting (p : Protocol) : Setting p UInt16 where
  key := portKey p
  value := Options.port
  default o := o.security.defaultPort
  Means := IsPort
  Stands v port := v.IsNumber port.toNat
  mem_checks := by cases p <;> simp [checks]
  gives h hp := by
    subst hp
    exact h.port
  unique := IsPort.unique
  exists_isWritten := exists_isWritten_of_isNumber
  stands_iff := isNumber_iff

def timeoutSetting (p : Protocol) : Setting p Duration where
  key := timeoutKey p
  value := Options.timeout
  default _ := defaultTimeout
  Means := IsMillis
  Stands v t := ∃ n ≤ Decimal.maxWord64, v.IsNumber n ∧ t = .ofMillis n
  mem_checks := by cases p <;> simp [checks]
  gives h hp := by
    subst hp
    exact h.timeout
  unique := IsMillis.unique
  exists_isWritten := by
    rintro v t ⟨n, -, hn, -⟩
    exact exists_isWritten_of_isNumber hn
  stands_iff hv := by simp only [isNumber_iff hv, IsMillis]

def authSetting (p : Protocol) : Setting p Bool where
  key := authKey p
  value := Options.auth
  default _ := false
  Means := IsTruth
  Stands := Json.IsTruth
  mem_checks := by cases p <;> simp [checks]
  gives h hp := by
    subst hp
    exact h.auth
  unique := IsTruth.unique
  exists_isWritten := exists_isWritten_of_isTruth
  stands_iff := isTruth_iff

def starttlsSetting (hp : p = .smtp) : Setting p Bool where
  key := starttlsKey
  value := Options.starttls
  default _ := false
  Means := IsTruth
  Stands := Json.IsTruth
  mem_checks := by
    subst hp
    simp [checks]
  gives h ho := by
    have hstarttls := h.starttls
    rwa [ho, hp] at hstarttls
  unique := IsTruth.unique
  exists_isWritten := exists_isWritten_of_isTruth
  stands_iff := isTruth_iff

/-! ### Settings in bags -/

private theorem nodup_keys_checks (p : Protocol) : ((checks p).map Check.key).Nodup := by
  cases p <;> decide

/-- The settings are among the keys that are read after the protocol. -/
private theorem key_of_mem_checks (hc : c ∈ checks p) :
    c.key ∈ recognizedKeys p ∧ c.key ≠ protocolKey := by
  have hall : ∀ k ∈ (checks p).map Check.key, k ∈ recognizedKeys p ∧ k ≠ protocolKey := by
    cases p <;> decide
  exact hall _ (List.mem_map_of_mem hc)

section
variable (ho : ofBag bag = .ok o) (hc : c ∈ checks o.protocol)
include ho hc

private theorem selects_put (text : String) : Selects (bag.put c.key text) p ↔ p = o.protocol := by
  rw [selects_congr (get?_put_of_ne bag (key_of_mem_checks hc).2.symm text)]
  have hselects := (ofBag_eq_ok_iff.1 ho).protocol
  constructor
  · exact fun hp => hp.unique hselects
  · rintro rfl
    exact hselects

/-- A setting that is put into a bag that could be read is the only one that can be at fault. -/
theorem ofBag_put_eq_error_iff (htext : text ≠ "") :
    ofBag (bag.put c.key text) = .error e ↔
      ¬c.Accepts text ∧ e = .invalidProperty c.key (.unreadable text) := by
  have hsound (e : Error) (he : ofBag (bag.put c.key text) = .error e) :
      ¬c.Accepts text ∧ e = .invalidProperty c.key (.unreadable text) := by
    cases ofBag_eq_error_iff.1 he with
    | protocol hget hnone =>
      have hselects := (selects_put ho hc text).2 rfl
      simp only [Selects, hget] at hselects
      exact absurd hselects (hnone _)
    | @setting p _ hp h =>
      obtain rfl := (selects_put ho hc text).1 hp
      obtain ⟨before, d, after, text', hchecks, -, ⟨hget, hne, hread⟩, rfl⟩ := h
      have hd : d ∈ checks o.protocol := by simp [hchecks]
      by_cases hkey : d.key = c.key
      · obtain rfl := List.inj_on_of_nodup_map (nodup_keys_checks _) hd hc hkey
        rw [get?_put_self, Option.some.injEq] at hget
        subst hget
        exact ⟨hread, rfl⟩
      · rw [get?_put_of_ne bag hkey] at hget
        have hselects := (ofBag_eq_ok_iff.1 ho).protocol
        obtain ⟨e, he⟩ := exists_isRefusedFor_iff.2
          (.inr ⟨_, hselects, d, hd, text', hget, hne, hread⟩)
        cases ho.symm.trans (ofBag_eq_error_iff.2 he)
  refine ⟨hsound e, ?_⟩
  rintro ⟨hread, rfl⟩
  have hselects := (selects_put ho hc text).2 rfl
  obtain ⟨e, he⟩ := exists_isRefusedFor_iff.2
    (.inr ⟨_, hselects, c, hc, text, get?_put_self bag c.key text, htext, hread⟩)
  have herror := ofBag_eq_error_iff.2 he
  rw [herror, (hsound e herror).2]

private theorem exists_ofBag_put_eq_ok (htext : text ≠ "") (hread : c.Accepts text) :
    ∃ o', ofBag (bag.put c.key text) = .ok o' := by
  cases hput : ofBag (bag.put c.key text) with
  | ok o' => exact ⟨o', rfl⟩
  | error e => exact absurd hread ((ofBag_put_eq_error_iff ho hc htext).1 hput).1

/-- A setting that is missing can as well be put as the empty text. -/
theorem ofBag_put_empty (hnone : bag.get? c.key = none) : ofBag (bag.put c.key "") = .ok o := by
  have hown : IsOwn (bag.put c.key "") c.key :=
    isOwn_of_mem ((selects_put ho hc "").2 rfl) (key_of_mem_checks hc).1
  have herase : bag.erase c.key = bag := by
    apply ext_get?
    intro k
    by_cases hk : k = c.key
    · rw [hk, get?_erase_self, hnone]
    · exact get?_erase_of_ne bag hk
  rw [(ofBag_eq_erase_iff (get?_put_self bag c.key "") hown).2 (key_of_mem_checks hc).2, erase_put, herase,
    ho]

end

namespace Setting

variable (s : Setting o.protocol α) (ho : ofBag bag = .ok o)
include ho

private theorem value_eq_default (hnone : bag.get? s.key = none) : s.value o = s.default o := by
  have hgives := s.gives (ofBag_eq_ok_iff.1 ho) rfl
  rwa [nonEmpty?, hnone] at hgives

/-- The value that is read is what the text means. -/
theorem exists_ofBag_put_iff (htext : text ≠ "") {a : α} :
    (∃ o', ofBag (bag.put s.key text) = .ok o' ∧ s.value o' = a) ↔ s.Means text a := by
  have hmeans {o' : Options} (ho' : ofBag (bag.put s.key text) = .ok o') : s.Means text (s.value o') := by
    have hread := ofBag_eq_ok_iff.1 ho'
    have hgives := s.gives hread ((selects_put ho s.mem_checks text).1 hread.protocol)
    rwa [nonEmpty?_eq_some_iff.2 ⟨get?_put_self bag s.key text, htext⟩] at hgives
  constructor
  · rintro ⟨o', ho', rfl⟩
    exact hmeans ho'
  · intro ha
    obtain ⟨o', ho'⟩ := exists_ofBag_put_eq_ok ho s.mem_checks htext ⟨a, ha⟩
    exact ⟨o', ho', s.unique (hmeans ho') ha⟩

private theorem ofBag_put_eq_error (htext : text ≠ "") (hnone : ∀ a, ¬s.Means text a) :
    ofBag (bag.put s.key text) = .error (.invalidProperty s.key (.unreadable text)) :=
  (ofBag_put_eq_error_iff ho s.mem_checks htext).2 ⟨not_exists.2 hnone, rfl⟩

end Setting

/-! ### Settings in objects -/

/-- An entry for a setting is taken, if no other entry is for it. -/
theorem Setting.isTaken (s : Setting o.protocol α) (ho : ofJson (.object (before ++ after)) = .ok o)
    (hkey : Text.trim key = s.key)
    (hfree : ∀ e ∈ before ++ after, e.2 ≠ .null → Text.trim e.1 ≠ Text.trim key) :
    IsTaken s.value s.default s.Stands key v (ofJson (.object (before ++ (key, v) :: after))) := by
  obtain ⟨bag, hbag, ho⟩ := bind_eq_ok_iff.1 ho
  have hbag := mapError_eq_ok_iff.1 hbag
  obtain ⟨entries, hentries, hflat, hholds⟩ := ofJson_eq_ok_iff.1 hbag
  obtain rfl := Json.object.inj hentries
  have hnone : bag.get? s.key = none := hkey ▸ (hholds.get?_eq_none_iff hflat).2 hfree
  have hne : s.key ≠ "" := (isProper_of_mem_recognizedKeys _ (key_of_mem_checks s.mem_checks).1).2
  have hadded {other : PropertyBag} (hadd : bag.addEntry key v = .ok other) :
      ofJson (.object (before ++ (key, v) :: after)) = ofBag other := by
    rw [Options.ofJson, ofJson_insert hbag hadd]
    rfl
  have hput {text : String} (hv : v.IsWritten text) :
      ofJson (.object (before ++ (key, v) :: after)) = ofBag (bag.put s.key (Text.trim text)) :=
    hadded (addEntry_eq_ok_iff.2 (.inr ⟨text, hv, hkey ▸ hnone, hkey ▸ hne, by rw [hkey]⟩))
  have hnested (hv : v.IsNested) : ofJson (.object (before ++ (key, v) :: after)) =
      .error (.invalidProperties (.notScalar key v.kind)) := by
    rw [Options.ofJson, ofJson_insert_of_isNested hbag hv]
    rfl
  refine ⟨fun hblank a => ?_, fun hblank => ⟨o, ?_, s.value_eq_default ho hnone⟩,
    fun text hv hblank hstands => ?_, hnested⟩
  · rcases v.eq_null_or_isNested_or_isWritten with rfl | hv | ⟨text, hv⟩
    · exact absurd .null hblank
    · rw [hnested hv]
      refine iff_of_false (by simp) fun hstands => ?_
      obtain ⟨text, htext⟩ := s.exists_isWritten hstands
      exact htext.not_isNested hv
    · rw [isBlank_iff hv] at hblank
      rw [hput hv, s.exists_ofBag_put_iff ho hblank, s.stands_iff hv]
  · cases hblank with
    | null => rw [hadded (addEntry_null bag key), ho]
    | string htext =>
      rw [hput (.string _), htext]
      exact ofBag_put_empty ho s.mem_checks hnone
  · rw [isBlank_iff hv] at hblank
    rw [hput hv, hkey]
    exact s.ofBag_put_eq_error ho hblank fun a ha => hstands a ((s.stands_iff hv).2 ha)

/-- To an object that is read as options, an entry can be added for one of their settings if it has none yet.
The port and the milliseconds are then the number that the value is, and the truth values those that it stands
for; blank values leave the default, and any other value is refused. -/
theorem entries_are_taken_exactly (ho : ofJson (.object (before ++ after)) = .ok o) (key : String) (v : Json)
    (hfree : ∀ e ∈ before ++ after, e.2 ≠ .null → Text.trim e.1 ≠ Text.trim key) :
    let outcome := ofJson (.object (before ++ (key, v) :: after))
    (Text.trim key = portKey o.protocol →
        IsTaken Options.port (fun o => o.security.defaultPort) (fun v port => v.IsNumber port.toNat)
          key v outcome) ∧
      (Text.trim key = timeoutKey o.protocol →
        IsTaken Options.timeout (fun _ => defaultTimeout)
          (fun v t => ∃ n ≤ Decimal.maxWord64, v.IsNumber n ∧ t = .ofMillis n) key v outcome) ∧
      (Text.trim key = authKey o.protocol →
        IsTaken Options.auth (fun _ => false) Json.IsTruth key v outcome) ∧
      (o.protocol = .smtp → Text.trim key = starttlsKey →
        IsTaken Options.starttls (fun _ => false) Json.IsTruth key v outcome) :=
  ⟨fun hkey => (portSetting o.protocol).isTaken ho hkey hfree,
    fun hkey => (timeoutSetting o.protocol).isTaken ho hkey hfree,
    fun hkey => (authSetting o.protocol).isTaken ho hkey hfree,
    fun hp hkey => (starttlsSetting hp).isTaken ho hkey hfree⟩

def pointedPort : Decimal.Binary64 := ⟨false, 587 * Nat.pow 2 43, -43⟩

/-- Beside an entry of null, a port is refused for its point, and an upgrade is taken for its word. -/
theorem pointedPort_is_refused :
    ofJson (.object [("mail.smtp.port", .null), (" mail.smtp.port", .number (.double pointedPort))]) =
        .error (.invalidProperty "mail.smtp.port" (.unreadable "587.0")) ∧
      ∃ o, ofJson (.object [("mail.smtp.port", .null), ("mail.smtp.starttls.enable", .string " Yes")]) = .ok o ∧
        o.starttls = true := by
  have ho : ofJson (.object ([("mail.smtp.port", .null)] ++ [])) = .ok default := by decide +kernel
  have hport := (entries_are_taken_exactly ho " mail.smtp.port" (.number (.double pointedPort))
    (by simp)).1 (by decide)
  have hstarttls := (entries_are_taken_exactly ho "mail.smtp.starttls.enable" (.string " Yes")
    (by simp)).2.2.2 rfl (by decide)
  refine ⟨?_, (hstarttls.read_iff ?_ true).2 (.word (by decide))⟩
  · have hkey : Text.trim " mail.smtp.port" = "mail.smtp.port" := by decide
    have htext : Text.trim (JsonNumber.double pointedPort).render = "587.0" := by decide +kernel
    rw [← hkey, ← htext]
    exact hport.unreadable _ (.number _) nofun nofun
  · rintro ⟨⟩
    contradiction

/-- A second entry for a port is refused, even where it is told from the first one by a blank. -/
theorem entries_are_refused_beside_their_like :
    ¬∀ (before after : List (String × Json)) (o : Options) (key : String) (v : Json),
      ofJson (.object (before ++ after)) = .ok o → Text.trim key = portKey o.protocol →
        IsTaken Options.port (fun o => o.security.defaultPort) (fun v port => v.IsNumber port.toNat) key v
          (ofJson (.object (before ++ (key, v) :: after))) := by
  intro h
  have htaken := h [(" mail.smtp.port", .number (.whole 25))] [] { (default : Options) with port := 25 }
    "mail.smtp.port" (.number (.whole 587)) (by decide +kernel) (by decide)
  obtain ⟨o, ho, -⟩ := (htaken.read_iff nofun 587).2 (.whole 587)
  have hrefused : ofJson (.object [(" mail.smtp.port", .number (.whole 25)),
      ("mail.smtp.port", .number (.whole 587))]) =
        .error (.invalidProperties (.duplicateKey "mail.smtp.port")) := by decide +kernel
  cases hrefused.symm.trans ho

end Options

end Mailroom
