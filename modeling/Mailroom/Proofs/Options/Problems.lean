import Mailroom.Proofs.Client
import Mailroom.Proofs.Options.FixedPoint
import Mailroom.Smtp.Transport

/-! The problems that are found in options. A client is made of options without problems only, and some
problems are never found in options that were read. -/
namespace Mailroom

/-- A span is whole exactly if it is a number of milliseconds that sixty-four bits hold. -/
theorem Duration.roundUp_eq_self_iff {t : Duration} :
    t.roundUp = t ↔ ∃ n ≤ Decimal.maxWord64, t = .ofMillis n := by
  constructor
  · intro h
    exact ⟨_, Nat.min_le_left _ _, h.symm⟩
  · rintro ⟨n, hn, rfl⟩
    have hround : (n * 1000000 + 999999) / 1000000 = n := by omega
    simp only [roundUp, ofMillis, hround, Nat.min_eq_right hn]

namespace Options

def Problem.all : List Problem :=
  [.emptyHost, .invalidPort, .zeroTimeout, .invalidTimeout, .missingUser, .missingPassword]

/-- The options have the problem. A user may not be blank, but a password may. -/
def Has (o : Options) : Problem → Prop
  | .emptyHost => Text.trim o.host = ""
  | .invalidPort => o.port = 0
  | .zeroTimeout => o.timeout.millis = 0
  | .invalidTimeout => o.timeout.millis ≠ 0 ∧ ∀ n ≤ Decimal.maxWord64, o.timeout ≠ .ofMillis n
  | .missingUser => o.auth = true ∧ ∀ user, o.user = some user → Text.trim user = ""
  | .missingPassword => o.auth = true ∧ ∀ password, o.password = some password → password = ""

/-- The list has the problems that are found, in the order of reports. -/
structure IsReport (Found : Problem → Prop) (problems : List Problem) : Prop where
  sublist : problems.Sublist Problem.all
  mem_iff : ∀ problem, problem ∈ problems ↔ Found problem

/-- What comes of options that are checked for a client: one that has them as they are, or all problems. -/
structure IsChecked {σ : Type} (o : Options) (outcome : Except Error (Client σ)) : Prop where
  made_iff : (∃ c, outcome = .ok c) ↔ o.validate = .ok ()
  kept : ∀ c, outcome = .ok c → c.options = o
  refused : ∀ e, outcome = .error e → o.validate = .error e ∧ e = .configuration o.problems ∧
    e.message = "Configuration error: " ++ "; ".intercalate (o.problems.map Problem.message)

def LogsIn (bag : PropertyBag) (p : Protocol) : Prop :=
  ∃ text, bag.get? (authKey p) = some text ∧ IsTruth text true

/-- The bag shows that options that are read from it have the problem. Two problems never show. -/
def Shows (bag : PropertyBag) (p : Protocol) : Problem → Prop
  | .emptyHost => False
  | .invalidPort => ∃ text, bag.get? (portKey p) = some text ∧ Decimal.IsNumeral text.toList 0
  | .zeroTimeout => ∃ text, bag.get? (timeoutKey p) = some text ∧ Decimal.IsNumeral text.toList 0
  | .invalidTimeout => False
  | .missingUser => LogsIn bag p ∧ ∀ text, bag.get? userKey = some text → Text.trim text = ""
  | .missingPassword => LogsIn bag p ∧ ∀ text, bag.get? passwordKey = some text → Text.trim text = ""

inductive IsRead (o : Options) : Prop
  | properties {bag : PropertyBag} (hbag : bag.IsNormal) (h : ofBag bag = .ok o)
  | json {v : Json} (h : ofJson v = .ok o)
  | environment {lookup : String → Option String} (h : ofEnvironment lookup = .ok o)

variable {o : Options} {bag : PropertyBag} {problem : Problem} {σ : Type}

/-! ### Reports -/

theorem mem_problems_iff : problem ∈ o.problems ↔ o.Has problem := by
  have htimeout : problem ∈ (if o.timeout.millis = 0 then [.zeroTimeout]
      else if o.timeout.roundUp ≠ o.timeout then [.invalidTimeout] else []) ↔
        o.timeout.millis = 0 ∧ problem = .zeroTimeout ∨
          o.timeout.millis ≠ 0 ∧ o.timeout.roundUp ≠ o.timeout ∧ problem = .invalidTimeout := by
    split
    · next hzero => simp [hzero]
    · next hpositive => simp [hpositive]
  have hwhole : o.timeout.roundUp ≠ o.timeout ↔ ∀ n ≤ Decimal.maxWord64, o.timeout ≠ .ofMillis n := by
    simp only [ne_eq, Duration.roundUp_eq_self_iff, not_exists, not_and]
  simp only [problems, List.mem_append, htimeout, List.mem_ite_nil_right, List.mem_singleton]
  simp only [hwhole, Option.all_eq_true, ← Text.trim_eq_empty_iff, String.isEmpty_iff]
  cases problem <;> simp [Has]

private theorem ite_sublist {α : Type} (c : Prop) [Decidable c] (a : α) :
    (if c then [a] else []).Sublist [a] := by
  split
  · exact .refl _
  · exact List.nil_sublist _

private theorem problems_sublist_all (o : Options) : o.problems.Sublist Problem.all := by
  have htimeout : (if o.timeout.millis = 0 then [.zeroTimeout]
      else if o.timeout.roundUp ≠ o.timeout then [.invalidTimeout] else []).Sublist
        [Problem.zeroTimeout, Problem.invalidTimeout] := by
    split
    · simp
    · exact (ite_sublist _ _).cons _
  have hlogin : (if o.auth then
      (if o.user.all Text.isAllBlank then [.missingUser] else []) ++
        (if o.password.all String.isEmpty then [.missingPassword] else [])
      else []).Sublist [Problem.missingUser, Problem.missingPassword] := by
    split
    · exact (ite_sublist _ _).append (ite_sublist _ _)
    · exact List.nil_sublist _
  exact (((ite_sublist _ _).append (ite_sublist _ _)).append htimeout).append hlogin

theorem isReport_problems (o : Options) : IsReport o.Has o.problems :=
  ⟨o.problems_sublist_all, fun _ => mem_problems_iff⟩

/-- What is found has one report. -/
theorem IsReport.unique {Found : Problem → Prop} {ps qs : List Problem} (hps : IsReport Found ps)
    (hqs : IsReport Found qs) : ps = qs := by
  have hall : Problem.all.Pairwise fun p q => p.ctorIdx < q.ctorIdx := by decide
  have hnodup {l : List Problem} (hl : l.Sublist Problem.all) : l.Nodup :=
    hl.nodup (by decide)
  have hperm : ps.Perm qs := by
    rw [List.perm_ext_iff_of_nodup (hnodup hps.sublist) (hnodup hqs.sublist)]
    exact fun p => (hps.mem_iff p).trans (hqs.mem_iff p).symm
  refine hperm.eq_of_pairwise ?_ (hall.sublist hps.sublist) (hall.sublist hqs.sublist)
  exact fun p q _ _ hpq hqp => absurd hpq hqp.asymm

theorem IsReport.iff_eq {Found : Problem → Prop} {ps qs : List Problem} (hps : IsReport Found ps) :
    IsReport Found qs ↔ qs = ps := by
  constructor
  · exact fun hqs => hqs.unique hps
  · rintro rfl
    exact hps

/-! ### Clients -/

theorem isChecked_create (o : Options) (t : Transport σ) : IsChecked o (Client.create o t) where
  made_iff := by
    simp only [Client.create_eq_ok_iff, validate_eq_ok_iff, exists_and_left, exists_eq, and_true]
  kept c h := by rw [(Client.create_eq_ok_iff.1 h).2]
  refused e h := by
    rcases bind_eq_error_iff.1 h with hvalidate | ⟨_, -, hdone⟩
    · obtain rfl := o.failsOnly_validate e hvalidate
      exact ⟨hvalidate, rfl, rfl⟩
    · cases hdone

theorem isChecked_clientOf {source : Smtp.OptionsSource} (h : source.options = .ok o) (caller : Smtp.Caller) :
    IsChecked o (Smtp.clientOf source caller) := by
  rw [Smtp.clientOf, h]
  exact isChecked_create o _

/-! ### Options that were read -/

/-- A field has a value other than the default exactly if its text means that value. -/
theorem Gives.eq_iff {α : Type} {k : String} {Means : String → α → Prop} {default value a : α}
    (h : Gives (nonEmpty? bag k) Means default value)
    (hunique : ∀ {text a b}, Means text a → Means text b → a = b) (hdefault : default ≠ a)
    (hempty : ¬Means "" a) :
    value = a ↔ ∃ text, bag.get? k = some text ∧ Means text a := by
  constructor
  · rintro rfl
    cases htext : nonEmpty? bag k with
    | none =>
      rw [htext] at h
      exact absurd h.symm hdefault
    | some text =>
      rw [htext] at h
      exact ⟨text, (nonEmpty?_eq_some_iff.1 htext).1, h⟩
  · rintro ⟨text, hget, htext⟩
    have hne : text ≠ "" := by
      rintro rfl
      exact hempty htext
    rw [nonEmpty?_eq_some_iff.2 ⟨hget, hne⟩] at h
    exact hunique h htext

private theorem ofMillis_inj {m n : Nat} : Duration.ofMillis m = .ofMillis n ↔ m = n := by
  constructor
  · intro h
    rw [← millis_ofMillis m, h, millis_ofMillis]
  · rintro rfl
    rfl

theorem Storable.millis_eq_zero_iff (h : o.Storable) : o.timeout.millis = 0 ↔ o.timeout = .ofMillis 0 := by
  obtain ⟨n, -, hn⟩ := h.timeout
  rw [hn, millis_ofMillis, ofMillis_inj]

/-- A text is missing or blank just if the field that it is read into is. -/
private theorem forall_nonEmpty?_iff {k : String} :
    (∀ text, nonEmpty? bag k = some text → Text.trim text = "") ↔
      ∀ text, bag.get? k = some text → Text.trim text = "" := by
  constructor
  · intro h text hget
    by_cases htext : text = ""
    · rw [htext]
      rfl
    · exact h text (nonEmpty?_eq_some_iff.2 ⟨hget, htext⟩)
  · exact fun h text htext => h text (nonEmpty?_eq_some_iff.1 htext).1

theorem IsReadAs.auth_iff (h : IsReadAs bag o) : o.auth = true ↔ LogsIn bag o.protocol :=
  h.auth.eq_iff IsTruth.unique (by decide) (by decide)

/-- The problems of options show in the normal bag that they are read from. -/
theorem IsReadAs.has_iff (h : IsReadAs bag o) (hbag : bag.IsNormal) :
    o.Has problem ↔ Shows bag o.protocol problem := by
  have hstorable := (readFrom_of_ofBag (ofBag_eq_ok_iff.2 h)).storable hbag
  cases problem with
  | emptyHost =>
    refine iff_of_false ?_ not_false
    rw [Has, hstorable.host.1]
    exact hstorable.host.2
  | invalidPort =>
    have hdefault : o.security.defaultPort ≠ 0 := by
      cases o.security <;> decide
    have hempty : ¬IsPort "" 0 := fun hzero => Decimal.IsNumeral.ne_nil hzero rfl
    exact h.port.eq_iff IsPort.unique hdefault hempty
  | zeroTimeout =>
    have hempty : ¬IsMillis "" (.ofMillis 0) := by
      rintro ⟨n, -, hn, -⟩
      exact hn.ne_nil rfl
    have hmeans (text : String) : IsMillis text (.ofMillis 0) ↔ Decimal.IsNumeral text.toList 0 := by
      constructor
      · rintro ⟨n, -, hn, heq⟩
        rwa [ofMillis_inj.1 heq]
      · exact fun hn => ⟨0, Nat.zero_le _, hn, rfl⟩
    simp only [Has, hstorable.millis_eq_zero_iff, Shows, ← hmeans]
    exact h.timeout.eq_iff IsMillis.unique (by decide) hempty
  | invalidTimeout =>
    obtain ⟨n, hn, htimeout⟩ := hstorable.timeout
    exact iff_of_false (fun hnot => hnot.2 n hn htimeout) not_false
  | missingUser => rw [Has, Shows, h.auth_iff, h.user, forall_nonEmpty?_iff]
  | missingPassword =>
    have hproper (password : String) (hpassword : nonEmpty? bag passwordKey = some password) :
        password = "" ↔ Text.trim password = "" := by
      rw [(isProper_of_nonEmpty? hbag hpassword).1]
    rw [Has, Shows, h.auth_iff, h.password, ← forall_nonEmpty?_iff]
    exact and_congr_right fun _ => forall₂_congr hproper

private theorem isReport_of_ofBag (hbag : bag.IsNormal) (h : ofBag bag = .ok o) :
    IsReport (Shows bag o.protocol) o.problems :=
  ⟨o.problems_sublist_all, fun _ => mem_problems_iff.trans ((ofBag_eq_ok_iff.1 h).has_iff hbag)⟩

/-- Options that are read at all can be read from a normal bag. -/
private theorem IsRead.exists_ofBag (h : IsRead o) :
    ∃ bag : PropertyBag, bag.IsNormal ∧ ofBag bag = .ok o := by
  cases h with
  | properties hbag h => exact ⟨_, hbag, h⟩
  | json h =>
    obtain ⟨bag, hbag, h⟩ := bind_eq_ok_iff.1 h
    exact ⟨bag, PropertyBag.isNormal_of_ofJson (mapError_eq_ok_iff.1 hbag), h⟩
  | environment h => exact ⟨_, PropertyBag.isNormal_ofPairs _, h⟩

/-- A client is made of options exactly if they have no problems, and has them as they are; otherwise all
problems are reported, in order. For options that were read from a normal bag, each problem shows in its
property. A missing host and a time-out that is not whole show in none, and are not found in options that were
read. -/
theorem clients_are_free_of_problems (o : Options) :
    (∀ problems, IsReport o.Has problems ↔ problems = o.problems) ∧
      (∀ (σ : Type) (t : Transport σ), IsChecked o (Client.create o t)) ∧
      (∀ caller, IsChecked o (Smtp.client o caller)) ∧
      (∀ source caller, source.options = .ok o → IsChecked o (Smtp.clientOf source caller)) ∧
      (∀ bag : PropertyBag, bag.IsNormal → ofBag bag = .ok o →
        ∀ problems, IsReport (Shows bag o.protocol) problems ↔ problems = o.problems) ∧
      (IsRead o → Problem.emptyHost ∉ o.problems ∧ Problem.invalidTimeout ∉ o.problems) := by
  refine ⟨fun _ => o.isReport_problems.iff_eq, fun σ t => isChecked_create o t,
    fun caller => isChecked_create o _, fun source caller h => isChecked_clientOf h caller,
    fun bag hbag h _ => (isReport_of_ofBag hbag h).iff_eq, fun h => ?_⟩
  obtain ⟨bag, hbag, h⟩ := h.exists_ofBag
  have hreport := isReport_of_ofBag hbag h
  exact ⟨(hreport.mem_iff .emptyHost).1, (hreport.mem_iff .invalidTimeout).1⟩

def hastyVariables : String → Option String
  | "POSTLINE_MAIL_SMTP_HOST" => some " "
  | "POSTLINE_MAIL_SMTP_PORT" => some "+0"
  | "POSTLINE_MAIL_SMTP_AUTH" => some "Yes"
  | "POSTLINE_MAIL_TIMEOUT_MS" => some "000 "
  | "POSTLINE_MAIL_USERNAME" => some "me"
  | "POSTLINE_MAIL_PASSWORD" => some " "
  | _ => none

def hastyOptions : Options where
  protocol := .smtp
  host := "localhost"
  port := 0
  starttls := false
  auth := true
  user := some "me"
  password := none
  timeout := .ofMillis 0
  extra := .empty

/-- Three problems show in the bag of the variables, and they are all that is found. -/
theorem hastyOptions_make_no_client :
    IsReport (Shows (environmentBag hastyVariables) .smtp) [.invalidPort, .zeroTimeout, .missingPassword] ∧
      IsChecked hastyOptions (Smtp.clientOf (.environment hastyVariables) ⟨"pier", ""⟩) ∧
      Problem.emptyHost ∉ hastyOptions.problems := by
  have ho : ofEnvironment hastyVariables = .ok hastyOptions := by decide +kernel
  have ⟨_, _, _, hclient, hreport, hread⟩ := clients_are_free_of_problems hastyOptions
  refine ⟨?_, hclient _ _ ho, (hread (.environment ho)).1⟩
  exact (hreport _ (PropertyBag.isNormal_ofPairs _) ho _).2 (by decide)

end Options

end Mailroom
