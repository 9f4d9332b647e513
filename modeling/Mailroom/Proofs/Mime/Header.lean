import Mailroom.Mime.Letter
import Mailroom.Proofs.Mime.Rereading

/-! Headers with addresses: what they give back, and what the envelope takes from them. -/
namespace Mailroom.Mime

open MailboxList

def rawParts (a : Address) : Parts := (.ofList a.rawLocalPart, a.domain)

def ofParts? : Parts → Option Address
  | (name, domain) =>
    if Address.isLocalPart name.toList && Address.isDomain domain.toList then
      some { localPart := name, domain }
    else none

theorem read?_eq (value : List Char) :
    read? value = (mailboxesFrom (value.length + 1) value).bind (·.mapM ofParts?) := rfl

/-- The addresses that are left of some that are written into a header and read back: all of them or
none. -/
def reread (as : List Address) : List Address := (as.mapM Address.reread?).getD []

/-- The addresses that are left of some that are written into a header one by one, where each time the
header is read back first. -/
def kept (as : List Address) : List Address := as.foldl (fun kept a => reread (kept ++ [a])) []

private theorem mem_of_mapM_eq_some {α β : Type} {f : α → Option β} {xs : List α} {ys : List β}
    {y : β} (h : xs.mapM f = some ys) (hy : y ∈ ys) : ∃ x ∈ xs, f x = some y := by
  induction xs generalizing ys with
  | nil =>
    simp only [List.mapM_nil, Option.pure_def, Option.some.injEq] at h
    simp [← h] at hy
  | cons x xs ih =>
    simp only [List.mapM_cons, Option.bind_eq_bind, Option.bind_eq_some_iff, Option.pure_def,
      Option.some.injEq] at h
    obtain ⟨z, hz, zs, hzs, rfl⟩ := h
    rcases List.mem_cons.1 hy with rfl | hy
    · exact ⟨x, by simp, hz⟩
    · obtain ⟨x', hx', hfx⟩ := ih hzs hy
      exact ⟨x', by simp [hx'], hfx⟩

/-! ### A header is read back -/

section
variable {a b : Address} {as : List Address}

theorem addressList_singleton (a : Address) : addressList [a] = a.text.toList := by
  simp [addressList, List.intercalate]

theorem addressList_cons_cons (a b : Address) (as : List Address) :
    addressList (a :: b :: as) = a.text.toList ++ ',' :: ' ' :: addressList (b :: as) := by
  simp [addressList, List.intercalate]

/-- An address begins with no blank. -/
private theorem dropWhile_isBlank_text (h : a.WellFormed) (rest : List Char) :
    (a.text.toList ++ rest).dropWhile Text.isBlank = a.text.toList ++ rest := by
  cases hs : a.text.toList with
  | nil => simp at hs
  | cons c cs =>
    have hc := h.noBlank c (by simp [hs])
    simp [hc]

private theorem angle_not_mem_addressList (h : ∀ a ∈ as, a.WellFormed) : '<' ∉ addressList as := by
  induction as with
  | nil => simp [addressList]
  | cons a as ih =>
    have ha := (h a (by simp)).noAngle.1
    cases as with
    | nil => rwa [addressList_singleton]
    | cons b as =>
      rw [addressList_cons_cons]
      simp only [List.mem_append, List.mem_cons, not_or]
      exact ⟨ha, by decide, by decide, ih fun c hc => h c (List.mem_cons_of_mem a hc)⟩

private theorem mailboxesFrom_eq_none {cs : List Char} (hsign : '@' ∉ cs) (hangle : '<' ∉ cs)
    (fuel : Nat) :
    mailboxesFrom fuel cs = none := by
  cases fuel with
  | zero => rfl
  | succ fuel => simp [mailboxesFrom, mailbox_eq_address hangle, address_eq_none hsign]

theorem ofParts?_rawParts (h : a.WellFormed) (hplain : a.hasPlainDomain = true) :
    ofParts? (rawParts a) = a.reread? := by
  simp [ofParts?, rawParts, Address.reread?, h.isDomain, hplain]

private theorem mailboxesFrom_singleton (h : a.WellFormed) (hplain : a.hasPlainDomain = true)
    (fuel : Nat) :
    mailboxesFrom (fuel + 1) a.text.toList = some [rawParts a] := by
  have haddress := h.address_append hplain [] (by simp [EndsAtom]) (by simp)
  rw [List.append_nil] at haddress
  rw [mailboxesFrom, mailbox_eq_address h.noAngle.1, haddress]
  rfl

private theorem mailboxesFrom_singleton_of_not_plain (h : a.WellFormed)
    (hplain : a.hasPlainDomain = false) (fuel : Nat) : mailboxesFrom fuel a.text.toList = none := by
  cases fuel with
  | zero => rfl
  | succ fuel =>
    rw [mailboxesFrom, mailbox_eq_address h.noAngle.1, Option.bind_eq_bind, Option.bind_eq_none_iff]
    rintro ⟨x, r⟩ hread
    rw [← List.append_nil a.text.toList] at hread
    obtain ⟨pre, post, hne, hdomain, rfl⟩ := h.eq_append_of_address hplain hread
    simp only [List.append_nil]
    split
    · next r hr =>
      -- what is left of the domain begins with a comma, and no address is behind it
      have hr' : ∀ c ∈ r.dropWhile Text.isBlank, c ∈ a.domain.toList := by
        intro c hc
        have hc := (List.dropWhile_sublist Text.isBlank).subset hc
        have hpost : c ∈ post.dropWhile Text.isBlank := by simp [hr, hc]
        simp [hdomain, (List.dropWhile_sublist Text.isBlank).subset hpost]
      have hsign : '@' ∉ r.dropWhile Text.isBlank := fun hc => h.noSign.2 (hr' _ hc)
      have hangle : '<' ∉ r.dropWhile Text.isBlank := fun hc => h.noAngle.1 (by simp [hr' _ hc])
      simp [mailboxesFrom_eq_none hsign hangle]
    · simp [hne]

private theorem mailboxesFrom_cons_cons (h : ∀ c ∈ a :: b :: as, c.WellFormed)
    (hplain : a.hasPlainDomain = true) (fuel : Nat) :
    mailboxesFrom (fuel + 1) (addressList (a :: b :: as)) =
      (mailboxesFrom fuel (addressList (b :: as))).map (rawParts a :: ·) := by
  have haddress := (h a (by simp)).address_append hplain (',' :: ' ' :: addressList (b :: as))
    (by simp [EndsAtom, isAtomText]) (by simp)
  have hangle := angle_not_mem_addressList h
  have hblank : (addressList (b :: as)).dropWhile Text.isBlank = addressList (b :: as) := by
    have hb := dropWhile_isBlank_text (h b (by simp))
    cases as with
    | nil => simpa [addressList_singleton] using hb []
    | cons c as => rw [addressList_cons_cons, hb]
  rw [mailboxesFrom, mailbox_eq_address hangle, addressList_cons_cons, haddress]
  simp only [Option.bind_eq_bind, Option.bind_some]
  have hcomma : (',' :: ' ' :: addressList (b :: as)).dropWhile Text.isBlank =
      ',' :: ' ' :: addressList (b :: as) := by
    simp [Text.isBlank]
  have hspace : (' ' :: addressList (b :: as)).dropWhile Text.isBlank = addressList (b :: as) := by
    simp [Text.isBlank, hblank]
  rw [hcomma]
  simp only [hspace, rawParts]
  cases mailboxesFrom fuel (addressList (b :: as)) with
  | none => rfl
  | some ps => rfl

private theorem mailboxesFrom_addressList (hne : as ≠ []) (h : ∀ a ∈ as, a.WellFormed)
    (hplain : ∀ a ∈ as.dropLast, a.hasPlainDomain = true) {fuel : Nat} (hf : as.length ≤ fuel) :
    (mailboxesFrom fuel (addressList as)).bind (·.mapM ofParts?) = as.mapM Address.reread? := by
  induction as generalizing fuel with
  | nil => exact absurd rfl hne
  | cons a as ih =>
    cases fuel with
    | zero => simp at hf
    | succ fuel =>
      have ha := h a (by simp)
      cases as with
      | nil =>
        rw [addressList_singleton]
        cases hd : a.hasPlainDomain with
        | false =>
          rw [mailboxesFrom_singleton_of_not_plain ha hd]
          simp [Address.reread?, hd]
        | true =>
          rw [mailboxesFrom_singleton ha hd]
          simp [ofParts?_rawParts ha hd]
      | cons b as =>
        have hd : a.hasPlainDomain = true := hplain a (by simp)
        have hlen : (b :: as).length ≤ fuel := by simpa using hf
        have ih := ih (by simp) (fun c hc => h c (List.mem_cons_of_mem a hc))
          (fun c hc => hplain c (by simp [hc])) hlen
        rw [mailboxesFrom_cons_cons h hd, List.mapM_cons, ← ih, ← ofParts?_rawParts ha hd]
        cases mailboxesFrom fuel (addressList (b :: as)) with
        | none => simp
        | some ps => simp [List.mapM_cons]

private theorem length_le_length_addressList (as : List Address) :
    as.length ≤ (addressList as).length + 1 := by
  induction as with
  | nil => simp
  | cons a as ih =>
    cases as with
    | nil => simp
    | cons b as =>
      rw [addressList_cons_cons]
      simp only [List.length_append, List.length_cons] at ih ⊢
      omega

/-- A header with addresses that can be read back, but perhaps for the last one, gives back what each
of them becomes. -/
theorem read?_addressList (hne : as ≠ []) (h : ∀ a ∈ as, a.WellFormed)
    (hplain : ∀ a ∈ as.dropLast, a.hasPlainDomain = true) :
    read? (addressList as) = as.mapM Address.reread? := by
  rw [read?_eq]
  exact mailboxesFrom_addressList hne h hplain (length_le_length_addressList as)

private theorem mem_of_mem_reread (h : b ∈ reread as) : ∃ a ∈ as, a.reread? = some b := by
  unfold reread at h
  cases hm : as.mapM Address.reread? with
  | none => simp [hm] at h
  | some bs =>
    simp only [hm, Option.getD_some] at h
    exact mem_of_mapM_eq_some hm h

/-- What is read back can be written into another header. -/
private theorem wellFormed_reread (h : ∀ a ∈ as, a.WellFormed) :
    ∀ b ∈ reread as, b.WellFormed ∧ b.hasPlainDomain = true := by
  intro b hb
  obtain ⟨a, ha, hab⟩ := mem_of_mem_reread hb
  exact ⟨(h a ha).of_reread? hab, Address.hasPlainDomain_of_reread? hab⟩

/-! ### A header is built -/

/-- The header can be read back, but perhaps for its last address. -/
structure Readable (as : List Address) : Prop where
  wellFormed : ∀ a ∈ as, a.WellFormed
  plain : ∀ a ∈ as.dropLast, a.hasPlainDomain = true

theorem Readable.envelopeAddresses (h : Readable as) : envelopeAddresses as = reread as := by
  cases as with
  | nil => rfl
  | cons a as => rw [Mime.envelopeAddresses, read?_addressList (by simp) h.wellFormed h.plain]; rfl

theorem Readable.addToHeader (h : Readable as) (a : Address) :
    addToHeader as a = reread as ++ [a] := by
  cases as with
  | nil => rfl
  | cons b as =>
    rw [Mime.addToHeader, read?_addressList (by simp) h.wellFormed h.plain, reread]
    cases (b :: as).mapM Address.reread? with
    | none => rfl
    | some bs => rfl

private theorem readable_append (h : ∀ b ∈ as, b.WellFormed ∧ b.hasPlainDomain = true)
    (ha : a.WellFormed) : Readable (as ++ [a]) where
  wellFormed b hb := by
    rcases List.mem_append.1 hb with hb | hb
    · exact (h b hb).1
    · obtain rfl : b = a := by simpa using hb
      exact ha
  plain b hb := by
    rw [List.dropLast_concat] at hb
    exact (h b hb).2

private theorem reread_foldl_addToHeader {header : List Address} (hr : Readable header)
    (h : ∀ a ∈ as, a.WellFormed) :
    Readable (as.foldl addToHeader header) ∧
      reread (as.foldl addToHeader header) =
        as.foldl (fun kept a => reread (kept ++ [a])) (reread header) := by
  induction as generalizing header with
  | nil => exact ⟨hr, rfl⟩
  | cons a as ih =>
    have hnext : Readable (reread header ++ [a]) :=
      readable_append (wellFormed_reread hr.wellFormed) (h a (by simp))
    simp only [List.foldl_cons, hr.addToHeader]
    exact ih hnext fun b hb => h b (by simp [hb])

private theorem readable_nil : Readable [] := ⟨by simp, by simp⟩

/-- A header is built of addresses that can be read. -/
theorem readable_headerAddresses (h : ∀ a ∈ as, a.WellFormed) : Readable (headerAddresses as) :=
  (reread_foldl_addToHeader readable_nil h).1

/-- The envelope takes from a header the addresses that were kept while it was built. -/
theorem envelopeAddresses_headerAddresses (h : ∀ a ∈ as, a.WellFormed) :
    envelopeAddresses (headerAddresses as) = kept as := by
  rw [(readable_headerAddresses h).envelopeAddresses, headerAddresses,
    (reread_foldl_addToHeader readable_nil h).2]
  rfl

/-- A header has addresses if there are any. -/
theorem headerAddresses_eq_nil_iff : headerAddresses as = [] ↔ as = [] := by
  have hne (header : List Address) (a : Address) : addToHeader header a ≠ [] := by
    unfold addToHeader
    split
    · simp
    · split
      · simp
      · simp
  rcases List.eq_nil_or_concat as with rfl | ⟨front, a, rfl⟩
  · exact iff_of_true rfl rfl
  · simp [headerAddresses, hne]

/-! ### What is kept -/

def size : List Address → Nat
  | [] => 0
  | a :: as => a.localPart.length + 1 + size as

@[simp] theorem size_cons (a : Address) (as : List Address) :
    size (a :: as) = a.localPart.length + 1 + size as := rfl

@[simp] theorem size_append (as bs : List Address) : size (as ++ bs) = size as + size bs := by
  induction as with
  | nil => simp [size]
  | cons a as ih =>
    rw [List.cons_append, size_cons, size_cons, ih]
    omega

private theorem size_le_of_mapM {bs : List Address} (h : as.mapM Address.reread? = some bs) :
    size bs ≤ size as ∧ (size bs = size as → ∀ a ∈ as, a.Survives) := by
  induction as generalizing bs with
  | nil =>
    simp only [List.mapM_nil, Option.pure_def, Option.some.injEq] at h
    simp [← h]
  | cons a as ih =>
    simp only [List.mapM_cons, Option.bind_eq_bind, Option.bind_eq_some_iff, Option.pure_def,
      Option.some.injEq] at h
    obtain ⟨b, hb, bs, hbs, rfl⟩ := h
    obtain ⟨hle, hsurvive⟩ := ih hbs
    by_cases hs : a.Survives
    · obtain rfl := Address.eq_of_reread? hb hs
      simp only [size_cons]
      refine ⟨by omega, fun he => ?_⟩
      intro c hc
      rcases List.mem_cons.1 hc with rfl | hc
      · exact hs
      · exact hsurvive (by omega) c hc
    · have hlt := Address.length_lt_of_reread? hb hs
      simp only [size_cons]
      refine ⟨by omega, fun he => ?_⟩
      omega

private theorem size_reread (as : List Address) :
    size (reread as) ≤ size as ∧ (size (reread as) = size as → ∀ a ∈ as, a.Survives) := by
  unfold reread
  cases hm : as.mapM Address.reread? with
  | none =>
    cases as with
    | nil => simp at hm
    | cons a as =>
      simp only [Option.getD_none, size_cons]
      exact ⟨by simp [size], fun he => by simp [size] at he; omega⟩
  | some bs => exact size_le_of_mapM hm

private theorem size_foldl_kept (init as : List Address) :
    size (as.foldl (fun kept a => reread (kept ++ [a])) init) ≤ size init + size as ∧
      (size (as.foldl (fun kept a => reread (kept ++ [a])) init) = size init + size as →
        ∀ a ∈ as, a.Survives) := by
  induction as generalizing init with
  | nil => simp [size]
  | cons a as ih =>
    obtain ⟨hle, hsurvive⟩ := size_reread (init ++ [a])
    obtain ⟨hle', hsurvive'⟩ := ih (reread (init ++ [a]))
    simp only [size_append, size_cons] at hle hsurvive
    have hnil : size [] = 0 := rfl
    simp only [List.foldl_cons, size_cons]
    refine ⟨by omega, fun he => ?_⟩
    intro b hb
    rcases List.mem_cons.1 hb with rfl | hb
    · exact hsurvive (by omega) b (by simp)
    · exact hsurvive' (by omega) b hb

theorem size_kept_le (as : List Address) : size (kept as) ≤ size as := by
  have h := (size_foldl_kept [] as).1
  simpa [kept, size] using h

theorem survives_of_size_kept (h : size (kept as) = size as) : ∀ a ∈ as, a.Survives :=
  (size_foldl_kept [] as).2 (by simpa [kept, size] using h)

private theorem reread_of_survives (h : ∀ a ∈ as, a.WellFormed) (hs : ∀ a ∈ as, a.Survives) :
    reread as = as := by
  have hm : as.mapM Address.reread? = some as := by
    induction as with
    | nil => simp
    | cons a as ih =>
      have ha := Address.reread?_of_survives (h a (by simp)) (hs a (by simp))
      have ih := ih (fun b hb => h b (by simp [hb])) fun b hb => hs b (by simp [hb])
      simp [List.mapM_cons, ha, ih]
  rw [reread, hm, Option.getD_some]

private theorem foldl_kept_of_survives (init : List Address)
    (h : ∀ a ∈ init ++ as, a.WellFormed) (hs : ∀ a ∈ init ++ as, a.Survives) :
    as.foldl (fun kept a => reread (kept ++ [a])) init = init ++ as := by
  induction as generalizing init with
  | nil => simp
  | cons a as ih =>
    have hsub : ∀ b ∈ init ++ [a], b ∈ init ++ a :: as := by
      intro b hb
      rw [List.append_cons]
      exact List.mem_append_left as hb
    have hread : reread (init ++ [a]) = init ++ [a] :=
      reread_of_survives (fun b hb => h b (hsub b hb)) fun b hb => hs b (hsub b hb)
    rw [List.foldl_cons, hread, ih _ (by simpa using h) (by simpa using hs)]
    simp

/-- Addresses that survive are kept. -/
theorem kept_of_survives (h : ∀ a ∈ as, a.WellFormed) (hs : ∀ a ∈ as, a.Survives) : kept as = as :=
  foldl_kept_of_survives [] h hs

end

end Mailroom.Mime
