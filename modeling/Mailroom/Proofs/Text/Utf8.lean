import Mailroom.Text.Utf8

/-! Text that is written as bytes and read back from them. -/
namespace Mailroom.Text

variable {c : Char} {r : List Nat}

def charBytes (c : Char) : List Nat :=
  let v := c.toNat
  if v ≤ 0x7F then [v]
  else if v ≤ 0x7FF then [v / 64 + 0xC0, v % 64 + 0x80]
  else if v ≤ 0xFFFF then [v / 4096 + 0xE0, v / 64 % 64 + 0x80, v % 64 + 0x80]
  else [v / 262144 + 0xF0, v / 4096 % 64 + 0x80, v / 64 % 64 + 0x80, v % 64 + 0x80]

/-- A character is no half of a surrogate pair, and not too large. -/
private theorem toNat_valid (c : Char) :
    c.toNat < 0xD800 ∨ 0xDFFF < c.toNat ∧ c.toNat < 0x110000 := c.valid

private theorem map_toNat_utf8EncodeChar (c : Char) :
    (String.utf8EncodeChar c).map UInt8.toNat = charBytes c := by
  have hvalid := toNat_valid c
  have hval : c.val.toNat = c.toNat := rfl
  unfold String.utf8EncodeChar charBytes
  rw [hval]
  generalize c.toNat = v at hvalid
  by_cases h1 : v ≤ 0x7F
  · simp only [h1, if_true, List.map_cons, List.map_nil, UInt8.toNat_ofNat', List.cons.injEq, and_true]
    omega
  by_cases h2 : v ≤ 0x7FF
  · simp only [h1, h2, if_true, if_false, List.map_cons, List.map_nil, UInt8.toNat_ofNat',
      List.cons.injEq, and_true]
    omega
  by_cases h3 : v ≤ 0xFFFF
  · simp only [h1, h2, h3, if_true, if_false, List.map_cons, List.map_nil, UInt8.toNat_ofNat',
      List.cons.injEq, and_true]
    omega
  · simp only [h1, h2, h3, if_false, List.map_cons, List.map_nil, UInt8.toNat_ofNat',
      List.cons.injEq, and_true]
    omega

section
variable {v : Nat} {cs : List Char}

private theorem takeContinuations_cons (value count taken n : Nat) (r : List Nat) :
    takeContinuations value (count + 1) taken ((n % 64 + 0x80) :: r) =
      takeContinuations (value * 64 + n % 64) count (taken + 1) r := by
  have hcontinues : isContinuation (n % 64 + 0x80) = true := by
    simp only [isContinuation, Bool.and_eq_true, decide_eq_true_eq]
    omega
  have hbits : (n % 64 + 0x80) % 64 = n % 64 := by omega
  simp only [takeContinuations, hcontinues, if_true, hbits]

private theorem leadRange?_two (hlow : 0x7F < v) (hhigh : v ≤ 0x7FF) :
    leadRange? (v / 64 + 0xC0) = some ((0x80, 0xBF), 1) := by
  have hlead : (0xC2 ≤ v / 64 + 0xC0 && v / 64 + 0xC0 ≤ 0xDF) = true := by
    simp only [Bool.and_eq_true, decide_eq_true_eq]
    omega
  rw [leadRange?, if_pos hlead]

/-- The byte after the first of three is in its range, since the value is neither too small nor half of a
surrogate pair. -/
private theorem leadRange?_three (hlow : 0x7FF < v) (hhigh : v ≤ 0xFFFF)
    (hv : v < 0xD800 ∨ 0xDFFF < v) :
    ∃ low high, leadRange? (v / 4096 + 0xE0) = some ((low, high), 2) ∧
      low ≤ v / 64 % 64 + 0x80 ∧ v / 64 % 64 + 0x80 ≤ high := by
  simp only [leadRange?, Bool.and_eq_true, decide_eq_true_eq]
  split
  · omega
  split
  · exact ⟨_, _, rfl, by omega, by omega⟩
  split
  · exact ⟨_, _, rfl, by omega, by omega⟩
  split
  · exact ⟨_, _, rfl, by omega, by omega⟩
  · omega

/-- The byte after the first of four is in its range, since the value is neither too small nor too
large. -/
private theorem leadRange?_four (hlow : 0xFFFF < v) (hhigh : v < 0x110000) :
    ∃ low high, leadRange? (v / 262144 + 0xF0) = some ((low, high), 3) ∧
      low ≤ v / 4096 % 64 + 0x80 ∧ v / 4096 % 64 + 0x80 ≤ high := by
  simp only [leadRange?, Bool.and_eq_true, decide_eq_true_eq]
  split
  · omega
  split
  · omega
  split
  · omega
  split
  · omega
  split
  · exact ⟨_, _, rfl, by omega, by omega⟩
  split
  · exact ⟨_, _, rfl, by omega, by omega⟩
  split
  · exact ⟨_, _, rfl, by omega, by omega⟩
  · omega

private theorem readMultibyte_eq {lead low high count b : Nat} {rest : List Nat} (start : Nat)
    (hlead : leadRange? lead = some ((low, high), count)) (hlow : low ≤ b) (hhigh : b ≤ high)
    (h : takeContinuations (leadBits lead count * 64 + b % 64) (count - 1) 2 r = .ok (v, rest)) :
    readMultibyte start lead (b :: r) = .ok (Char.ofNat v, rest) := by
  have hrange : ¬(b < low || high < b) = true := by
    simp only [Bool.or_eq_true, decide_eq_true_eq]
    omega
  simp only [readMultibyte, hlead, if_neg hrange, h]

/-- A character of several bytes is read, whatever comes after it. -/
theorem readMultibyte_charBytes (start : Nat) (h : 0x7F < c.toNat) (r : List Nat) :
    ∃ lead bs, charBytes c = lead :: bs ∧ 0x80 ≤ lead ∧ readMultibyte start lead (bs ++ r) = .ok (c, r) := by
  have hvalid := toNat_valid c
  have hc : Char.ofNat c.toNat = c := Char.ofNat_toNat c
  unfold charBytes
  generalize c.toNat = v at h hvalid hc
  -- Two bytes, three, or four: the first one says how many, and bounds the second.
  by_cases h2 : v ≤ 0x7FF
  · simp only [Nat.not_le.2 h, h2, if_true, if_false]
    refine ⟨_, _, rfl, by omega, ?_⟩
    have hvalue : leadBits (v / 64 + 0xC0) 1 * 64 + (v % 64 + 0x80) % 64 = v := by
      simp only [leadBits]
      omega
    rw [List.singleton_append, ← hc]
    apply readMultibyte_eq start (leadRange?_two h h2) (by omega) (by omega)
    rw [hvalue]
    rfl
  by_cases h3 : v ≤ 0xFFFF
  · simp only [Nat.not_le.2 h, h2, h3, if_true, if_false]
    refine ⟨_, _, rfl, by omega, ?_⟩
    obtain ⟨low, high, hlead, hlow, hhigh⟩ := leadRange?_three (Nat.lt_of_not_le h2) h3 (by omega)
    have hvalue : (leadBits (v / 4096 + 0xE0) 2 * 64 + (v / 64 % 64 + 0x80) % 64) * 64 + v % 64 = v := by
      simp only [leadBits]
      omega
    simp only [List.cons_append, List.nil_append]
    rw [← hc]
    apply readMultibyte_eq start hlead hlow hhigh
    rw [takeContinuations_cons, hvalue]
    rfl
  · simp only [Nat.not_le.2 h, h2, h3, if_false]
    refine ⟨_, _, rfl, by omega, ?_⟩
    obtain ⟨low, high, hlead, hlow, hhigh⟩ := leadRange?_four (v := v) (by omega) (by omega)
    have hvalue : ((leadBits (v / 262144 + 0xF0) 3 * 64 + (v / 4096 % 64 + 0x80) % 64) * 64 +
        v / 64 % 64) * 64 + v % 64 = v := by
      simp only [leadBits]
      omega
    simp only [List.cons_append, List.nil_append]
    rw [← hc]
    apply readMultibyte_eq start hlead hlow hhigh
    rw [takeContinuations_cons, takeContinuations_cons, hvalue]
    rfl

private theorem readUtf8From_charBytes {fuel : Nat} (c : Char)
    (h : ∀ start, readUtf8From fuel start r = .ok cs) (start : Nat) :
    readUtf8From (fuel + 1) start (charBytes c ++ r) = .ok (c :: cs) := by
  by_cases h1 : c.toNat ≤ 0x7F
  · have hbytes : charBytes c = [c.toNat] := if_pos h1
    rw [hbytes, List.singleton_append, readUtf8From, if_pos (by omega), h, Char.ofNat_toNat]
    rfl
  · obtain ⟨lead, bs, hbytes, hlead, hread⟩ := readMultibyte_charBytes start (Nat.lt_of_not_le h1) r
    rw [hbytes, List.cons_append, readUtf8From, if_neg (by omega), hread]
    simp only [bind, Except.bind, h]
    rfl

theorem readUtf8From_flatMap {fuel : Nat} (cs : List Char) (h : cs.length ≤ fuel) (start : Nat) :
    readUtf8From fuel start (cs.flatMap charBytes) = .ok cs := by
  induction cs generalizing fuel start with
  | nil => simp [readUtf8From]
  | cons c cs ih =>
    obtain ⟨fuel, rfl⟩ : ∃ n, fuel = n + 1 := ⟨fuel - 1, by simp at h; omega⟩
    have hfuel : cs.length ≤ fuel := by simpa using h
    rw [List.flatMap_cons]
    exact readUtf8From_charBytes c (ih hfuel) start

end

private theorem length_le_length_utf8 (cs : List Char) : cs.length ≤ (utf8 cs).length := by
  induction cs with
  | nil => exact Nat.le_refl 0
  | cons c cs ih =>
    have hlength : (utf8 (c :: cs)).length = c.utf8Size + (utf8 cs).length := by simp [utf8]
    have hpos := c.utf8Size_pos
    rw [hlength, List.length_cons]
    omega

/-- A text that was written as bytes is read back from them. -/
theorem readUtf8_utf8 (cs : List Char) : readUtf8 (utf8 cs) = .ok cs := by
  have hbytes : (utf8 cs).map UInt8.toNat = cs.flatMap charBytes := by
    simp only [utf8, List.map_flatMap, map_toNat_utf8EncodeChar]
  rw [readUtf8, hbytes]
  exact readUtf8From_flatMap cs (length_le_length_utf8 cs) 0

end Mailroom.Text
