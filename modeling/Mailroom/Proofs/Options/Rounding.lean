import Mailroom.Options.Draft
import Mailroom.Proofs.Options.Problems
import Mathlib.Order.Bounds.Basic
import Mathlib.Order.MinMax
import Mathlib.Order.Monotone.Defs

/-! Time-outs in whole milliseconds. A time-out is rounded up as far as sixty-four bits reach, in words that
never overflow, and options are judged by whether that would change them. -/
namespace Mailroom

namespace Duration

theorem nanoseconds_injective : Function.Injective nanoseconds := by
  rintro ⟨m⟩ ⟨n⟩ rfl
  rfl

/-- Spans are compared by their nanoseconds. -/
instance : PartialOrder Duration := .lift nanoseconds nanoseconds_injective

def longest : Duration := .ofMillis Decimal.maxWord64

def IsWhole (t : Duration) : Prop := ∃ n, t = .ofMillis n

/-- The whole span that another one is rounded up to. Past the longest span there is nothing to round to. -/
structure IsRounded (t rounded : Duration) : Prop where
  whole : rounded.IsWhole
  least : t ≤ longest → IsLeast {s | s.IsWhole ∧ t ≤ s} rounded
  near : t ≤ longest → rounded.nanoseconds < t.nanoseconds + (ofMillis 1).nanoseconds
  beyond : longest < t → rounded = longest

variable {s t rounded : Duration}

theorem le_iff : s ≤ t ↔ s.nanoseconds ≤ t.nanoseconds := Iff.rfl

theorem lt_iff : s < t ↔ s.nanoseconds < t.nanoseconds := Iff.rfl

@[simp]
theorem nanoseconds_ofMillis (n : Nat) : (ofMillis n).nanoseconds = n * 1000000 := rfl

private theorem ofMillis_le_ofMillis {m n : Nat} : ofMillis m ≤ ofMillis n ↔ m ≤ n :=
  Nat.mul_le_mul_right_iff (by decide)

/-- The milliseconds that a span takes up, the last of them perhaps in part. -/
theorem le_ofMillis_iff {n : Nat} : t ≤ ofMillis n ↔ (t.nanoseconds + 999999) / 1000000 ≤ n := by
  rw [le_iff, nanoseconds_ofMillis]
  omega

/-! ### Rounding -/

private theorem roundUp_of_le (h : t ≤ longest) :
    t.roundUp = ofMillis ((t.nanoseconds + 999999) / 1000000) := by
  rw [roundUp, Nat.min_eq_right (le_ofMillis_iff.1 h)]

private theorem roundUp_of_lt (h : longest < t) : t.roundUp = longest := by
  rw [lt_iff, longest, nanoseconds_ofMillis] at h
  rw [roundUp, longest, Nat.min_eq_left (by omega)]

theorem isRounded_roundUp (t : Duration) : IsRounded t t.roundUp where
  whole := ⟨_, rfl⟩
  least h := by
    rw [roundUp_of_le h]
    refine ⟨⟨⟨_, rfl⟩, le_ofMillis_iff.2 (Nat.le_refl _)⟩, ?_⟩
    rintro _ ⟨⟨n, rfl⟩, hn⟩
    exact ofMillis_le_ofMillis.2 (le_ofMillis_iff.1 hn)
  near h := by
    rw [roundUp_of_le h, nanoseconds_ofMillis, nanoseconds_ofMillis]
    omega
  beyond := roundUp_of_lt

theorem roundUp_eq_iff_isRounded : t.roundUp = rounded ↔ IsRounded t rounded := by
  constructor
  · rintro rfl
    exact isRounded_roundUp t
  · intro h
    rcases Nat.lt_or_ge longest.nanoseconds t.nanoseconds with hlt | hle
    · exact (roundUp_of_lt hlt).trans (h.beyond hlt).symm
    · exact ((isRounded_roundUp t).least hle).unique (h.least hle)

-- a nanosecond past the last millisecond but one
example : Duration.roundUp ⟨18446744073709551614000001⟩ = longest := by decide

theorem roundUp_roundUp (t : Duration) : t.roundUp.roundUp = t.roundUp :=
  roundUp_eq_self_iff.2 ⟨_, Nat.min_le_left _ _, rfl⟩

theorem roundUp_mono : Monotone roundUp := by
  intro s t h
  refine ofMillis_le_ofMillis.2 (min_le_min le_rfl ?_)
  exact Nat.div_le_div_right (Nat.add_le_add_right h _)

theorem millis_eq_zero_iff : t.millis = 0 ↔ t < ofMillis 1 := by
  rw [lt_iff, nanoseconds_ofMillis, millis]
  omega

/-! ### Rounding in words -/

def fit? (bits n : Nat) : Option Nat := if n < Nat.pow 2 bits then some n else none

structure Clock where
  seconds : UInt64
  rest : UInt32
  rest_lt : rest.toNat < 1000000000

namespace Clock

def span (c : Clock) : Duration := ⟨c.seconds.toNat * 1000000000 + c.rest.toNat⟩

def millis? (c : Clock) : Option Nat := do
  let whole ← fit? 128 (c.seconds.toNat * 1000)
  fit? 128 (whole + c.rest.toNat / 1000000)

def ofMillis? (n : UInt64) : Option Clock := do
  let rest ← fit? 32 (n.toNat % 1000 * 1000000)
  if h : (UInt32.ofNat rest).toNat < 1000000000 then some ⟨n / 1000, .ofNat rest, h⟩ else none

/-- Rounds up in words. The milliseconds and the carry each stop at what sixty-four bits hold. -/
def roundUp? (c : Clock) : Option Clock := do
  let n := (fit? 64 (← c.millis?)).getD Decimal.maxWord64
  let carry := if c.rest.toNat % 1000000 = 0 then 0 else 1
  ofMillis? (.ofNat (min Decimal.maxWord64 (n + carry)))

variable (c : Clock)

@[simp]
theorem nanoseconds_span : c.span.nanoseconds = c.seconds.toNat * 1000000000 + c.rest.toNat := rfl

theorem millis?_eq : c.millis? = some c.span.millis := by
  have hseconds := c.seconds.toNat_lt
  have hrest := c.rest_lt
  have hwords : Nat.pow 2 128 = 340282366920938463463374607431768211456 := rfl
  have hsum : c.seconds.toNat * 1000 + c.rest.toNat / 1000000 < Nat.pow 2 128 := by omega
  have hwhole : c.seconds.toNat * 1000 < Nat.pow 2 128 :=
    Nat.lt_of_le_of_lt (Nat.le_add_right _ _) hsum
  have hmillis : c.seconds.toNat * 1000 + c.rest.toNat / 1000000 = c.span.millis := by
    rw [Duration.millis, nanoseconds_span]
    omega
  rw [millis?, fit?, if_pos hwhole, Option.bind_eq_bind, Option.bind_some, fit?, if_pos hsum, hmillis]

private theorem exists_ofMillis? (n : UInt64) :
    ∃ c, ofMillis? n = some c ∧ c.span = .ofMillis n.toNat := by
  have hrest : n.toNat % 1000 * 1000000 < 1000000000 := by omega
  have hfit : n.toNat % 1000 * 1000000 < Nat.pow 2 32 := Nat.lt_trans hrest (by decide)
  have hword : (UInt32.ofNat (n.toNat % 1000 * 1000000)).toNat = n.toNat % 1000 * 1000000 :=
    UInt32.toNat_ofNat_of_lt' hfit
  refine ⟨⟨n / 1000, .ofNat (n.toNat % 1000 * 1000000), by rwa [hword]⟩, ?_, ?_⟩
  · rw [ofMillis?, fit?, if_pos hfit, Option.bind_eq_bind, Option.bind_some, dif_pos]
  · apply nanoseconds_injective
    simp only [nanoseconds_span, hword, UInt64.toNat_div, nanoseconds_ofMillis]
    rw [show (1000 : UInt64).toNat = 1000 from rfl]
    omega

/-- The carry brings the whole milliseconds to those that the span takes up, unless both are at the limit. -/
private theorem carried_eq :
    min Decimal.maxWord64 ((fit? 64 c.span.millis).getD Decimal.maxWord64 +
        if c.rest.toNat % 1000000 = 0 then 0 else 1) =
      min Decimal.maxWord64 ((c.span.nanoseconds + 999999) / 1000000) := by
  have hrest : c.rest.toNat % 1000000 = c.span.nanoseconds % 1000000 := by
    rw [nanoseconds_span]
    omega
  have hmax : Decimal.maxWord64 + 1 = Nat.pow 2 64 := rfl
  rw [hrest, fit?, Duration.millis]
  split
  · rw [Option.getD_some]
    split <;> omega
  · -- more than sixty-four bits hold, with the carry or without it
    rw [Option.getD_none]
    omega

theorem roundUp?_eq :
    c.roundUp? = ofMillis? (.ofNat (min Decimal.maxWord64 ((c.span.nanoseconds + 999999) / 1000000))) := by
  rw [← carried_eq, roundUp?, millis?_eq, Option.bind_eq_bind, Option.bind_some]

/-- No step overflows, and the words are those of the span that is rounded up. -/
private theorem exists_roundUp? :
    ∃ rounded, c.roundUp? = some rounded ∧ rounded.span = c.span.roundUp := by
  rw [roundUp?_eq, Duration.roundUp]
  obtain ⟨rounded, hrounded, hspan⟩ :=
    exists_ofMillis? (.ofNat (min Decimal.maxWord64 ((c.span.nanoseconds + 999999) / 1000000)))
  refine ⟨rounded, hrounded, ?_⟩
  rw [hspan, UInt64.toNat_ofNat_of_lt']
  exact Nat.lt_of_le_of_lt (Nat.min_le_left _ _) (Nat.lt_succ_self _)

end Clock

end Duration

namespace Options

def Reports (o : Options) (problem : Problem) : Prop :=
  ∃ problems, o.validate = .error (.configuration problems) ∧ problem ∈ problems

def IsAcceptable (t : Duration) : Prop := ∃ n, 1 ≤ n ∧ n ≤ Decimal.maxWord64 ∧ t = .ofMillis n

/-- What is wrong with a time-out, if anything. Less than a millisecond is as good as nothing. -/
structure IsJudged (o : Options) : Prop where
  accepted : ¬o.Reports .zeroTimeout ∧ ¬o.Reports .invalidTimeout ↔ IsAcceptable o.timeout
  zero : o.Reports .zeroTimeout ↔ o.timeout < .ofMillis 1
  invalid : o.Reports .invalidTimeout ↔ ¬o.timeout < .ofMillis 1 ∧ ¬IsAcceptable o.timeout

variable {o : Options} {problem : Problem} {t : Duration}

theorem reports_iff_has : o.Reports problem ↔ o.Has problem := by
  rw [← mem_problems_iff]
  constructor
  · rintro ⟨problems, hvalidate, hmem⟩
    cases o.failsOnly_validate _ hvalidate
    exact hmem
  · intro hmem
    refine ⟨o.problems, ?_, hmem⟩
    rw [validate]
    split
    · next hnone => exact absurd (hnone ▸ hmem) List.not_mem_nil
    · rfl

theorem isAcceptable_iff :
    IsAcceptable t ↔ ¬t < .ofMillis 1 ∧ ∃ n ≤ Decimal.maxWord64, t = .ofMillis n := by
  constructor
  · rintro ⟨n, hpositive, hn, rfl⟩
    exact ⟨Nat.not_lt.2 (Duration.ofMillis_le_ofMillis.2 hpositive), n, hn, rfl⟩
  · rintro ⟨hpositive, n, hn, rfl⟩
    exact ⟨n, Duration.ofMillis_le_ofMillis.1 (Nat.not_lt.1 hpositive), hn, rfl⟩

theorem isJudged (o : Options) : IsJudged o := by
  have hzero : o.Reports .zeroTimeout ↔ o.timeout < .ofMillis 1 :=
    reports_iff_has.trans Duration.millis_eq_zero_iff
  have hinvalid : o.Reports .invalidTimeout ↔
      ¬o.timeout < .ofMillis 1 ∧ ¬∃ n ≤ Decimal.maxWord64, o.timeout = .ofMillis n := by
    rw [reports_iff_has, Has, ne_eq, Duration.millis_eq_zero_iff]
    simp only [not_exists, not_and, ne_eq]
  refine ⟨?_, hzero, ?_⟩
  · rw [hzero, hinvalid, isAcceptable_iff, not_and_not_right]
    exact and_congr_right fun h => ⟨fun hwhole => hwhole h, fun hwhole _ => hwhole⟩
  · rw [hinvalid, isAcceptable_iff]
    exact and_congr_right fun h => not_congr (and_iff_right h).symm

/-- A time-out is kept as the least whole span that is not shorter, or as the longest there is, whatever words
it is given in. That changes nothing the second time and keeps the order, and options are refused for their
time-out just if it is less than a millisecond or would be changed. -/
theorem timeouts_are_rounded_up :
    (∀ t rounded, Duration.roundUp t = rounded ↔ Duration.IsRounded t rounded) ∧
      (∀ c : Duration.Clock, ∃ rounded, c.roundUp? = some rounded ∧ rounded.span = c.span.roundUp) ∧
      (∀ t, Duration.roundUp (Duration.roundUp t) = Duration.roundUp t) ∧
      Monotone Duration.roundUp ∧
      (∀ (d : Draft) t, (d.withTimeout t).finish.timeout = t.roundUp) ∧
      ∀ o, IsJudged o :=
  ⟨fun _ _ => Duration.roundUp_eq_iff_isRounded, Duration.Clock.exists_roundUp?, Duration.roundUp_roundUp,
    Duration.roundUp_mono, fun _ _ => rfl, isJudged⟩

end Options

end Mailroom
