import Mailroom.Options.Bag
import Mailroom.Proofs.Decimal.Unsigned

/-! The texts that stand for values of settings. -/
namespace Mailroom

def Protocol.IsNamed (p : Protocol) (text : String) : Prop := Text.keyword text = p.name

instance (p : Protocol) (text : String) : Decidable (p.IsNamed text) :=
  inferInstanceAs (Decidable (_ = _))

section
variable {text : String} {p q : Protocol}

theorem Protocol.IsNamed.unique (hp : p.IsNamed text) (hq : q.IsNamed text) : p = q := by
  have hname : p.name = q.name := hp.symm.trans hq
  revert hname
  cases p <;> cases q <;> decide

theorem Protocol.parse_eq_ok_iff : Protocol.parse text = .ok p ↔ p.IsNamed text := by
  unfold Protocol.parse Protocol.IsNamed
  split
  · next h => cases p <;> simp [h, Protocol.name]
  · next h => cases p <;> simp [h, Protocol.name]
  · next hsmtp hsmtps =>
    cases p with
    | smtp => exact iff_of_false (by simp) hsmtp
    | smtps => exact iff_of_false (by simp) hsmtps

/-- A text that names no protocol is refused with the keyword that it comes to. -/
theorem Protocol.parse_eq_error_iff {e : Error} :
    Protocol.parse text = .error e ↔
      (∀ p : Protocol, ¬p.IsNamed text) ∧
        e = .invalidProperty protocolKey (.unsupportedProtocol (Text.keyword text)) := by
  simp only [← Protocol.parse_eq_ok_iff]
  cases hparse : Protocol.parse text with
  | ok p => simp
  | error e' =>
    have herror : e' = .invalidProperty protocolKey (.unsupportedProtocol (Text.keyword text)) := by
      unfold Protocol.parse at hparse
      split at hparse
      · cases hparse
      · cases hparse
      · exact (Except.error.inj hparse).symm
    simp [herror, eq_comm]

end

namespace Options

def truthWords : Bool → List String
  | true => ["true", "yes", "on", "1"]
  | false => ["false", "no", "off", "0"]

def IsTruth (text : String) (b : Bool) : Prop := Text.lowerAscii text ∈ truthWords b

instance (text : String) (b : Bool) : Decidable (IsTruth text b) :=
  inferInstanceAs (Decidable (_ ∈ _))

def IsPort (text : String) (port : UInt16) : Prop := Decimal.IsNumeral text.toList port.toNat

/-- The text is the number of milliseconds in the span, and sixty-four bits hold it. -/
def IsMillis (text : String) (t : Duration) : Prop :=
  ∃ n ≤ Decimal.maxWord64, Decimal.IsNumeral text.toList n ∧ t = .ofMillis n

section
variable {text : String}

theorem readBool?_eq_some_iff {b : Bool} : readBool? text = some b ↔ IsTruth text b := by
  unfold readBool? IsTruth
  split
  case h_9 => cases b <;> simp_all [truthWords]
  all_goals next h => rw [h]; cases b <;> decide

theorem readPort?_eq_some_iff {port : UInt16} : readPort? text = some port ↔ IsPort text port := by
  simp only [readPort?, Option.map_eq_some_iff, Decimal.readUnsigned?_eq_some_iff, IsPort]
  constructor
  · rintro ⟨n, ⟨hn, hle⟩, rfl⟩
    rwa [UInt16.toNat_ofNat_of_lt' (Nat.lt_succ_of_le hle)]
  · intro h
    exact ⟨port.toNat, ⟨h, Nat.le_of_lt_succ port.toNat_lt⟩, UInt16.ofNat_toNat⟩

theorem readMillis?_eq_some_iff {t : Duration} : readMillis? text = some t ↔ IsMillis text t := by
  simp only [readMillis?, Option.map_eq_some_iff, Decimal.readUnsigned?_eq_some_iff, IsMillis]
  constructor
  · rintro ⟨n, ⟨hn, hle⟩, rfl⟩
    exact ⟨n, hle, hn, rfl⟩
  · rintro ⟨n, hle, hn, rfl⟩
    exact ⟨n, ⟨hn, hle⟩, rfl⟩

theorem IsTruth.unique {b b' : Bool} (hb : IsTruth text b) (hb' : IsTruth text b') : b = b' :=
  Option.some.inj ((readBool?_eq_some_iff.2 hb).symm.trans (readBool?_eq_some_iff.2 hb'))

theorem IsPort.unique {port port' : UInt16} (h : IsPort text port) (h' : IsPort text port') : port = port' :=
  UInt16.toNat_inj.1 (Decimal.IsNumeral.unique h h')

theorem IsMillis.unique {t t' : Duration} (h : IsMillis text t) (h' : IsMillis text t') : t = t' := by
  obtain ⟨n, -, hn, rfl⟩ := h
  obtain ⟨n', -, hn', rfl⟩ := h'
  rw [hn.unique hn']

end

end Options

end Mailroom
