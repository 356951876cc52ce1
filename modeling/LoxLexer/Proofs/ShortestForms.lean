import LoxLexer.Proofs.FewestDigits
import LoxLexer.Proofs.Formatting
import LoxLexer.Proofs.NumberLiterals
import Mathlib.Data.Int.Log
import Mathlib.Data.Rat.Floor

namespace LoxLexer

namespace Decimal

variable {d : Decimal}

theorem le_leading_iff (h : d.coefficient ≠ 0) {j : Int} : j ≤ d.leading ↔ 10 ^ j ≤ d.rational := by
  have ten : (1 : ℚ) < 10 := by norm_num
  obtain ⟨c, e⟩ := d
  have some : 0 < (Text.ofNat c).length := Nat.length_toDigits_pos
  have below := (rational_strictMono e).monotone (Text.pow_length_le h)
  have above := rational_strictMono e (Text.lt_pow_length c)
  simp only [rational_pow] at below above
  change j ≤ e + (Text.ofNat c).length - 1 ↔ _
  constructor
  · intro le
    exact (zpow_le_zpow_right₀ ten.le (by omega)).trans below
  · intro le
    have := (zpow_lt_zpow_iff_right₀ ten).1 (le.trans_lt above)
    omega

end Decimal

theorem Decimal.rational_one (j : Int) : (Decimal.mk 1 j).rational = 10 ^ j := by
  rw [rational, Nat.cast_one, one_mul]

namespace Shortest

variable {m : Nat} {j : Int}

theorem le_leading_shortest_iff (finite : m < Binary64.infinity) (nonzero : m ≠ 0)
    (own : shortest (Decimal.mk 1 j).magnitude = ⟨1, j⟩) :
    j ≤ (shortest m).leading ↔ (Decimal.mk 1 j).magnitude ≤ m := by
  have some : (shortest m).coefficient ≠ 0 :=
    Decimal.coefficient_ne_zero (by rwa [magnitude_shortest finite])
  rw [Decimal.le_leading_iff some, ← Decimal.rational_one]
  constructor
  · intro le
    exact (Decimal.magnitude_mono le).trans_eq (magnitude_shortest finite)
  · intro le
    by_contra! less
    have ge := (magnitude_shortest finite).symm.trans_le (Decimal.magnitude_mono less.le)
    rw [le_antisymm ge le, own] at less
    exact less.false

theorem near_shortest_iff (finite : m < Binary64.infinity) :
    (shortest m).Near ↔
      m = 0 ∨ (Decimal.mk 1 (-4)).magnitude ≤ m ∧ m < (Decimal.mk 1 16).magnitude := by
  rcases eq_or_ne m 0 with rfl | nonzero
  · exact iff_of_true (by decide) (.inl rfl)
  · have low : shortest (Decimal.mk 1 (-4)).magnitude = ⟨1, -4⟩ := by decide +kernel
    have high : shortest (Decimal.mk 1 16).magnitude = ⟨1, 16⟩ := by decide +kernel
    rw [or_iff_right nonzero, Decimal.Near, le_leading_shortest_iff finite nonzero low,
      ← not_le (b := m), ← le_leading_shortest_iff finite nonzero high]
    exact and_congr_right fun _ => by omega

end Shortest

namespace Binary64

variable {m : Nat}

theorem rational_le_size {t : Decimal}
    (h : t.coefficient * Nat.pow 10 t.exponent.toNat * unitsPerOne ≤
      units m * Nat.pow 10 (-t.exponent).toNat) : t.rational ≤ size m := by
  have positive : 0 < Nat.pow 10 (-t.exponent).toNat := Nat.pow_pos (by decide)
  rw [t.rational_eq_div, size_eq, div_le_div_iff₀ (by exact_mod_cast positive) unitsPerOne_pos]
  exact_mod_cast h

theorem rational_le_size_iff {t : Decimal} (le : t.rational ≤ size t.magnitude) :
    t.rational ≤ size m ↔ t.magnitude ≤ m := by
  constructor
  · intro below
    by_contra! less
    exact not_exceeds_of_le_size le_rfl below (Decimal.lt_magnitude_iff.1 less).2
  · exact fun above => le.trans (size_strictMono.monotone above)

theorem ten_zpow_le_size_iff :
    (10 ^ (-4 : Int) ≤ size m ↔ (Decimal.mk 1 (-4)).magnitude ≤ m) ∧
      (10 ^ (16 : Int) ≤ size m ↔ (Decimal.mk 1 16).magnitude ≤ m) := by
  rw [← Decimal.rational_one, ← Decimal.rational_one]
  exact ⟨rational_le_size_iff (rational_le_size (by decide +kernel)),
    rational_le_size_iff (rational_le_size (by decide +kernel))⟩

theorem log_size_iff (nonzero : m ≠ 0) :
    -4 ≤ Int.log 10 (size m) ∧ Int.log 10 (size m) ≤ 15 ↔
      (Decimal.mk 1 (-4)).magnitude ≤ m ∧ m < (Decimal.mk 1 16).magnitude := by
  have positive : 0 < size m := size_zero ▸ size_strictMono (Nat.pos_of_ne_zero nonzero)
  have power (j : Int) : j ≤ Int.log 10 (size m) ↔ 10 ^ j ≤ size m := by
    rw [← Int.zpow_le_iff_le_log (by decide) positive]
    rfl
  obtain ⟨low, high⟩ := ten_zpow_le_size_iff (m := m)
  rw [power, low, ← not_le (b := m), ← high, ← power]
  exact and_congr_right fun _ => by omega

theorem abs_value (x : Binary64) : |x.value| = size x.magnitude := by
  rw [value, abs_signed, abs_of_nonneg (size_nonneg _)]

theorem value_eq_zero_iff (x : Binary64) : x.value = 0 ↔ x.magnitude = 0 := by
  rw [← abs_eq_zero, abs_value, ← size_zero, size_strictMono.injective.eq_iff]

end Binary64

theorem Numeral.rational_mul (n : Numeral) (e : Int) :
    n.rational * 10 ^ e = signed n.negative (n.scaled e).rational := by
  have ten : (10 : ℚ) ≠ 0 := by norm_num
  have value : (n.scaled e).rational = n.decimal.rational * 10 ^ e := by
    rw [Decimal.rational, scaled, zpow_add₀ ten, ← mul_assoc]
    rfl
  rw [rational_eq, value]
  cases n.negative
  · rfl
  · exact neg_mul _ _

namespace Layout
open Binary64

theorem near_iff_log {x : Binary64} (finite : x.magnitude < infinity) :
    (Shortest.shortest x.magnitude).Near ↔
      x.value = 0 ∨ -4 ≤ Int.log 10 |x.value| ∧ Int.log 10 |x.value| ≤ 15 := by
  rw [Shortest.near_shortest_iff finite, value_eq_zero_iff, abs_value]
  exact or_congr_right' fun nonzero => (log_size_iff nonzero).symm

/-- What is displayed for a finite number is rounded to it, with its sign, and no decimal with fewer
digits is. Numbers are displayed alike only if they are the same. -/
theorem display_number_shortest :
    (∀ x : Binary64, x.magnitude < infinity → ∃ (n : Numeral) (e : Int),
      n.negative = x.negative ∧
      (if x.value = 0 ∨ -4 ≤ Int.log 10 |x.value| ∧ Int.log 10 |x.value| ≤ 15 then
        n.Positional (display.number x) ∧ e = 0
      else n.Scientific e (display.number x)) ∧
      Rounds x.negative (n.rational * 10 ^ e) x ∧
      ∀ (negative : Bool) (d : Decimal), Rounds negative (signed negative d.rational) x →
        (n.scaled e).significantDigits ≤ d.significantDigits) ∧
    ∀ x y : Binary64, display.number x = display.number y →
      x.bits = y.bits ∨ x.isNaN = true ∧ y.isNaN = true := by
  refine ⟨fun x finite => ?_, fun x y same => (display_number_inj same).imp_left (congrArg bits)⟩
  obtain ⟨n, e, sign, value, form⟩ := form_number finite
  rw [if_congr (near_iff_log finite) rfl rfl] at form
  refine ⟨n, e, sign, form, ?_, fun negative d rounds => ?_⟩
  · rw [n.rational_mul, sign, rounds_iff, ofDecimal_eq]
    exact (Decimal.magnitude_congr value).trans (Shortest.magnitude_shortest finite)
  · have same := congrArg magnitude (rounds_iff.1 rounds)
    rw [Decimal.significantDigits_congr value]
    exact Shortest.significantDigits_shortest_le finite same.symm

theorem display_number_shortest_least :
    let x : Binary64 := ⟨true, 1, by decide⟩
    x.magnitude < infinity ∧ ∃ (n : Numeral) (e : Int), n.Scientific e "-5e-324".toList ∧
      Rounds true (n.rational * 10 ^ e) x ∧
      ∀ (negative : Bool) (d : Decimal), Rounds negative (signed negative d.rational) x →
        (n.scaled e).significantDigits ≤ d.significantDigits := by
  intro x
  have finite : x.magnitude < infinity := by decide
  have text : display.number x = "-5e-324".toList := by decide +kernel
  obtain ⟨n, e, -, form, rounds, least⟩ := display_number_shortest.1 x finite
  rw [text] at form
  refine ⟨finite, n, e, ?_, rounds, least⟩
  split at form
  · exact absurd (by decide) (form.1.writes.not_mem (c := 'e') rfl (by decide))
  · exact form

end Layout
end LoxLexer
