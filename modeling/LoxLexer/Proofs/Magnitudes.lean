import LoxLexer.Numeric.Binary64
import Mathlib.Algebra.Order.Field.Power
import Mathlib.Algebra.Order.Ring.Rat
import Mathlib.Tactic.FieldSimp
import Mathlib.Tactic.Linarith
import Mathlib.Tactic.NormNum
import Mathlib.Tactic.Positivity
import Mathlib.Tactic.Ring

namespace LoxLexer.Binary64

def significand (m : Nat) : Nat := if m < binade then m else binade + m % binade

def size (m : Nat) : ℚ := significand m * 2 ^ ((scale m : ℤ) - 1074)

theorem significand_mod_two (m : Nat) : significand m % 2 = m % 2 := by
  unfold significand binade
  split <;> omega

theorem significand_lt (m : Nat) : significand m < 2 * binade := by
  unfold significand binade
  split <;> omega

theorem scale_eq_zero_or (m : Nat) : scale m = 0 ∨ binade ≤ significand m := by
  unfold scale significand binade
  split <;> omega

theorem scale_add_significand (m : Nat) : scale m * binade + significand m = m := by
  unfold scale significand binade
  split <;> omega

theorem size_grid {s k : Nat} (first : s = 0 ∨ binade ≤ k) (le : k ≤ 2 * binade) :
    size (s * binade + k) = k * 2 ^ ((s : ℤ) - 1074) := by
  by_cases last : k = 2 * binade
  · have digits : significand (s * binade + k) = binade := by
      unfold significand binade at *
      split <;> omega
    have place : scale (s * binade + k) = s + 1 := by
      unfold scale binade at *
      omega
    rw [size, digits, place, last, Nat.cast_succ, add_sub_right_comm, zpow_add_one₀ two_ne_zero]
    push_cast
    ring
  · have digits : significand (s * binade + k) = k := by
      unfold significand binade at *
      split <;> omega
    have place : scale (s * binade + k) = s := by
      unfold scale binade at *
      omega
    rw [size, digits, place]

theorem size_succ (m : Nat) : size (m + 1) = size m + 2 ^ ((scale m : ℤ) - 1074) := by
  have next := size_grid (s := scale m) (k := significand m + 1)
    ((scale_eq_zero_or m).imp_right Nat.le_succ_of_le) (significand_lt m)
  rw [← Nat.add_assoc, scale_add_significand] at next
  rw [next, size]
  push_cast
  ring

theorem size_strictMono : StrictMono size := by
  refine strictMono_nat_of_lt_succ fun m => ?_
  rw [size_succ]
  exact lt_add_of_pos_right _ (by positivity)

theorem size_zero : size 0 = 0 := by simp [size, significand, binade]

theorem size_nonneg (m : Nat) : 0 ≤ size m := by
  unfold size
  positivity

theorem binade_eq : (binade : ℚ) = 2 ^ 52 := by norm_num [binade]

theorem size_infinity : size infinity = 2 ^ 1024 := by
  calc size infinity = size (2046 * binade + binade) := by rw [← Nat.succ_mul, infinity]
    _ = 2 ^ (52 : ℤ) * 2 ^ ((2046 : ℤ) - 1074) := by
      rw [size_grid (.inr le_rfl) (by decide), binade_eq]
      rfl
    _ = 2 ^ (1024 : ℤ) := by rw [← zpow_add₀ two_ne_zero]; norm_num only
    _ = 2 ^ 1024 := zpow_natCast 2 1024

theorem units_eq (m : Nat) : units m = significand m * 2 ^ scale m := by
  unfold units significand
  split
  · rename_i small
    rw [scale, Nat.div_eq_of_lt small]
    simp
  · exact Nat.shiftLeft_eq _ _

theorem unitsPerOne_eq : (unitsPerOne : ℚ) = 2 ^ (1074 : ℤ) := by
  rw [unitsPerOne, Nat.one_shiftLeft, Nat.cast_pow, Nat.cast_ofNat, unitExponent]
  rfl

theorem unitsPerOne_pos : (0 : ℚ) < unitsPerOne := by
  rw [unitsPerOne_eq]
  positivity

theorem size_eq (m : Nat) : size m = units m / unitsPerOne := by
  rw [size, units_eq, unitsPerOne_eq, zpow_sub₀ two_ne_zero, Nat.cast_mul, Nat.cast_pow,
    Nat.cast_ofNat, mul_div_assoc, zpow_natCast]

def border (m : Nat) : ℚ := (size m + size (m + 1)) / 2

theorem size_lt_border (m : Nat) : size m < border m := by
  have := size_strictMono (Nat.lt_succ_self m)
  unfold border
  linarith

theorem border_lt_size (m : Nat) : border m < size (m + 1) := by
  have := size_strictMono (Nat.lt_succ_self m)
  unfold border
  linarith

/-- A value that is rounded above `m`: it is nearer to the magnitudes above, or as near and the next
is even. -/
def Exceeds (m : Nat) (q : ℚ) : Prop := border m < q ∨ border m = q ∧ m % 2 = 1

theorem Exceeds.mono {m : Nat} {q q' : ℚ} (h : Exceeds m q) (le : q ≤ q') : Exceeds m q' := by
  rcases h with above | ⟨rfl, odd⟩
  · exact .inl (above.trans_le le)
  · exact le.lt_or_eq.imp id fun same => ⟨same, odd⟩

theorem exceeds_of_size_le {m k : Nat} {q : ℚ} (h : m < k) (le : size k ≤ q) : Exceeds m q :=
  .inl ((border_lt_size m).trans_le ((size_strictMono.monotone h).trans le))

theorem not_exceeds_of_le_size {m k : Nat} {q : ℚ} (h : k ≤ m) (le : q ≤ size k) :
    ¬Exceeds m q := by
  have below : q < border m :=
    (le.trans (size_strictMono.monotone h)).trans_lt (size_lt_border m)
  rintro (above | ⟨same, -⟩)
  · exact below.not_gt above
  · exact below.ne' same

theorem exceeds_iff {m k : Nat} {q : ℚ} (le : size m ≤ q) (lt : q ≤ size (m + 1)) :
    Exceeds k q ↔ k < m ∨ k = m ∧ Exceeds m q := by
  rcases Nat.lt_trichotomy k m with below | rfl | above
  · exact iff_of_true (exceeds_of_size_le below le) (.inl below)
  · simp
  · exact iff_of_false (not_exceeds_of_le_size above lt) (by omega)

theorem quotient_bounds {num den s : Nat} (h : Nat.log2 (num / den) - 52 = s) :
    (s = 0 ∨ binade ≤ num / (den <<< s)) ∧ num / (den <<< s) < 2 * binade := by
  have power : binade = 2 ^ 52 := by norm_num [binade]
  rw [Nat.shiftLeft_eq, ← Nat.div_div_eq_div_mul, power]
  generalize num / den = q at h ⊢
  have below := Nat.lt_log2_self (n := q)
  by_cases small : Nat.log2 q ≤ 52
  · obtain rfl : s = 0 := by omega
    have top : 2 ^ (Nat.log2 q + 1) ≤ 2 ^ 53 := Nat.pow_le_pow_right (by decide) (by omega)
    refine ⟨.inl rfl, ?_⟩
    rw [Nat.pow_zero, Nat.div_one]
    omega
  · have log : Nat.log2 q = 52 + s := by omega
    have above := Nat.log2_self_le (n := q) (by rintro rfl; simp at small)
    rw [log, Nat.pow_add] at above
    rw [log, show 52 + s + 1 = 53 + s by omega, Nat.pow_add] at below
    exact ⟨.inr ((Nat.le_div_iff_mul_le (Nat.two_pow_pos s)).2 above),
      (Nat.div_lt_iff_lt_mul (Nat.two_pow_pos s)).2 below⟩

theorem quotient_grid {num den : Nat} (hd : 0 < den) (s : Nat) :
    (num : ℚ) / (den * unitsPerOne) =
      (↑(num / (den <<< s)) + ↑(num % (den <<< s)) / ↑(den <<< s)) * 2 ^ ((s : ℤ) - 1074) := by
  have split : ((den <<< s : Nat) : ℚ) * ↑(num / (den <<< s)) + ↑(num % (den <<< s)) = num := by
    exact_mod_cast Nat.div_add_mod num (den <<< s)
  have step : ((den <<< s : Nat) : ℚ) = den * 2 ^ s := by
    rw [Nat.shiftLeft_eq, Nat.cast_mul, Nat.cast_pow, Nat.cast_ofNat]
  have positive : (0 : ℚ) < den := by exact_mod_cast hd
  rw [← split, zpow_sub₀ two_ne_zero, zpow_natCast, ← unitsPerOne_eq, step]
  field_simp

theorem exceeds_grid {s q r unit : Nat} (first : s = 0 ∨ binade ≤ q) (last : q < 2 * binade)
    (rest : r < unit) (k : Nat) :
    Exceeds k ((q + r / unit) * 2 ^ ((s : ℤ) - 1074)) ↔
      k < s * binade + q ∨ k = s * binade + q ∧ (unit < 2 * r ∨ unit = 2 * r ∧ q % 2 = 1) := by
  have start := size_grid first last.le
  have next := size_grid (k := q + 1) (first.imp_right Nat.le_succ_of_le) last
  have positive : (0 : ℚ) < unit := by exact_mod_cast Nat.zero_lt_of_lt rest
  have step : (0 : ℚ) < 2 ^ ((s : ℤ) - 1074) := by positivity
  have middle : border (s * binade + q) = (q + 1 / 2) * 2 ^ ((s : ℤ) - 1074) := by
    rw [border, Nat.add_assoc, start, next]
    push_cast
    ring
  generalize (2 : ℚ) ^ ((s : ℤ) - 1074) = δ at start next middle step ⊢
  have part : (r : ℚ) / unit < 1 := (div_lt_one positive).2 (by exact_mod_cast rest)
  have parity : (s * binade + q) % 2 = q % 2 := by
    unfold binade
    omega
  have above : border (s * binade + q) < (q + r / unit) * δ ↔ unit < 2 * r := by
    rw [middle, mul_lt_mul_iff_left₀ step, add_lt_add_iff_left, div_lt_div_iff₀ two_pos positive,
      one_mul, mul_comm]
    exact_mod_cast Iff.rfl
  have same : border (s * binade + q) = (q + r / unit) * δ ↔ unit = 2 * r := by
    rw [middle, mul_left_inj' step.ne', add_right_inj, div_eq_div_iff two_ne_zero positive.ne',
      one_mul, mul_comm]
    exact_mod_cast Iff.rfl
  have behind : size (s * binade + q) ≤ (q + r / unit) * δ := by
    rw [start]
    gcongr
    exact le_add_of_nonneg_right (by positivity)
  have before : (q + r / unit) * δ ≤ size (s * binade + q + 1) := by
    rw [Nat.add_assoc, next, Nat.cast_succ]
    gcongr
  rw [exceeds_iff behind before, Exceeds, above, same, parity]

theorem lt_nearest_iff {num den k : Nat} (hd : 0 < den) :
    k < nearest num den ↔ k < infinity ∧ Exceeds k (num / (den * unitsPerOne)) := by
  obtain ⟨s, hs⟩ : ∃ s, Nat.log2 (num / den) - 52 = s := ⟨_, rfl⟩
  obtain ⟨first, last⟩ := quotient_bounds hs
  have positive : 0 < den <<< s := by
    rw [Nat.shiftLeft_eq]
    exact Nat.mul_pos hd (Nat.two_pow_pos s)
  rw [nearest_eq, hs, lt_min_iff, and_comm, quotient_grid hd s,
    exceeds_grid first last (Nat.mod_lt num positive), roundHalfEven]
  generalize num / (den <<< s) = q
  generalize num % (den <<< s) = r
  refine and_congr_right fun _ => ?_
  split
  · omega
  · split <;> omega

end LoxLexer.Binary64
