import LoxLexer.Numeric.Decimal
import LoxLexer.Proofs.Magnitudes

namespace LoxLexer

def signed (negative : Bool) (q : ℚ) : ℚ := if negative then -q else q

theorem abs_signed (negative : Bool) (q : ℚ) : |signed negative q| = |q| := by
  cases negative
  · rfl
  · exact abs_neg q

@[simp]
theorem signed_signed (negative : Bool) (q : ℚ) : signed negative (signed negative q) = q := by
  cases negative
  · rfl
  · exact neg_neg q

theorem dist_signed (negative : Bool) (p q : ℚ) :
    |signed negative p - signed negative q| = |p - q| := by
  cases negative
  · rfl
  · change |-p - -q| = |p - q|
    rw [neg_sub_neg, abs_sub_comm]

theorem dist_signed_of_ne {negative negative' : Bool} (h : negative' ≠ negative) {p q : ℚ}
    (hp : 0 ≤ p) (hq : 0 ≤ q) : |signed negative p - signed negative' q| = p + q := by
  have sum := abs_of_nonneg (add_nonneg hp hq)
  cases negative <;> cases negative'
  · exact absurd rfl h
  · rwa [signed, signed, if_neg Bool.false_ne_true, if_pos rfl, sub_neg_eq_add]
  · rwa [signed, signed, if_neg Bool.false_ne_true, if_pos rfl, ← neg_add', abs_neg]
  · exact absurd rfl h

namespace Binary64

def value (x : Binary64) : ℚ := signed x.negative (size x.magnitude)

/-- The number that the value `q` with the sign `negative` is rounded to. -/
structure Rounds (negative : Bool) (q : ℚ) (x : Binary64) : Prop where
  sign : x.negative = negative
  overflow : 2 ^ 1024 - 2 ^ 970 ≤ |q| → x.magnitude = infinity
  finite : |q| < 2 ^ 1024 - 2 ^ 970 → x.magnitude < infinity
  nearest : |q| < 2 ^ 1024 - 2 ^ 970 → ∀ y : Binary64, y.magnitude < infinity →
    |q - x.value| ≤ |q - y.value|
  even : |q| < 2 ^ 1024 - 2 ^ 970 → ∀ y : Binary64, y.magnitude < infinity →
    |q - x.value| = |q - y.value| → x.value = y.value ∨ significand x.magnitude % 2 = 0

end Binary64

def Decimal.rational (d : Decimal) : ℚ := d.coefficient * 10 ^ d.exponent

namespace Binary64

variable {m j : Nat} {a : ℚ}

theorem dist_lt_of_lt {p q : ℚ} (h : p < q) (lt : a < (p + q) / 2) : |a - p| < |a - q| := by
  rw [← sq_lt_sq]
  nlinarith

theorem dist_lt_of_gt {p q : ℚ} (h : p < q) (lt : (p + q) / 2 < a) : |a - q| < |a - p| := by
  rw [← sq_lt_sq]
  nlinarith

theorem dist_eq {p q : ℚ} (h : a = (p + q) / 2) : |a - p| = |a - q| := by
  refine abs_eq_abs.2 (.inr ?_)
  rw [h]
  ring

theorem nearer_than_below {k : Nat} (exceeds : Exceeds k a) (h : j ≤ k) :
    |a - size (k + 1)| < |a - size j| ∨ |a - size (k + 1)| = |a - size j| ∧ k % 2 = 1 := by
  have next := size_strictMono (Nat.lt_succ_of_le h)
  rcases exceeds with far | ⟨same, odd⟩
  · have le := size_strictMono.monotone h
    exact .inl (dist_lt_of_gt next (by unfold border at far; linarith))
  · rcases h.eq_or_lt with rfl | less
    · exact .inr ⟨(dist_eq same.symm).symm, odd⟩
    · have lt := size_strictMono less
      exact .inl (dist_lt_of_gt next (by unfold border at same; linarith))

theorem nearer_than_above (h : ¬Exceeds m a) (lt : m < j) :
    |a - size m| < |a - size j| ∨ |a - size m| = |a - size j| ∧ m % 2 = 0 := by
  have next := size_strictMono lt
  rcases lt_or_eq_of_le (not_lt.1 fun far => h (.inl far)) with near | same
  · have le := size_strictMono.monotone (Nat.succ_le_of_lt lt)
    exact .inl (dist_lt_of_lt next (by unfold border at near; linarith))
  · rcases (Nat.succ_le_of_lt lt).eq_or_lt with rfl | less
    · exact .inr ⟨dist_eq same, Nat.mod_two_ne_one.1 fun odd => h (.inr ⟨same.symm, odd⟩)⟩
    · have lt := size_strictMono less
      exact .inl (dist_lt_of_lt next (by unfold border at same; linarith))

theorem nearer_or_even (below : ∀ k < m, Exceeds k a) (above : ¬Exceeds m a) (h : j ≠ m) :
    |a - size m| < |a - size j| ∨ |a - size m| = |a - size j| ∧ m % 2 = 0 := by
  rcases lt_or_gt_of_ne h with before | behind
  · obtain ⟨k, rfl⟩ := Nat.exists_eq_add_one_of_ne_zero (Nat.ne_zero_of_lt before)
    exact (nearer_than_below (below k (Nat.lt_succ_self k)) (Nat.le_of_lt_succ before)).imp_right
      fun tie => ⟨tie.1, by omega⟩
  · exact nearer_than_above above behind

theorem nearer_than_opposite (below : ∀ k < m, Exceeds k a) (above : ¬Exceeds m a) (ha : 0 ≤ a)
    (j : Nat) : |a - size m| < a + size j ∨ |a - size m| = a + size j ∧ m % 2 = 0 := by
  have zero : |a - size m| < a ∨ |a - size m| = a ∧ m % 2 = 0 := by
    rcases Nat.eq_zero_or_pos m with rfl | some
    · rw [size_zero, sub_zero, abs_of_nonneg ha]
      exact .inr ⟨rfl, rfl⟩
    · have := nearer_or_even below above some.ne
      rwa [size_zero, sub_zero, abs_of_nonneg ha] at this
  rcases zero with nearer | ⟨tie, even⟩
  · exact .inl (nearer.trans_le (le_add_of_nonneg_right (size_nonneg j)))
  · rw [tie]
    rcases (size_nonneg j).eq_or_lt with none | some
    · exact .inr ⟨by rw [← none, add_zero], even⟩
    · exact .inl (lt_add_of_pos_right _ some)

theorem border_infinity : border (infinity - 1) = 2 ^ 1024 - 2 ^ 970 := by
  have last := size_succ (infinity - 1)
  have double : (2 : ℚ) ^ 971 = 2 ^ 970 * 2 := pow_succ 2 970
  have exponent : (scale (infinity - 1) : ℤ) - 1074 = (971 : ℕ) := by decide
  have next : infinity - 1 + 1 = infinity := by decide
  rw [next, size_infinity, exponent, zpow_natCast, double] at last
  rw [border, next, size_infinity]
  generalize (2 : ℚ) ^ 1024 = top, (2 : ℚ) ^ 970 = step at last ⊢
  linarith

end Binary64

namespace Decimal

theorem rational_nonneg (d : Decimal) : 0 ≤ d.rational := by
  unfold rational
  positivity

theorem rational_shift (c j : Nat) (e : Int) :
    (Decimal.mk (c * 10 ^ j) e).rational = (Decimal.mk c (e + j)).rational := by
  have ten : (10 : ℚ) ≠ 0 := by norm_num
  rw [rational, rational, zpow_add₀ ten, zpow_natCast]
  push_cast
  ring

theorem rational_strictMono (e : Int) : StrictMono fun c => (Decimal.mk c e).rational := by
  intro a b less
  simp only [rational]
  gcongr

theorem rational_pow (j : Nat) (e : Int) : (Decimal.mk (10 ^ j) e).rational = 10 ^ (j + e) := by
  have ten : (10 : ℚ) ≠ 0 := by norm_num
  rw [rational, zpow_add₀ ten, zpow_natCast]
  push_cast
  rfl

theorem rational_eq_div (d : Decimal) :
    d.rational = (d.coefficient * Nat.pow 10 d.exponent.toNat : Nat) /
      (Nat.pow 10 (-d.exponent).toNat : Nat) := by
  rw [rational]
  obtain ⟨e, h | h⟩ := d.exponent.eq_nat_or_neg
  · simp [h, Nat.pow_eq]
  · simp [h, Nat.pow_eq, div_eq_mul_inv]

theorem lt_magnitude_iff {k : Nat} {d : Decimal} :
    k < d.magnitude ↔ k < Binary64.infinity ∧ Binary64.Exceeds k d.rational := by
  have positive : 0 < Nat.pow 10 (-d.exponent).toNat := Nat.pow_pos (by decide)
  rw [magnitude, Binary64.lt_nearest_iff positive, rational_eq_div, Nat.cast_mul,
    mul_div_mul_right _ _ Binary64.unitsPerOne_pos.ne']

theorem magnitude_mono {d d' : Decimal} (h : d.rational ≤ d'.rational) :
    d.magnitude ≤ d'.magnitude := by
  refine le_of_forall_lt fun k below => ?_
  rw [lt_magnitude_iff] at below ⊢
  exact below.imp_right fun exceeds => exceeds.mono h

theorem magnitude_between {d d₁ d₂ : Decimal} {m : Nat} (h₁ : d₁.magnitude = m)
    (h₂ : d₂.magnitude = m) (le : d₁.rational ≤ d.rational) (le' : d.rational ≤ d₂.rational) :
    d.magnitude = m :=
  le_antisymm ((magnitude_mono le').trans_eq h₂) (h₁.symm.trans_le (magnitude_mono le))

theorem magnitude_congr {d d' : Decimal} (h : d.rational = d'.rational) :
    d.magnitude = d'.magnitude :=
  le_antisymm (magnitude_mono h.le) (magnitude_mono h.ge)

theorem coefficient_ne_zero {d : Decimal} (h : d.magnitude ≠ 0) : d.coefficient ≠ 0 := by
  obtain ⟨c, e⟩ := d
  rintro rfl
  exact h (magnitude_zero e)

theorem magnitude_eq_infinity_iff {d : Decimal} :
    d.magnitude = Binary64.infinity ↔ 2 ^ 1024 - 2 ^ 970 ≤ d.rational := by
  have last : (Binary64.infinity - 1) % 2 = 1 := by decide
  have top : d.magnitude = Binary64.infinity ↔ Binary64.infinity - 1 < d.magnitude := by
    have := d.magnitude_le
    unfold Binary64.infinity Binary64.binade at *
    omega
  rw [top, lt_magnitude_iff, and_iff_right (by decide), Binary64.Exceeds,
    Binary64.border_infinity, le_iff_lt_or_eq, and_iff_left last]

end Decimal

namespace Binary64

variable {negative : Bool} {q : ℚ} {x y : Binary64}

theorem dist_value (h : x.negative = negative) :
    |q - x.value| = |signed negative q - size x.magnitude| := by
  rw [value, h, ← dist_signed negative, signed_signed]

theorem Rounds.magnitude_le (hx : Rounds negative q x) (hy : Rounds negative q y)
    (finite : |q| < 2 ^ 1024 - 2 ^ 970) : x.magnitude ≤ y.magnitude := by
  by_contra! less
  have sizes := size_strictMono less
  have same : |q - x.value| = |q - y.value| :=
    le_antisymm (hx.nearest finite y (hy.finite finite)) (hy.nearest finite x (hx.finite finite))
  have differ : x.value ≠ y.value := by
    intro equal
    rw [value, value, hx.sign, hy.sign] at equal
    exact sizes.ne' (by simpa using congrArg (signed negative) equal)
  have xEven := (hx.even finite y (hy.finite finite) same).resolve_left differ
  have yEven := (hy.even finite x (hx.finite finite) same.symm).resolve_left differ.symm
  rw [significand_mod_two] at xEven yEven
  -- Between two even magnitudes there is another one, and it is nearer than both.
  have next : y.magnitude + 1 < x.magnitude := by omega
  let z : Binary64 := ⟨negative, y.magnitude + 1, next.trans x.magnitude_lt⟩
  have nearer := hx.nearest finite z (next.trans (hx.finite finite))
  rw [dist_value hx.sign, dist_value hy.sign] at same
  rw [dist_value hx.sign, dist_value (x := z) rfl] at nearer
  generalize signed negative q = a at same nearer
  have middle : a = (size y.magnitude + size x.magnitude) / 2 := by
    rcases abs_eq_abs.1 same with equal | opposite <;> linarith
  have above := size_strictMono (Nat.lt_succ_self y.magnitude)
  exact nearer.not_gt (dist_lt_of_lt (size_strictMono next) (by linarith))

theorem Rounds.unique (hx : Rounds negative q x) (hy : Rounds negative q y) : x = y := by
  refine ext (hx.sign.trans hy.sign.symm) ?_
  rcases lt_or_ge |q| (2 ^ 1024 - 2 ^ 970) with finite | overflow
  · exact le_antisymm (hx.magnitude_le hy finite) (hy.magnitude_le hx finite)
  · rw [hx.overflow overflow, hy.overflow overflow]

theorem nearer_ofDecimal {d : Decimal} (finite : d.magnitude < infinity) (y : Binary64) :
    let q := signed negative d.rational
    let x := ofDecimal negative d
    |q - x.value| < |q - y.value| ∨
      |q - x.value| = |q - y.value| ∧ (x.value = y.value ∨ significand x.magnitude % 2 = 0) := by
  intro q x
  have distance : |q - x.value| = |d.rational - size d.magnitude| := by
    rw [dist_value (show x.negative = negative from rfl), signed_signed]
    rfl
  have below : ∀ k < d.magnitude, Exceeds k d.rational :=
    fun k less => (Decimal.lt_magnitude_iff.1 less).2
  have above : ¬Exceeds d.magnitude d.rational :=
    fun exceeds => lt_irrefl _ (Decimal.lt_magnitude_iff.2 ⟨finite, exceeds⟩)
  rw [distance, show significand x.magnitude % 2 = d.magnitude % 2 from significand_mod_two _]
  by_cases sign : y.negative = negative
  · rw [dist_value sign, signed_signed]
    by_cases same : y.magnitude = d.magnitude
    · exact .inr ⟨by rw [same], .inl (by rw [value, value, sign, same]; rfl)⟩
    · exact (nearer_or_even below above same).imp_right fun tie => ⟨tie.1, .inr tie.2⟩
  · have far : |q - y.value| = d.rational + size y.magnitude :=
      dist_signed_of_ne sign d.rational_nonneg (size_nonneg _)
    rw [far]
    exact (nearer_than_opposite below above d.rational_nonneg _).imp_right
      fun tie => ⟨tie.1, .inr tie.2⟩

theorem rounds_ofDecimal (negative : Bool) (d : Decimal) :
    Rounds negative (signed negative d.rational) (ofDecimal negative d) := by
  have abs : |signed negative d.rational| = d.rational := by
    rw [abs_signed, abs_of_nonneg d.rational_nonneg]
  have finite (h : |signed negative d.rational| < 2 ^ 1024 - 2 ^ 970) : d.magnitude < infinity := by
    refine lt_of_le_of_ne d.magnitude_le fun top => ?_
    rw [abs] at h
    exact h.not_ge (Decimal.magnitude_eq_infinity_iff.1 top)
  refine ⟨rfl, ?_, finite, ?_, ?_⟩
  · rw [abs]
    exact Decimal.magnitude_eq_infinity_iff.2
  · exact fun h y _ => (nearer_ofDecimal (finite h) y).elim le_of_lt fun tie => tie.1.le
  · exact fun h y _ same => (nearer_ofDecimal (finite h) y).elim (fun less => absurd same less.ne)
      fun tie => tie.2

theorem rounds_iff {d : Decimal} :
    Rounds negative (signed negative d.rational) x ↔ x = ofDecimal negative d := by
  constructor
  · exact fun h => h.unique (rounds_ofDecimal negative d)
  · rintro rfl
    exact rounds_ofDecimal negative d

end Binary64
end LoxLexer
