import LoxLexer.Numeric.Shortest
import LoxLexer.Proofs.Rounding
import Mathlib.Data.List.TakeWhile
import Mathlib.Data.Nat.Digits.Lemmas

/-!
# Fewest digits

Zeros at the ends of a decimal are not significant. No decimal that is rounded to a number has fewer
significant digits than the shortest decimal of the number.

What is rounded to one number is an interval. Where a decimal in it has fewer digits than the exact
value, the exact value without its last digits, or the next one, is in it too, or a power of ten is.
-/

namespace LoxLexer

namespace Text

theorem lt_pow_length (n : Nat) : n < 10 ^ (ofNat n).length :=
  (Nat.length_toDigits_le_iff (by decide) Nat.length_toDigits_pos).1 le_rfl

theorem pow_length_le {n : Nat} (h : n ≠ 0) : 10 ^ ((ofNat n).length - 1) ≤ n := by
  rcases Nat.eq_zero_or_pos ((ofNat n).length - 1) with one | more
  · rw [one, pow_zero]
    exact Nat.one_le_iff_ne_zero.2 h
  · by_contra! less
    have shorter := (Nat.length_toDigits_le_iff (by decide) more).2 less
    exact absurd shorter (by unfold ofNat at *; omega)

end Text

namespace Decimal

variable {d d' : Decimal}

def significantDigits (d : Decimal) : Nat :=
  ((Nat.digits 10 d.coefficient).dropWhile (· = 0)).length

theorem exists_significant (d : Decimal) :
    ∃ a j, d.coefficient = a * 10 ^ j ∧ a < 10 ^ d.significantDigits := by
  have zeros : ∀ n ∈ (Nat.digits 10 d.coefficient).takeWhile (· = 0), n = 0 := by
    intro n hn
    simpa using List.mem_takeWhile_imp hn
  obtain ⟨j, split⟩ : ∃ j, List.replicate j 0 ++ (Nat.digits 10 d.coefficient).dropWhile (· = 0) =
      Nat.digits 10 d.coefficient :=
    ⟨_, by rw [← List.eq_replicate_of_mem zeros, List.takeWhile_append_dropWhile]⟩
  refine ⟨Nat.ofDigits 10 ((Nat.digits 10 d.coefficient).dropWhile (· = 0)), j, ?_,
    Nat.ofDigits_lt_base_pow_length (by decide) ?_⟩
  · calc d.coefficient = Nat.ofDigits 10 (Nat.digits 10 d.coefficient) :=
          (Nat.ofDigits_digits 10 _).symm
      _ = _ := by
        rw [← split, Nat.ofDigits_append, Nat.ofDigits_replicate_zero, List.length_replicate,
          zero_add, mul_comm, split]
  · exact fun n hn => Nat.digits_lt_base (by decide) ((List.dropWhile_sublist _).subset hn)

theorem significantDigits_le {a j k : Nat} (h : d.coefficient = a * 10 ^ j) (lt : a < 10 ^ k) :
    d.significantDigits ≤ k := by
  rw [significantDigits, h]
  rcases Nat.eq_zero_or_pos a with rfl | positive
  · simp
  · rw [Nat.mul_comm, Nat.digits_base_pow_mul (by decide) positive,
      List.dropWhile_append_of_pos (by simp)]
    exact (List.dropWhile_sublist _).length_le.trans ((Nat.digits_length_le_iff (by decide) a).2 lt)

theorem significantDigits_le_iff {k : Nat} :
    d.significantDigits ≤ k ↔ ∃ (a : Nat) (e : Int), a < 10 ^ k ∧ d.rational = a * 10 ^ e := by
  constructor
  · intro le
    obtain ⟨a, j, split, lt⟩ := d.exists_significant
    refine ⟨a, d.exponent + j, lt.trans_le (Nat.pow_le_pow_right (by decide) le), ?_⟩
    rw [show d = ⟨a * 10 ^ j, d.exponent⟩ from split ▸ rfl, rational_shift]
    rfl
  · rintro ⟨a, e, lt, value⟩
    obtain ⟨c, exponent⟩ := d
    rcases le_total exponent e with le | ge
    · obtain ⟨j, rfl⟩ := Int.le.dest le
      have same : (Decimal.mk c exponent).rational = (Decimal.mk (a * 10 ^ j) exponent).rational :=
        value.trans (rational_shift a j exponent).symm
      exact significantDigits_le ((rational_strictMono exponent).injective same) lt
    · obtain ⟨j, rfl⟩ := Int.le.dest ge
      have same : (Decimal.mk (c * 10 ^ j) e).rational = (Decimal.mk a e).rational :=
        (rational_shift c j e).trans value
      have le : c ≤ a := by
        rw [← (rational_strictMono e).injective same]
        exact Nat.le_mul_of_pos_right c (by positivity)
      exact significantDigits_le (j := 0) (mul_one c).symm (le.trans_lt lt)

theorem significantDigits_congr (h : d.rational = d'.rational) :
    d.significantDigits = d'.significantDigits := by
  refine eq_of_forall_ge_iff fun k => ?_
  rw [significantDigits_le_iff, significantDigits_le_iff, h]

end Decimal

namespace Shortest

variable {m p c : Nat} {d : Decimal}

theorem choose?_eq_some {admits : Nat → Bool} {x unit : Nat} (h : choose? admits x unit = some c) :
    c = x / unit ∨ c = x / unit + 1 := by
  unfold choose? at h
  dsimp only at h
  split at h <;> cases h
  · split <;> simp
  · exact .inl rfl
  · exact .inr rfl

theorem choose?_eq_none {admits : Nat → Bool} {x unit : Nat} (h : choose? admits x unit = none) :
    admits (x / unit) = false ∧ admits (x / unit + 1) = false := by
  unfold choose? at h
  dsimp only at h
  split at h
  · cases h
  · cases h
  · cases h
  · rename_i low high
    exact ⟨low, high⟩

theorem atGreatest_cases {α : Type} (value? : Nat → Option α) (d : α) (n : Nat) :
    (atGreatest value? d n = d ∧ ∀ p, 0 < p → p ≤ n → value? p = none) ∨
      ∃ p, 0 < p ∧ p ≤ n ∧ value? p = some (atGreatest value? d n) ∧
        ∀ q, p < q → q ≤ n → value? q = none := by
  induction n with
  | zero => exact .inl ⟨rfl, by omega⟩
  | succ n ih =>
    rw [atGreatest]
    cases value : value? (n + 1) with
    | some x => exact .inr ⟨n + 1, by omega, le_rfl, value, by omega⟩
    | none =>
      have last {q : Nat} (le : q ≤ n + 1) (below : q ≤ n → value? q = none) : value? q = none := by
        rcases Nat.le_succ_iff.1 le with le | rfl
        · exact below le
        · exact value
      rcases ih with ⟨same, none⟩ | ⟨p, positive, le, found, none⟩
      · exact .inl ⟨same, fun p hp le => last le (none p hp)⟩
      · exact .inr ⟨p, positive, by omega, found, fun q hq le => last le (none q hq)⟩

def Hits (m n : Nat) : Prop := (Decimal.mk n (-places m)).magnitude = m

theorem hits_exact (finite : m < Binary64.infinity) : Hits m (exact m).coefficient :=
  magnitude_exact finite

theorem hits_shift : Hits m (c * 10 ^ p) ↔ (Decimal.mk c (p - places m)).magnitude = m := by
  rw [Hits, Decimal.magnitude_congr (Decimal.rational_shift c p _), neg_add_eq_sub]

theorem Hits.between {a b : Nat} (ha : Hits m a) (hb : Hits m b) (hac : a ≤ c) (hcb : c ≤ b) :
    Hits m c :=
  Decimal.magnitude_between ha hb ((Decimal.rational_strictMono _).monotone hac)
    ((Decimal.rational_strictMono _).monotone hcb)

theorem candidate?_ne_none (finite : m < Binary64.infinity) (h : Hits m (c * 10 ^ p)) :
    candidate? m p ≠ none := by
  intro none
  obtain ⟨low, high⟩ := choose?_eq_none (Option.map_eq_none_iff.1 none)
  have low : ¬Hits m ((exact m).coefficient / 10 ^ p * 10 ^ p) :=
    mt hits_shift.1 (of_decide_eq_false low)
  have high : ¬Hits m (((exact m).coefficient / 10 ^ p + 1) * 10 ^ p) :=
    mt hits_shift.1 (of_decide_eq_false high)
  have below := Nat.div_mul_le_self (exact m).coefficient (10 ^ p)
  have above := (Nat.lt_div_mul_add (a := (exact m).coefficient) (b := 10 ^ p) (by positivity)).le
  rw [← Nat.succ_mul] at above
  -- One of the candidates stands between the competitor and the exact value.
  rcases Nat.lt_or_ge ((exact m).coefficient / 10 ^ p) c with less | ge
  · exact high ((hits_exact finite).between h above (Nat.mul_le_mul_right _ less))
  · exact low (h.between (hits_exact finite) (Nat.mul_le_mul_right _ ge) below)

def digitCount (m : Nat) : Nat := (Text.ofNat (exact m).coefficient).length

theorem significantDigits_candidate? (h : candidate? m p = some d) (hp : p < digitCount m) :
    d.significantDigits ≤ digitCount m - p := by
  obtain ⟨c, chosen, rfl⟩ := Option.map_eq_some_iff.1 h
  have low : (exact m).coefficient / 10 ^ p < 10 ^ (digitCount m - p) := by
    refine Nat.div_lt_of_lt_mul ?_
    rw [← pow_add, Nat.add_sub_cancel' hp.le]
    exact Text.lt_pow_length _
  have bound : c ≤ 10 ^ (digitCount m - p) := by
    rcases choose?_eq_some chosen with rfl | rfl
    · exact low.le
    · exact low
  rcases bound.eq_or_lt with rfl | less
  · have one : 1 < 10 ^ (digitCount m - p) := Nat.one_lt_pow (by omega) (by decide)
    exact Decimal.significantDigits_le (one_mul _).symm one
  · exact Decimal.significantDigits_le (j := 0) (mul_one _).symm less

theorem significantDigits_shortest_le_sub (finite : m < Binary64.infinity) (nonzero : m ≠ 0)
    (h : Hits m (c * 10 ^ p)) (hp : p < digitCount m) :
    (shortest m).significantDigits ≤ digitCount m - p := by
  have candidate := candidate?_ne_none finite h
  rw [shortest, if_neg nonzero]
  change (atGreatest (candidate? m) (exact m) (digitCount m - 1)).significantDigits ≤ _
  rcases atGreatest_cases (candidate? m) (exact m) (digitCount m - 1) with
    ⟨same, none⟩ | ⟨p', positive, le, found, none⟩
  · rcases Nat.eq_zero_or_pos p with rfl | some
    · rw [same]
      exact Decimal.significantDigits_le (j := 0) (mul_one _).symm (Text.lt_pow_length _)
    · exact absurd (none p some (by omega)) candidate
  · have greatest : p ≤ p' := by
      by_contra! less
      exact candidate (none p less (by omega))
    have := significantDigits_candidate? found (by omega)
    omega

theorem significantDigits_shortest_le_of_inside (finite : m < Binary64.infinity) (nonzero : m ≠ 0)
    {a k : Nat} {e : Int} (hits : (Decimal.mk a e).magnitude = m) (lt : a < 10 ^ k)
    (above : (10 : ℚ) ^ ((digitCount m - 1 : Nat) + -places m : Int) ≤ a * 10 ^ e)
    (below : (a : ℚ) * 10 ^ e < 10 ^ (digitCount m + -places m : Int)) :
    (shortest m).significantDigits ≤ k := by
  have ten : (1 : ℚ) < 10 := by norm_num
  have positive : (1 : ℚ) ≤ a := by
    exact_mod_cast Nat.pos_of_ne_zero (Decimal.coefficient_ne_zero (hits.symm ▸ nonzero))
  have upper : e < digitCount m + -places m := by
    rw [← zpow_lt_zpow_iff_right₀ ten]
    exact (le_mul_of_one_le_left (by positivity) positive).trans_lt below
  have lower : ((digitCount m - 1 : Nat) + -places m : Int) < k + e := by
    have less : (a : ℚ) * 10 ^ e < 10 ^ k * 10 ^ e := by
      gcongr
      exact_mod_cast lt
    rw [← zpow_lt_zpow_iff_right₀ ten, zpow_add₀ (by positivity) k e, zpow_natCast]
    exact above.trans_lt less
  rcases le_or_gt 0 (e + places m) with aligned | finer
  · obtain ⟨p, hp⟩ := Int.eq_ofNat_of_zero_le aligned
    have hits : Hits m (a * 10 ^ p) := hits_shift.2 (by rwa [← hp, add_sub_cancel_right])
    have := significantDigits_shortest_le_sub finite nonzero hits (by omega)
    omega
  · have exact : Hits m ((exact m).coefficient * 10 ^ 0) := by simpa using hits_exact finite
    have := significantDigits_shortest_le_sub finite nonzero exact Nat.length_toDigits_pos
    omega

/-- No decimal of a number has fewer significant digits than the shortest one. -/
theorem significantDigits_shortest_le (finite : m < Binary64.infinity) (h : d.magnitude = m) :
    (shortest m).significantDigits ≤ d.significantDigits := by
  rcases eq_or_ne m 0 with rfl | nonzero
  · simp [shortest, Decimal.significantDigits]
  obtain ⟨a, e, lt, value⟩ := Decimal.significantDigits_le_iff.1 (le_refl d.significantDigits)
  have hits : (Decimal.mk a e).magnitude = m :=
    (Decimal.magnitude_congr (show (Decimal.mk a e).rational = d.rational from value.symm)).trans h
  generalize d.significantDigits = k at lt ⊢
  have some : 0 < digitCount m := Nat.length_toDigits_pos
  have one {c : Nat} (h : Hits m (c * 10 ^ (digitCount m - 1))) :
      (shortest m).significantDigits ≤ k := by
    have positive : k ≠ 0 := by
      rintro rfl
      exact Decimal.coefficient_ne_zero (hits.symm ▸ nonzero) (Nat.lt_one_iff.1 lt)
    have := significantDigits_shortest_le_sub finite nonzero h (Nat.sub_lt some (by decide))
    omega
  have exact := hits_exact finite
  -- A power of ten between the competitor and the exact value has one digit.
  rcases lt_or_ge d.rational (Decimal.mk (10 ^ (digitCount m - 1)) (-places m)).rational with
    below | above
  · have least : (Shortest.exact m).coefficient ≠ 0 :=
      Decimal.coefficient_ne_zero (exact.symm ▸ nonzero)
    refine one (c := 1) ?_
    rw [one_mul]
    exact Decimal.magnitude_between h exact below.le
      ((Decimal.rational_strictMono _).monotone (Text.pow_length_le least))
  rcases lt_or_ge d.rational (Decimal.mk (10 ^ digitCount m) (-places m)).rational with
    inside | beyond
  · rw [Decimal.rational_pow, value] at above inside
    exact significantDigits_shortest_le_of_inside finite nonzero hits lt above inside
  · refine one (c := 10) ?_
    rw [← pow_succ', Nat.sub_add_cancel some]
    exact Decimal.magnitude_between exact h
      ((Decimal.rational_strictMono _).monotone (Text.lt_pow_length _).le) beyond

end Shortest
end LoxLexer
