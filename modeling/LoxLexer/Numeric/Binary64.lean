/-!
# Binary64 numbers

A binary64 number is a sign and a magnitude, the other 63 bits of its word read as one number. The
magnitudes are ordered as the values are. Up to the magnitude of infinity, that of `m` is a whole
number of units of 2⁻¹⁰⁷⁴.
-/

namespace LoxLexer

def Binary64.signBit : Nat := 0x8000000000000000

structure Binary64 where
  negative : Bool
  magnitude : Nat
  magnitude_lt : magnitude < Binary64.signBit
deriving DecidableEq

namespace Binary64

theorem ext {x y : Binary64} (hs : x.negative = y.negative) (hm : x.magnitude = y.magnitude) :
    x = y := by
  cases x
  cases y
  simp_all

def ofBits (w : UInt64) : Binary64 :=
  ⟨decide (signBit ≤ w.toNat), w.toNat % signBit, Nat.mod_lt _ (by decide)⟩

def bits (x : Binary64) : UInt64 :=
  UInt64.ofNat ((if x.negative then signBit else 0) + x.magnitude)

theorem ofBits_bits (x : Binary64) : ofBits x.bits = x := by
  have hm := x.magnitude_lt
  unfold signBit at hm
  apply ext
  · cases hs : x.negative <;> simp [ofBits, bits, signBit, hs] <;> omega
  · cases hs : x.negative <;> simp [ofBits, bits, signBit, hs] <;> omega

-- The magnitudes from one power of two to the next are evenly spaced.
def binade : Nat := 0x10000000000000

def infinity : Nat := 2047 * binade

def isFinite (x : Binary64) : Bool := x.magnitude < infinity

def isNaN (x : Binary64) : Bool := infinity < x.magnitude

@[irreducible] def unitExponent : Nat := 1074

def unitsPerOne : Nat := 1 <<< unitExponent

def scale (m : Nat) : Nat := m / binade - 1

def units (m : Nat) : Nat :=
  if m < binade then m else (binade + m % binade) <<< scale m

def roundHalfEven (num den : Nat) : Nat :=
  let q := num / den
  let r := num % den
  if 2 * r < den then q else if den < 2 * r then q + 1 else q + q % 2

/-- The magnitude nearest to `num / den` units: at most 53 bits are kept, a half goes to the even
neighbour, and what rounds above the finite magnitudes is infinity. -/
def nearest (num den : Nat) : Nat :=
  let s := Nat.log2 (num / den) - 52
  min (s * binade + roundHalfEven num (den <<< s)) infinity

theorem nearest_eq (num den : Nat) :
    nearest num den = min ((Nat.log2 (num / den) - 52) * binade +
      roundHalfEven num (den <<< (Nat.log2 (num / den) - 52))) infinity := rfl

-- Left folded, so that no comparison of terms starts to compute a rounding.
attribute [irreducible] nearest

theorem nearest_zero (den : Nat) : nearest 0 den = 0 := by simp [nearest_eq, roundHalfEven]

theorem nearest_le (num den : Nat) : nearest num den ≤ infinity := by
  rw [nearest_eq]
  exact Nat.min_le_right _ _

theorem nearest_lt (num den : Nat) : nearest num den < signBit :=
  Nat.lt_of_le_of_lt (nearest_le num den) (by decide)

theorem roundHalfEven_scale {num den k : Nat} (hk : 0 < k) :
    roundHalfEven (num * k) (den * k) = roundHalfEven num den := by
  unfold roundHalfEven
  simp only [Nat.mul_div_mul_right _ _ hk, Nat.mul_mod_mul_right, ← Nat.mul_assoc,
    Nat.mul_lt_mul_right hk]

theorem nearest_scale {num den k : Nat} (hk : 0 < k) :
    nearest (num * k) (den * k) = nearest num den := by
  simp only [nearest_eq, Nat.shiftLeft_eq, Nat.mul_div_mul_right _ _ hk, Nat.mul_right_comm den k,
    roundHalfEven_scale hk]

theorem nearest_units {m : Nat} (h : m < infinity) : nearest (units m) 1 = m := by
  have exact_round : ∀ q d, 0 < d → roundHalfEven (q * d) d = q := by
    intro q d hd
    simp [roundHalfEven, Nat.mul_div_cancel _ hd, hd]
  have binade_eq : binade = 2 ^ 52 := rfl
  rw [nearest_eq]
  unfold units scale
  simp only [Nat.shiftLeft_eq, binade_eq]
  split
  · rename_i small
    have : Nat.log2 m - 52 = 0 := by
      by_cases hm : m = 0
      · simp [hm]
      · have := (Nat.log2_lt hm).2 small
        omega
    have round := exact_round m 1 (by decide)
    simp only [Nat.mul_one] at round
    simp only [Nat.div_one, this, Nat.pow_zero, Nat.mul_one, round]
    omega
  · rename_i large
    generalize he : m / 2 ^ 52 - 1 = e
    generalize hf : m % 2 ^ 52 = f
    have hlt : f < 2 ^ 52 := hf ▸ Nat.mod_lt _ (by decide)
    have log : Nat.log2 ((2 ^ 52 + f) * 2 ^ e) = 52 + e := by
      refine (Nat.log2_eq_iff ?_).2 ⟨?_, ?_⟩
      · exact Nat.ne_of_gt (Nat.mul_pos (by omega) (Nat.two_pow_pos e))
      · rw [Nat.pow_add]
        exact Nat.mul_le_mul_right _ (by omega)
      · rw [show 52 + e + 1 = 53 + e by omega, Nat.pow_add]
        exact Nat.mul_lt_mul_of_pos_right (by omega) (Nat.two_pow_pos e)
    simp only [Nat.div_one, log, Nat.add_sub_cancel_left, Nat.one_mul,
      exact_round _ _ (Nat.two_pow_pos e)]
    unfold infinity binade at *
    omega

def sameValue (x y : Binary64) : Bool :=
  !x.isNaN && !y.isNaN && x.magnitude = y.magnitude &&
    (x.negative = y.negative || x.magnitude = 0)

end Binary64
end LoxLexer
