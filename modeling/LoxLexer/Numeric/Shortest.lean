import LoxLexer.Numeric.Decimal

/-!
# Shortest decimals

The shortest decimal of a finite number is the one with the fewest digits among those that are
rounded to the number, and of these the nearest to it.

The exact value of a number is a decimal. Dropping its last `p` digits leaves two candidates, below
and above; the greatest `p` with a candidate that reads back wins. With nothing dropped the value
itself reads back.
-/

namespace LoxLexer.Shortest
open Binary64

def places (m : Nat) : Nat := unitExponent - scale m

def exact (m : Nat) : Decimal := ⟨units m * Nat.pow 10 (places m) / unitsPerOne, -places m⟩

theorem unitsPerOne_dvd (m : Nat) : unitsPerOne ∣ units m * Nat.pow 10 (places m) := by
  have bits : 2 ^ scale m ∣ units m := by
    unfold units
    split
    · rename_i small
      rw [scale, Nat.div_eq_of_lt small]
      exact Nat.one_dvd m
    · rw [Nat.shiftLeft_eq]
      exact Nat.dvd_mul_left _ _
  have tens : 2 ^ places m ∣ 10 ^ places m := ⟨5 ^ places m, Nat.mul_pow 2 5 _⟩
  have enough : unitExponent ≤ scale m + places m := by
    unfold places
    omega
  rw [unitsPerOne, Nat.one_shiftLeft]
  refine Nat.dvd_trans (Nat.pow_dvd_pow 2 enough) ?_
  rw [Nat.pow_add]
  exact Nat.mul_dvd_mul bits tens

theorem magnitude_exact {m : Nat} (h : m < infinity) : (exact m).magnitude = m := by
  have scaled : nearest (units m * Nat.pow 10 (places m)) (1 * Nat.pow 10 (places m)) =
      nearest (units m) 1 := nearest_scale (Nat.pow_pos (by decide))
  rw [Nat.one_mul, nearest_units h] at scaled
  have down : (-(places m : Int)).toNat = 0 := by omega
  have up : (- -(places m : Int)).toNat = places m := by omega
  simp only [Decimal.magnitude, exact, down, up, Nat.pow, Nat.mul_one,
    Nat.div_mul_cancel (unitsPerOne_dvd m), scaled]

def choose? (admits : Nat → Bool) (x unit : Nat) : Option Nat :=
  let low := x / unit
  let twice := 2 * (x % unit)
  -- The nearer of two neighbours is chosen, and of two that are as near the even one.
  match admits low, admits (low + 1) with
  | true, true => some (if twice < unit ∨ twice = unit ∧ low % 2 = 0 then low else low + 1)
  | true, false => some low
  | false, true => some (low + 1)
  | false, false => none

theorem admits_of_choose? {admits : Nat → Bool} {x unit c : Nat}
    (h : choose? admits x unit = some c) : admits c = true := by
  unfold choose? at h
  dsimp only at h
  split at h <;> cases h
  · split <;> assumption
  · assumption
  · assumption

def candidate? (m p : Nat) : Option Decimal :=
  let e := (p : Int) - places m
  (choose? (fun c => (Decimal.mk c e).magnitude = m) (exact m).coefficient (Nat.pow 10 p)).map (⟨·, e⟩)

theorem magnitude_of_candidate? {m p : Nat} {d : Decimal} (h : candidate? m p = some d) :
    d.magnitude = m := by
  obtain ⟨c, chosen, rfl⟩ := Option.map_eq_some_iff.1 h
  exact of_decide_eq_true (admits_of_choose? chosen)

def atGreatest {α : Type} (value? : Nat → Option α) (d : α) : Nat → α
  | 0 => d
  | p + 1 =>
    match value? (p + 1) with
    | some x => x
    | none => atGreatest value? d p

theorem atGreatest_induction {α : Type} {value? : Nat → Option α} {d : α} {P : α → Prop}
    (hd : P d) (hv : ∀ p x, value? p = some x → P x) (p : Nat) : P (atGreatest value? d p) := by
  induction p with
  | zero => exact hd
  | succ p ih =>
    rw [atGreatest]
    split
    · rename_i x hx
      exact hv _ x hx
    · exact ih

def shortest (m : Nat) : Decimal :=
  if m = 0 then ⟨0, 0⟩
  else atGreatest (candidate? m) (exact m) ((Text.ofNat (exact m).coefficient).length - 1)

theorem magnitude_shortest {m : Nat} (h : m < infinity) : (shortest m).magnitude = m := by
  unfold shortest
  split
  · rename_i zero
    rw [Decimal.magnitude_zero, zero]
  · exact atGreatest_induction (P := fun d : Decimal => d.magnitude = m) (magnitude_exact h)
      (fun _ _ => magnitude_of_candidate?) _

end LoxLexer.Shortest
