import LoxLexer.Numeric.Binary64
import LoxLexer.Text.Basic

namespace LoxLexer

structure Decimal where
  coefficient : Nat
  exponent : Int
deriving DecidableEq, Repr

def Decimal.magnitude (d : Decimal) : Nat :=
  Binary64.nearest (d.coefficient * Nat.pow 10 d.exponent.toNat * Binary64.unitsPerOne)
    (Nat.pow 10 (-d.exponent).toNat)

theorem Decimal.magnitude_le (d : Decimal) : d.magnitude ≤ Binary64.infinity :=
  Binary64.nearest_le _ _

theorem Decimal.magnitude_zero (e : Int) : (Decimal.mk 0 e).magnitude = 0 := by
  simp only [Decimal.magnitude, Nat.zero_mul, Binary64.nearest_zero]

def Binary64.ofDecimal (negative : Bool) (d : Decimal) : Binary64 :=
  ⟨negative, d.magnitude, nearest_lt _ _⟩

structure Numeral where
  negative : Bool
  whole : Text
  fraction : Text
deriving DecidableEq, Repr

namespace Numeral

def decimal (n : Numeral) : Decimal := ⟨Text.value (n.whole ++ n.fraction), -n.fraction.length⟩

def number (n : Numeral) : Binary64 := .ofDecimal n.negative n.decimal

def splitSign : Text → Bool × Text
  | '-' :: t => (true, t)
  | '+' :: t => (false, t)
  | t => (false, t)

def parse? (t : Text) : Option Numeral :=
  let (negative, body) := splitSign t
  let whole := body.takeWhile Char.isDigit
  match body.dropWhile Char.isDigit with
  | [] => if whole = [] then none else some ⟨negative, whole, []⟩
  | '.' :: fraction =>
    if fraction.all Char.isDigit ∧ whole ++ fraction ≠ [] then some ⟨negative, whole, fraction⟩
    else none
  | _ => none

end Numeral
end LoxLexer
