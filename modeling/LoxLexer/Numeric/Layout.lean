import LoxLexer.Numeric.Shortest

namespace LoxLexer

structure Layout where
  -- The exponents from the lowest to the highest are not written: the number is positional.
  lowest : Int
  highest : Int
  plus : Bool
  width : Nat

namespace Layout

/-- Exponents are written bare, as in `1e16` and `1e-5`. -/
def display : Layout := ⟨-4, 15, false, 1⟩

/-- Exponents have a sign and at least two digits, as in `1e-05`. -/
def plain : Layout := ⟨-4, 15, true, 2⟩

def significant (digits : Text) : Text := (digits.reverse.dropWhile (· = '0')).reverse

def positional (digits : Text) : Int → Text
  | .ofNat e =>
    let whole := digits.take (e + 1)
    let fraction := digits.drop (e + 1)
    whole ++ List.replicate (e + 1 - whole.length) '0' ++
      '.' :: (if fraction = [] then ['0'] else fraction)
  | .negSucc e => '0' :: '.' :: List.replicate e '0' ++ digits

def exponent (layout : Layout) (e : Int) : Text :=
  let ds := Text.ofNat e.natAbs
  (if e < 0 then ['-'] else if layout.plus then ['+'] else []) ++
    List.replicate (layout.width - ds.length) '0' ++ ds

def scientific (layout : Layout) (digits : Text) (e : Int) : Text :=
  let others := digits.drop 1
  digits.take 1 ++ (if others = [] then [] else '.' :: others) ++ 'e' :: layout.exponent e

def decimal (layout : Layout) (d : Decimal) : Text :=
  let ds := Text.ofNat d.coefficient
  let e := d.exponent + ds.length - 1
  if layout.lowest ≤ e ∧ e ≤ layout.highest then positional (significant ds) e
  else layout.scientific (significant ds) e

def number (layout : Layout) (x : Binary64) : Text :=
  if x.isNaN then "nan".toList
  else
    (if x.negative then ['-'] else []) ++
      if x.isFinite then layout.decimal (Shortest.shortest x.magnitude) else "inf".toList

end Layout

namespace Binary64

def toInt? (x : Binary64) : Option Int :=
  if x.isFinite ∧ units x.magnitude % unitsPerOne = 0 then
    let n : Int := units x.magnitude / unitsPerOne
    some (if x.negative then -n else n)
  else none

end Binary64
end LoxLexer
