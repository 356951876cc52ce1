import LoxLexer.Literal
import LoxLexer.Proofs.Numerals
import LoxLexer.Proofs.Rounding

namespace LoxLexer

namespace Numeral

def rational (n : Numeral) : ℚ :=
  signed n.negative (Text.value n.whole + Text.value n.fraction / 10 ^ n.fraction.length)

theorem rational_eq (n : Numeral) : n.rational = signed n.negative n.decimal.rational := by
  have digits : Text.value (n.whole ++ n.fraction) =
      10 ^ n.fraction.length * Text.value n.whole + Text.value n.fraction := by
    rw [Text.value, Nat.ofDigitChars_append, Nat.ofDigitChars_eq_ofDigitChars_zero]
    rfl
  rw [rational, Decimal.rational, decimal, digits, zpow_neg, zpow_natCast]
  push_cast
  congr 1
  field_simp

end Numeral

namespace Literal
open Binary64

/-- The text of a numeral has the number that its value is rounded to. Every other text has none. -/
theorem parseNumber_rounds (t : Text) :
    (∀ n : Numeral, n.Writes t → ∃ x, parseNumber t = .ok (.number x) ∧
      Rounds n.negative n.rational x ∧ ∀ y, Rounds n.negative n.rational y → y = x) ∧
    ((∀ n : Numeral, ¬n.Writes t) → parseNumber t = .error ⟨t, .notNumber⟩) := by
  constructor
  · intro n writes
    have rounds : Rounds n.negative n.rational n.number := by
      rw [n.rational_eq]
      exact rounds_ofDecimal n.negative n.decimal
    refine ⟨n.number, ?_, rounds, fun y other => other.unique rounds⟩
    rw [parseNumber, Numeral.parse?_eq_some_iff.2 writes]
  · intro none
    have unread : Numeral.parse? t = .none :=
      Option.eq_none_iff_forall_ne_some.2 fun n read => none n (Numeral.parse?_eq_some_iff.1 read)
    rw [parseNumber, unread]

theorem parseNumber_rounds_tie :
    let t := "-9007199254740993.".toList
    let x : Binary64 := ⟨true, 0x4340000000000000, by decide⟩
    (parseNumber t = .ok (.number x) ∧ Rounds true (-9007199254740993) x) ∧
      parseNumber "1e5".toList = .error ⟨"1e5".toList, .notNumber⟩ := by
  intro t x
  let n : Numeral := ⟨true, "9007199254740993".toList, []⟩
  have value : n.rational = -9007199254740993 := by
    have whole : Text.value n.whole = 9007199254740993 := by decide
    have fraction : Text.value n.fraction = 0 := by decide
    rw [Numeral.rational, whole, fraction, Nat.cast_zero, zero_div, add_zero]
    rfl
  obtain ⟨y, parsed, rounds, -⟩ :=
    (parseNumber_rounds t).1 n (Numeral.parse?_eq_some_iff.1 (by decide))
  have number : parseNumber t = .ok (.number x) := by decide +kernel
  obtain rfl : x = y := by simpa [number] using parsed
  rw [value] at rounds
  have unread : Numeral.parse? "1e5".toList = none := by decide
  refine ⟨⟨number, rounds⟩, (parseNumber_rounds _).2 fun n writes => ?_⟩
  exact Option.some_ne_none n ((Numeral.parse?_eq_some_iff.2 writes).symm.trans unread)

end Literal
end LoxLexer
