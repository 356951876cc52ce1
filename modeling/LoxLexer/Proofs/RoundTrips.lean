import LoxLexer.Proofs.Consistency
import LoxLexer.Proofs.ShortestForms

namespace LoxLexer

namespace Literal

variable {n : Numeral} {c : Char} {t : Text}

theorem not_isLetter_of_first (h : c.isDigit = true ∨ c ∈ ['-', '+', '.']) : isLetter c = false := by
  rcases h with digit | symbol
  · exact isDigit_not_isLetter digit
  · have symbols : ∀ c ∈ ['-', '+', '.'], isLetter c = false := by simp; decide
    exact symbols c symbol

theorem parseBoolean_of_digit (h : c.isDigit = true ∨ c ∈ ['-', '+', '.']) :
    parseBoolean (c :: t) = .error ⟨c :: t, .notBoolean⟩ :=
  have other := not_isLetter_of_first h
  parseBoolean_eq_error (ne_spelling other) (ne_spelling other)

theorem parse_of_writes (h : n.Writes t) : parse t = .ok (.number n.number) := by
  obtain ⟨c, u, rfl, first⟩ := h.exists_cons
  have number : parseNumber (c :: u) = .ok (.number n.number) := by
    rw [parseNumber, Numeral.parse?_eq_some_iff.2 h]
  rw [parse, parseBoolean_of_digit first, number]
  rfl

theorem parse_of_forall_not (first : c.isDigit = true ∨ c ∈ ['-', '+', '.'])
    (h : ∀ n : Numeral, ¬n.Writes (c :: t)) : parse (c :: t) = .error ⟨c :: t, .notString⟩ := by
  have unread : Numeral.parse? (c :: t) = none :=
    Option.eq_none_iff_forall_ne_some.2 fun n read => h n (Numeral.parse?_eq_some_iff.1 read)
  have number : parseNumber (c :: t) = .error ⟨c :: t, .notNumber⟩ := by rw [parseNumber, unread]
  have quote : c ≠ '"' := by
    rintro rfl
    simp at first
  rw [parse, parseBoolean_of_digit first, number, parseString_eq_error quote]
  rfl

end Literal

namespace Binary64

variable {m k : Nat} {x : Binary64}

def zero : Binary64 := ⟨false, 0, by decide⟩

def tenThousandth : Binary64 := ofDecimal false ⟨1, -4⟩

theorem size_eq_natCast_iff : size m = k ↔ units m = k * unitsPerOne := by
  rw [size_eq, div_eq_iff unitsPerOne_pos.ne']
  exact_mod_cast Iff.rfl

theorem exists_int_iff (x : Binary64) :
    (∃ n : Int, x.value = n) ↔ ∃ k, units x.magnitude = k * unitsPerOne := by
  simp only [← size_eq_natCast_iff, ← abs_value]
  constructor
  · rintro ⟨n, value⟩
    exact ⟨n.natAbs, by rw [value, Nat.cast_natAbs, Int.cast_abs]⟩
  · rintro ⟨k, abs⟩
    rcases abs_choice x.value with same | opposite
    · exact ⟨k, by rw [← same, abs]; rfl⟩
    · exact ⟨-k, by rw [← neg_eq_iff_eq_neg.2 opposite, abs]; simp⟩

theorem magnitude_whole (finite : m < infinity) (h : units m = k * unitsPerOne) :
    (Decimal.mk k 0).magnitude = m := by
  simpa [Decimal.magnitude, ← h] using nearest_units finite

theorem exists_units_eq (h : 1074 ≤ scale m) : ∃ k, units m = k * unitsPerOne := by
  obtain ⟨j, split⟩ := Nat.exists_eq_add_of_le' h
  refine ⟨significand m * 2 ^ j, ?_⟩
  rw [units_eq, split, unitsPerOne, Nat.one_shiftLeft, unitExponent, pow_add, mul_assoc]

theorem lt_of_not_whole (h : ¬∃ n : Int, x.value = n) : |x.value| < 10 ^ 16 := by
  by_contra! great
  rw [abs_value] at great
  have above := ten_zpow_le_size_iff.2.1 (by exact_mod_cast great)
  -- From 2⁵³ on the last binary digit counts at least one.
  have scaled : 1074 ≤ scale (Decimal.mk 1 16).magnitude := by decide +kernel
  refine h ((exists_int_iff x).2 (exists_units_eq (scaled.trans ?_)))
  exact Nat.sub_le_sub_right (Nat.div_le_div_right above) 1

theorem near_iff_le (finite : x.magnitude < infinity) :
    (Shortest.shortest x.magnitude).Near ↔
      x.value = 0 ∨ tenThousandth.value ≤ |x.value| ∧ |x.value| < 10 ^ 16 := by
  have low : tenThousandth.value ≤ size x.magnitude ↔
      (Decimal.mk 1 (-4)).magnitude ≤ x.magnitude := size_strictMono.le_iff_le
  have high : size x.magnitude < 10 ^ 16 ↔ x.magnitude < (Decimal.mk 1 16).magnitude := by
    rw [← not_le, ← not_le, ← ten_zpow_le_size_iff.2]
    norm_cast
  rw [Shortest.near_shortest_iff finite, value_eq_zero_iff, abs_value, low, high]

end Binary64

namespace Layout
open Binary64

variable {layout : Layout} {x : Binary64}

theorem number_eq_display (low : layout.lowest = -4) (high : layout.highest = 15)
    (finite : x.magnitude < infinity) (near : (Shortest.shortest x.magnitude).Near) :
    layout.number x = display.number x := by
  rw [number_of_isFinite finite, number_of_isFinite finite, decimal_eq low high,
    decimal_eq rfl rfl, if_pos near, if_pos near]

theorem exists_number_eq_cons (low : layout.lowest = -4) (high : layout.highest = 15)
    (finite : x.magnitude < infinity) (far : ¬(Shortest.shortest x.magnitude).Near) :
    ∃ c t, layout.number x = c :: t ∧ (c.isDigit = true ∨ c ∈ ['-', '+', '.']) ∧ 'e' ∈ c :: t := by
  have nonzero : (Shortest.shortest x.magnitude).coefficient ≠ 0 := by
    intro zero
    rw [Decimal.Near, Shortest.leading_shortest finite zero] at far
    exact far (by decide)
  obtain ⟨c, t, split, -⟩ := significant_ofNat nonzero
  have digit : c.isDigit = true := isDigit_of_mem_significant (split ▸ List.mem_cons_self)
  rw [number_of_isFinite finite, decimal_eq low high, if_neg far, split]
  cases x.negative
  · exact ⟨c, _, rfl, .inl digit, by simp⟩
  · exact ⟨'-', _, rfl, .inr (by decide), by simp [scientific]⟩

end Layout

namespace Literal
open Binary64

variable {x : Binary64}

theorem parse_number {layout : Layout} (low : layout.lowest = -4) (high : layout.highest = 15)
    (finite : x.magnitude < infinity) :
    parse (layout.number x) =
      if (Shortest.shortest x.magnitude).Near then .ok (.number x)
      else .error ⟨layout.number x, .notString⟩ := by
  split
  · rename_i near
    obtain ⟨n, e, sign, value, form⟩ := Layout.form_number finite
    rw [if_pos near] at form
    obtain ⟨positional, rfl⟩ := form
    have number : n.number = x := by
      rw [Numeral.number, sign, ofDecimal_eq]
      rw [n.scaled_zero] at value
      exact (Decimal.magnitude_congr value).trans (Shortest.magnitude_shortest finite)
    rw [Layout.number_eq_display low high finite near, parse_of_writes positional.writes, number]
  · rename_i far
    obtain ⟨c, t, text, first, scaled⟩ := Layout.exists_number_eq_cons low high finite far
    rw [text]
    exact parse_of_forall_not first fun n writes => writes.not_mem rfl (by decide) scaled

theorem parse_number_of_not_isFinite (layout : Layout) (h : ¬x.magnitude < infinity) :
    parse (layout.number x) = .error ⟨layout.number x, .notString⟩ := by
  rcases x.cases_magnitude with finite | infinite | none
  · exact absurd finite h
  · rw [Layout.number_of_isInfinite infinite]
    cases x.negative <;> decide
  · rw [Layout.number_of_isNaN none]
    decide

theorem parse_ofInt (e : Int) :
    parse (Text.ofInt e) = .ok (.number (ofDecimal (e < 0) ⟨e.natAbs, 0⟩)) := by
  let n : Numeral := ⟨e < 0, Text.ofNat e.natAbs, []⟩
  have digits : ∀ d ∈ n.whole, d.isDigit = true := fun _ => Text.isDigit_of_mem_ofNat
  have writes : n.Writes (Text.ofInt e) := by
    rw [Text.ofInt_eq]
    exact ⟨_, _, Numeral.sign_sign _, .whole (Text.ofNat_ne_nil _) digits, rfl⟩
  have decimal : n.decimal = ⟨e.natAbs, 0⟩ := by simp [Numeral.decimal, n]
  rw [parse_of_writes writes, Numeral.number, decimal]

theorem bare_whole {k : Nat} (finite : x.magnitude < infinity)
    (whole : units x.magnitude = k * unitsPerOne) :
    bare (.number x) = Text.ofInt (if x.negative then -k else k) := by
  have positive : 0 < unitsPerOne := by exact_mod_cast unitsPerOne_pos
  have quotient : units x.magnitude / unitsPerOne = k := by
    rw [whole, Nat.mul_div_cancel k positive]
  have rest : units x.magnitude % unitsPerOne = 0 := by rw [whole, Nat.mul_mod_left]
  rw [bare, toInt?, if_pos ⟨decide_eq_true finite, rest⟩]
  simp only [← Int.natCast_ediv, quotient]

theorem bare_of_not_whole (h : x.magnitude < infinity → ¬∃ n : Int, x.value = n) :
    bare (.number x) = Layout.plain.number x := by
  have none : ¬(x.isFinite = true ∧ units x.magnitude % unitsPerOne = 0) := by
    rintro ⟨finite, rest⟩
    obtain ⟨k, split⟩ := Nat.dvd_of_mod_eq_zero rest
    exact h (of_decide_eq_true finite) ((exists_int_iff x).2 ⟨k, split.trans (Nat.mul_comm _ k)⟩)
  rw [bare, toInt?, if_neg none]

theorem parse_bare_whole (finite : x.magnitude < infinity) (whole : ∃ n : Int, x.value = n) :
    parse (bare (.number x)) = .ok (.number (if x.value = 0 then zero else x)) := by
  obtain ⟨k, units⟩ := (exists_int_iff x).1 whole
  have isZero : x.value = 0 ↔ k = 0 := by
    rw [← abs_eq_zero, abs_value, size_eq_natCast_iff.2 units, Nat.cast_eq_zero]
  rw [bare_whole finite units, parse_ofInt]
  by_cases none : x.value = 0
  · have read : ofDecimal zero.negative ⟨0, 0⟩ = zero := ofDecimal_eq (Decimal.magnitude_zero 0)
    have unsigned : (if x.negative then -(0 : Nat) else (0 : Nat) : Int) = 0 := by simp
    rw [if_pos none, isZero.1 none, unsigned]
    exact congrArg (fun y => Except.ok (number y)) read
  · have some := Nat.pos_of_ne_zero (mt isZero.2 none)
    have sign : decide ((if x.negative then -k else k : Int) < 0) = x.negative := by
      cases x.negative <;> simp [some]
    have abs : (if x.negative then -k else k : Int).natAbs = k := by split <;> simp
    rw [if_neg none, sign, abs, ofDecimal_eq (magnitude_whole finite units)]

def BareIsNumeral (x : Binary64) : Prop :=
  x.magnitude < infinity ∧ ((∃ n : Int, x.value = n) ∨ tenThousandth.value ≤ |x.value|)

def DisplayIsNumeral (x : Binary64) : Prop :=
  x.magnitude < infinity ∧
    (x.value = 0 ∨ tenThousandth.value ≤ |x.value| ∧ |x.value| < 10 ^ 16)

theorem parse_bare (x : Binary64) :
    (BareIsNumeral x →
      parse (bare (.number x)) = .ok (.number (if x.value = 0 then zero else x))) ∧
    (¬BareIsNumeral x → parse (bare (.number x)) = .error ⟨bare (.number x), .notString⟩) := by
  by_cases finite : x.magnitude < infinity
  · by_cases whole : ∃ n : Int, x.value = n
    · exact ⟨fun _ => parse_bare_whole finite whole, fun h => absurd ⟨finite, .inl whole⟩ h⟩
    · have nonzero : x.value ≠ 0 := fun zero => whole ⟨0, zero⟩
      have near : (Shortest.shortest x.magnitude).Near ↔ tenThousandth.value ≤ |x.value| := by
        rw [near_iff_le finite, or_iff_right nonzero, and_iff_left (lt_of_not_whole whole)]
      rw [bare_of_not_whole fun _ => whole, parse_number rfl rfl finite, if_neg nonzero]
      constructor
      · exact fun h => if_pos (near.2 (h.2.resolve_left whole))
      · exact fun h => if_neg fun inside => h ⟨finite, .inr (near.1 inside)⟩
  · rw [bare_of_not_whole fun h => absurd h finite]
    exact ⟨fun h => absurd h.1 finite, fun _ => parse_number_of_not_isFinite _ finite⟩

theorem parse_display (x : Binary64) :
    (DisplayIsNumeral x → parse (Layout.display.number x) = .ok (.number x)) ∧
    (¬DisplayIsNumeral x →
      parse (Layout.display.number x) = .error ⟨Layout.display.number x, .notString⟩) := by
  by_cases finite : x.magnitude < infinity
  · rw [parse_number rfl rfl finite]
    constructor
    · exact fun h => if_pos ((near_iff_le finite).2 h.2)
    · exact fun h => if_neg fun near => h ⟨finite, (near_iff_le finite).1 near⟩
  · exact ⟨fun h => absurd h.1 finite, fun _ => parse_number_of_not_isFinite _ finite⟩

/-- A text of a number is read as the number if it has no exponent; only the bare text of zero has
lost its sign. The other texts are read as nothing. -/
theorem parse_bare_display (x : Binary64) :
    (BareIsNumeral x →
      parse (bare (.number x)) = .ok (.number (if x.value = 0 then zero else x))) ∧
    (¬BareIsNumeral x → parse (bare (.number x)) = .error ⟨bare (.number x), .notString⟩) ∧
    (DisplayIsNumeral x → parse (Layout.display.number x) = .ok (.number x)) ∧
    (¬DisplayIsNumeral x →
      parse (Layout.display.number x) = .error ⟨Layout.display.number x, .notString⟩) :=
  ⟨(parse_bare x).1, (parse_bare x).2, parse_display x⟩

theorem parse_bare_display_limits :
    let negative : Binary64 := ⟨true, 0, by decide⟩
    let small : Binary64 := ⟨false, 0x3F1A36E2EB1C432C, by decide⟩
    let great : Binary64 := ⟨false, 0x4341C37937E08000, by decide⟩
    (parse (bare (.number negative)) = .ok (.number zero) ∧
      parse (Layout.display.number negative) = .ok (.number negative)) ∧
    parse "9.999999999999999e-05".toList = .error ⟨"9.999999999999999e-05".toList, .notString⟩ ∧
      bare (.number small) = "9.999999999999999e-05".toList ∧
    parse "1e16".toList = .error ⟨"1e16".toList, .notString⟩ ∧
      Layout.display.number great = "1e16".toList := by
  intro negative small great
  have none : negative.value = 0 := (value_eq_zero_iff negative).2 rfl
  have smallText : bare (.number small) = "9.999999999999999e-05".toList := by decide +kernel
  have greatText : Layout.display.number great = "1e16".toList := by decide +kernel
  have notBare : ¬BareIsNumeral small := by
    rintro ⟨-, whole | large⟩
    · obtain ⟨k, units⟩ := (exists_int_iff small).1 whole
      have rest := congrArg (· % unitsPerOne) units
      simp only [Nat.mul_mod_left] at rest
      exact absurd rest (by decide +kernel)
    · rw [abs_value] at large
      exact absurd (size_strictMono.le_iff_le.1 large) (by decide +kernel)
  have notDisplay : ¬DisplayIsNumeral great :=
    fun h => absurd ((near_iff_le h.1).2 h.2) (by decide +kernel)
  have zeroRead := (parse_bare_display negative).1 ⟨by decide, .inl ⟨0, none⟩⟩
  have smallUnread := (parse_bare_display small).2.1 notBare
  have greatUnread := (parse_bare_display great).2.2.2 notDisplay
  rw [if_pos none] at zeroRead
  rw [smallText] at smallUnread
  rw [greatText] at greatUnread
  exact ⟨⟨zeroRead, (parse_bare_display negative).2.2.1 ⟨by decide, .inl none⟩⟩, smallUnread,
    smallText, greatUnread, greatText⟩

end Literal
end LoxLexer
