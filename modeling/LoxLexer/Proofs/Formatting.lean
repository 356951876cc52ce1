import LoxLexer.Numeric.Layout
import LoxLexer.Proofs.Numerals
import LoxLexer.Proofs.Rounding

namespace LoxLexer

/-! ## Values of digits -/

namespace Text

theorem value_append_zeros (t : Text) (j : Nat) :
    value (t ++ List.replicate j '0') = value t * 10 ^ j := by
  rw [value, Nat.ofDigitChars_append, Nat.ofDigitChars_replicate_zero, Nat.mul_comm]
  rfl

theorem value_zeros_append (j : Nat) (t : Text) : value (List.replicate j '0' ++ t) = value t := by
  rw [value, Nat.ofDigitChars_append, Nat.ofDigitChars_replicate_zero, Nat.mul_zero]
  rfl

end Text

def Decimal.ofDigits (digits : Text) (e : Int) : Decimal :=
  ⟨Text.value digits, e + 1 - digits.length⟩

theorem Decimal.rational_ofDigits_zeros (digits : Text) (j : Nat) (e : Int) :
    (ofDigits (digits ++ List.replicate j '0') e).rational = (ofDigits digits e).rational := by
  rw [ofDigits, Text.value_append_zeros, rational_shift, ofDigits, List.length_append,
    List.length_replicate]
  congr 2
  omega

theorem Decimal.ofDigits_zeros (j : Nat) (digits : Text) (e : Int) :
    ofDigits (List.replicate j '0' ++ digits) (e + j) = ofDigits digits e := by
  rw [ofDigits, Text.value_zeros_append, ofDigits, List.length_append, List.length_replicate]
  congr 1
  omega

theorem Numeral.decimal_eq (n : Numeral) :
    n.decimal = .ofDigits (n.whole ++ n.fraction) (n.whole.length - 1) := by
  rw [decimal, Decimal.ofDigits, List.length_append]
  congr 1
  omega

/-! ## The digits of a number -/

section Digits

variable {t : Text} {c : Char} {negative : Bool}

theorem Numeral.not_mem_sign (h : c ≠ '-') : c ∉ sign negative := by
  cases negative <;> simp [sign, h]

namespace Text

theorem ofNat_eq_cons {n : Nat} (h : n ≠ 0) : ∃ c t, ofNat n = c :: t ∧ c ≠ '0' := by
  induction n using Nat.strongRecOn with
  | ind n ih =>
    unfold ofNat at *
    rcases Nat.lt_or_ge n 10 with small | large
    · refine ⟨n.digitChar, [], Nat.toDigits_of_lt_base small, ?_⟩
      have digits : ∀ n < 10, n ≠ 0 → n.digitChar ≠ '0' := by decide
      exact digits n small h
    · obtain ⟨c, t, split, first⟩ := ih (n / 10) (by omega) (by omega)
      refine ⟨c, t ++ [(n % 10).digitChar], ?_, first⟩
      rw [Nat.toDigits_of_base_le (by decide) large, split, List.cons_append]

theorem ofInt_eq (e : Int) : ofInt e = Numeral.sign (e < 0) ++ ofNat e.natAbs := by
  cases e with
  | ofNat n => rfl
  | negSucc n =>
    rw [decide_eq_true (Int.negSucc_lt_zero n)]
    rfl

theorem not_mem_ofInt (digit : c.isDigit = false) (minus : c ≠ '-') (e : Int) : c ∉ ofInt e := by
  have : c ∉ ofNat e.natAbs := not_mem_of_digits digit fun _ => isDigit_of_mem_ofNat
  simp [ofInt_eq, Numeral.not_mem_sign minus, this]

end Text

namespace Layout

theorem isDigit_of_mem_zeros {j : Nat} (h : c ∈ List.replicate j '0') : c.isDigit = true := by
  rw [List.eq_of_mem_replicate h]
  rfl

theorem exists_zeros (digits : Text) :
    ∃ j, digits = significant digits ++ List.replicate j '0' := by
  refine ⟨(digits.reverse.takeWhile (· = '0')).length, ?_⟩
  have zeros : ∀ c ∈ digits.reverse.takeWhile (· = '0'), c = '0' := by
    intro c hc
    simpa using List.mem_takeWhile_imp hc
  have split : digits.reverse = List.replicate (digits.reverse.takeWhile (· = '0')).length '0' ++
      digits.reverse.dropWhile (· = '0') := by
    rw [← List.eq_replicate_of_mem zeros, List.takeWhile_append_dropWhile]
  simpa [significant] using congrArg List.reverse split

theorem isDigit_of_mem_significant {n : Nat} (h : c ∈ significant (Text.ofNat n)) :
    c.isDigit = true := by
  obtain ⟨j, split⟩ := exists_zeros (Text.ofNat n)
  have member : c ∈ significant (Text.ofNat n) ++ List.replicate j '0' := List.mem_append_left _ h
  rw [← split] at member
  exact Text.isDigit_of_mem_ofNat member

theorem significant_ofNat {n : Nat} (h : n ≠ 0) :
    ∃ c t, significant (Text.ofNat n) = c :: t ∧ c ≠ '0' := by
  obtain ⟨c, t, split, first⟩ := Text.ofNat_eq_cons h
  obtain ⟨j, zeros⟩ := exists_zeros (Text.ofNat n)
  rw [split] at zeros
  cases digits : significant (Text.ofNat n) with
  | nil =>
    rw [split] at digits
    rw [digits, List.nil_append] at zeros
    exact absurd (List.eq_of_mem_replicate (zeros ▸ List.mem_cons_self)) first
  | cons d u =>
    rw [split] at digits
    rw [digits, List.cons_append] at zeros
    exact ⟨d, u, rfl, (List.cons.inj zeros).1 ▸ first⟩

theorem rational_split (t : Text) (e : Nat) :
    let whole := t.take (e + 1) ++ List.replicate (e + 1 - (t.take (e + 1)).length) '0'
    let fraction := if t.drop (e + 1) = [] then ['0'] else t.drop (e + 1)
    (Decimal.ofDigits (whole ++ fraction) e).rational = (Decimal.ofDigits t e).rational := by
  intro whole fraction
  simp only [fraction]
  split
  · rename_i short
    have taken : t.take (e + 1) = t := List.take_of_length_le (List.drop_eq_nil_iff.1 short)
    have padded : whole ++ ['0'] = t ++ List.replicate (e + 1 - t.length + 1) '0' := by
      rw [List.replicate_succ', ← List.append_assoc]
      simp only [whole, taken]
    rw [padded, Decimal.rational_ofDigits_zeros]
  · rename_i long
    have more : e + 1 < t.length := by simpa using long
    have exact : whole ++ t.drop (e + 1) = t := by
      simp only [whole, List.length_take_of_le more.le, Nat.sub_self, List.replicate_zero,
        List.append_nil, List.take_append_drop]
    rw [exact]

end Layout

/-! ## The forms of a number -/

namespace Numeral

structure Positional (n : Numeral) (t : Text) : Prop where
  whole : n.whole ≠ []
  fraction : n.fraction ≠ []
  digits : ∀ d ∈ n.whole, d.isDigit = true
  digits' : ∀ d ∈ n.fraction, d.isDigit = true
  text : t = sign n.negative ++ (n.whole ++ '.' :: n.fraction)

structure Scientific (n : Numeral) (e : Int) (t : Text) : Prop where
  first : ∃ c, c ≠ '0' ∧ n.whole = [c]
  digits : ∀ d ∈ n.whole, d.isDigit = true
  digits' : ∀ d ∈ n.fraction, d.isDigit = true
  text : t = sign n.negative ++ (n.whole ++ if n.fraction = [] then [] else '.' :: n.fraction) ++
    'e' :: Text.ofInt e

def scaled (n : Numeral) (e : Int) : Decimal := ⟨n.decimal.coefficient, n.decimal.exponent + e⟩

theorem scaled_zero (n : Numeral) : n.scaled 0 = n.decimal := by rw [scaled, Int.add_zero]

variable {n : Numeral}

theorem Positional.writes (h : n.Positional t) : n.Writes t :=
  ⟨_, _, sign_sign _, .pointed h.whole h.digits h.digits', h.text.symm⟩

theorem Scientific.exists_writes {e : Int} (h : n.Scientific e t) :
    ∃ mantissa, t = mantissa ++ 'e' :: Text.ofInt e ∧ n.Writes mantissa := by
  obtain ⟨c, -, single⟩ := h.first
  have nonempty : n.whole ≠ [] := by simp [single]
  refine ⟨_, h.text, _, _, sign_sign _, ?_, rfl⟩
  split
  · rename_i none
    rw [List.append_nil, none]
    exact .whole nonempty h.digits
  · exact .pointed nonempty h.digits h.digits'

end Numeral

namespace Layout

theorem form_positional (negative : Bool) (digits : ∀ d ∈ t, d.isDigit = true) {e : Int}
    (h : t = [] → 0 ≤ e) :
    ∃ n : Numeral, n.negative = negative ∧
      n.Positional (Numeral.sign negative ++ positional t e) ∧
      n.decimal.rational = (Decimal.ofDigits t e).rational := by
  cases e with
  | negSucc e =>
    have nonempty : t ≠ [] := fun none => (h none).not_gt (Int.negSucc_lt_zero e)
    have first : Int.negSucc e + (e + 1 : Nat) = 0 := by omega
    refine ⟨⟨negative, ['0'], List.replicate e '0' ++ t⟩, rfl, ?_, ?_⟩
    · exact
      { whole := List.cons_ne_nil _ _
        fraction := by simp [nonempty]
        digits := fun d hd => isDigit_of_mem_zeros (j := 1) hd
        digits' := fun d hd => (List.mem_append.1 hd).elim isDigit_of_mem_zeros (digits d)
        text := rfl }
    · rw [Numeral.decimal_eq]
      change (Decimal.ofDigits ('0' :: List.replicate e '0' ++ t) 0).rational = _
      rw [← List.replicate_succ, ← first, Decimal.ofDigits_zeros]
  | ofNat e =>
    let whole := t.take (e + 1) ++ List.replicate (e + 1 - (t.take (e + 1)).length) '0'
    have length : whole.length = e + 1 := by
      have := List.length_take_le (e + 1) t
      rw [List.length_append, List.length_replicate]
      omega
    have first : (whole.length : Int) - 1 = e := by omega
    have nonempty : whole ≠ [] := List.ne_nil_of_length_pos (by omega)
    refine ⟨⟨negative, whole, if t.drop (e + 1) = [] then ['0'] else t.drop (e + 1)⟩, rfl, ?_, ?_⟩
    · exact
      { whole := nonempty
        fraction := by split <;> simp_all
        digits := fun d hd => (List.mem_append.1 hd).elim
          (fun taken => digits d (List.mem_of_mem_take taken)) isDigit_of_mem_zeros
        digits' := by
          split
          · exact fun d hd => isDigit_of_mem_zeros (j := 1) hd
          · exact fun d hd => digits d (List.mem_of_mem_drop hd)
        text := rfl }
    · rw [Numeral.decimal_eq]
      change (Decimal.ofDigits (whole ++ _) (whole.length - 1)).rational = _
      rw [first]
      exact rational_split t e

theorem display_exponent (e : Int) : display.exponent e = Text.ofInt e := by
  have enough : 1 - (Text.ofNat e.natAbs).length = 0 :=
    Nat.sub_eq_zero_of_le (List.length_pos_of_ne_nil (Text.ofNat_ne_nil _))
  rw [Text.ofInt_eq, exponent, Numeral.sign, show display.width = 1 from rfl, enough]
  simp [display]

theorem form_scientific (negative : Bool) (digits : ∀ d ∈ c :: t, d.isDigit = true) (h : c ≠ '0')
    (e : Int) :
    let n : Numeral := ⟨negative, [c], t⟩
    n.Scientific e (Numeral.sign negative ++ display.scientific (c :: t) e) ∧
      n.scaled e = .ofDigits (c :: t) e := by
  intro n
  refine ⟨⟨⟨c, h, rfl⟩, ?_, ?_, ?_⟩, ?_⟩
  · exact fun d hd => digits d (by simp_all [n])
  · exact fun d hd => digits d (List.mem_cons_of_mem _ hd)
  · simp [scientific, display_exponent, n]
  · rw [Numeral.scaled, Numeral.decimal_eq, Decimal.ofDigits, Decimal.ofDigits]
    congr 1
    simp [n]
    omega

end Layout

/-! ## The form of a decimal -/

namespace Decimal

def leading (d : Decimal) : Int := d.exponent + (Text.ofNat d.coefficient).length - 1

def Near (d : Decimal) : Prop := -4 ≤ d.leading ∧ d.leading ≤ 15

instance (d : Decimal) : Decidable d.Near := inferInstanceAs (Decidable (_ ∧ _))

theorem eq_ofDigits (d : Decimal) : d = ofDigits (Text.ofNat d.coefficient) d.leading := by
  obtain ⟨c, e⟩ := d
  rw [ofDigits, Text.value_ofNat, leading]
  congr 1
  dsimp only
  omega

theorem rational_significant (d : Decimal) :
    (ofDigits (Layout.significant (Text.ofNat d.coefficient)) d.leading).rational = d.rational := by
  obtain ⟨j, zeros⟩ := Layout.exists_zeros (Text.ofNat d.coefficient)
  rw [← rational_ofDigits_zeros _ j, ← zeros, ← d.eq_ofDigits]

end Decimal

namespace Layout

variable {d : Decimal}

theorem decimal_eq {layout : Layout} (low : layout.lowest = -4) (high : layout.highest = 15)
    (d : Decimal) :
    layout.decimal d =
      if d.Near then positional (significant (Text.ofNat d.coefficient)) d.leading
      else layout.scientific (significant (Text.ofNat d.coefficient)) d.leading := by
  unfold decimal
  simp only [low, high]
  rfl

theorem form_decimal (negative : Bool) (zero : d.coefficient = 0 → d.leading = 0) :
    ∃ (n : Numeral) (e : Int), n.negative = negative ∧ (n.scaled e).rational = d.rational ∧
      if d.Near then n.Positional (Numeral.sign negative ++ display.decimal d) ∧ e = 0
      else n.Scientific e (Numeral.sign negative ++ display.decimal d) := by
  have digits : ∀ c ∈ significant (Text.ofNat d.coefficient), c.isDigit = true :=
    fun _ => isDigit_of_mem_significant
  have nonzero (h : d.leading ≠ 0) := significant_ofNat (mt zero h)
  rw [← d.rational_significant, decimal_eq rfl rfl]
  generalize significant (Text.ofNat d.coefficient) = t at digits nonzero ⊢
  by_cases near : d.Near
  · have some : t = [] → 0 ≤ d.leading := by
      rintro rfl
      by_contra! below
      obtain ⟨c, t, none, -⟩ := nonzero below.ne
      cases none
    obtain ⟨n, sign, form, value⟩ := form_positional negative digits some
    refine ⟨n, 0, sign, n.scaled_zero ▸ value, ?_⟩
    rw [if_pos near, if_pos near]
    exact ⟨form, rfl⟩
  · obtain ⟨c, t, rfl, first⟩ := nonzero fun zero => near (by rw [Decimal.Near, zero]; decide)
    obtain ⟨form, value⟩ := form_scientific negative digits first d.leading
    refine ⟨_, d.leading, rfl, congrArg Decimal.rational value, ?_⟩
    rwa [if_neg near, if_neg near]

end Layout

/-! ## Reading a decimal -/

namespace Decimal

variable {n : Numeral} {e : Int}

def readExponent : Text → Int
  | '-' :: digits => -Text.value digits
  | digits => Text.value digits

def read? (t : Text) : Option (Bool × Decimal) :=
  (Numeral.parse? (t.takeWhile (· ≠ 'e'))).map fun n =>
    (n.negative, n.scaled (readExponent ((t.dropWhile (· ≠ 'e')).drop 1)))

theorem forall_ne (h : c ∉ t) : ∀ d ∈ t, decide (d ≠ c) = true := by
  intro d hd
  simpa using fun same : d = c => h (same ▸ hd)

theorem read?_positional (h : n.Positional t) : read? t = some (n.negative, n.decimal) := by
  have unscaled := forall_ne (h.writes.not_mem (c := 'e') rfl (by decide))
  rw [read?, List.takeWhile_eq_self_iff.2 unscaled, List.dropWhile_eq_nil_iff.2 unscaled,
    Numeral.parse?_eq_some_iff.2 h.writes]
  exact congrArg _ (congrArg _ n.scaled_zero)

theorem readExponent_ofNat (k : Nat) : readExponent (Text.ofNat k) = k := by
  have digits : ∀ d ∈ Text.ofNat k, d.isDigit = true := fun _ => Text.isDigit_of_mem_ofNat
  unfold readExponent
  split
  · rename_i minus
    exact absurd (digits '-' (minus ▸ List.mem_cons_self)) (by decide)
  · rw [Text.value_ofNat]

theorem readExponent_ofInt (e : Int) : readExponent (Text.ofInt e) = e := by
  cases e with
  | ofNat k => exact readExponent_ofNat k
  | negSucc k =>
    change -(Text.value (Text.ofNat (k + 1)) : Int) = _
    rw [Text.value_ofNat]
    rfl

theorem read?_scientific (h : n.Scientific e t) : read? t = some (n.negative, n.scaled e) := by
  obtain ⟨mantissa, rfl, writes⟩ := h.exists_writes
  have unscaled := forall_ne (writes.not_mem (c := 'e') rfl (by decide))
  rw [read?, List.takeWhile_append_of_pos unscaled, List.dropWhile_append_of_pos unscaled,
    List.takeWhile_cons_of_neg (by simp), List.dropWhile_cons_of_neg (by simp), List.append_nil,
    Numeral.parse?_eq_some_iff.2 writes, List.drop_one, List.tail_cons, readExponent_ofInt]
  rfl

end Decimal

end Digits

/-! ## Finite numbers -/

theorem Binary64.not_isNaN {x : Binary64} (h : x.magnitude ≤ infinity) : ¬x.isNaN = true := by
  simpa [isNaN] using h

theorem Layout.number_of_isFinite {layout : Layout} {x : Binary64}
    (h : x.magnitude < Binary64.infinity) :
    layout.number x =
      Numeral.sign x.negative ++ layout.decimal (Shortest.shortest x.magnitude) := by
  have isFinite : x.isFinite = true := decide_eq_true h
  rw [number, if_neg (Binary64.not_isNaN h.le), if_pos isFinite]
  rfl

theorem Shortest.leading_shortest {m : Nat} (finite : m < Binary64.infinity)
    (h : (shortest m).coefficient = 0) : (shortest m).leading = 0 := by
  have zero : m = 0 := by
    by_contra nonzero
    exact Decimal.coefficient_ne_zero (by rwa [magnitude_shortest finite]) h
  rw [zero]
  rfl

theorem Layout.form_number {x : Binary64} (h : x.magnitude < Binary64.infinity) :
    let d := Shortest.shortest x.magnitude
    ∃ (n : Numeral) (e : Int), n.negative = x.negative ∧ (n.scaled e).rational = d.rational ∧
      if d.Near then n.Positional (display.number x) ∧ e = 0
      else n.Scientific e (display.number x) := by
  rw [number_of_isFinite h]
  exact form_decimal x.negative (Shortest.leading_shortest h)

theorem Decimal.read?_finite {x : Binary64} (h : x.magnitude < Binary64.infinity) :
    ∃ d, read? (Layout.display.number x) = some (x.negative, d) ∧
      d.rational = (Shortest.shortest x.magnitude).rational := by
  obtain ⟨n, e, sign, value, form⟩ := Layout.form_number h
  refine ⟨n.scaled e, ?_, value⟩
  rw [← sign]
  split at form
  · obtain ⟨positional, rfl⟩ := form
    rw [read?_positional positional, n.scaled_zero]
  · exact read?_scientific form

/-! ## All numbers -/

theorem Layout.number_of_isNaN {layout : Layout} {x : Binary64} (h : x.isNaN = true) :
    layout.number x = "nan".toList := if_pos h

theorem Layout.number_of_isInfinite {layout : Layout} {x : Binary64}
    (h : x.magnitude = Binary64.infinity) :
    layout.number x = Numeral.sign x.negative ++ "inf".toList := by
  have infinite : ¬x.isFinite = true := by simp [Binary64.isFinite, h]
  rw [number, if_neg (Binary64.not_isNaN h.le), if_neg infinite]
  rfl

theorem Binary64.cases_magnitude (x : Binary64) :
    x.magnitude < infinity ∨ x.magnitude = infinity ∨ x.isNaN = true := by
  rcases Nat.lt_trichotomy x.magnitude infinity with finite | infinite | above
  · exact .inl finite
  · exact .inr (.inl infinite)
  · exact .inr (.inr (decide_eq_true above))

namespace Binary64

def infinite (negative : Bool) : Binary64 := ⟨negative, infinity, by decide⟩

def read? (t : Text) : Option Binary64 :=
  (Decimal.read? t).map (fun d => ofDecimal d.1 d.2) <|>
    if t = "inf".toList then some (infinite false)
    else if t = "-inf".toList then some (infinite true)
    else none

theorem ofDecimal_eq {x : Binary64} {d : Decimal} (same : d.magnitude = x.magnitude) :
    ofDecimal x.negative d = x := by
  -- Folded, its magnitude would be computed to compare the terms.
  unfold ofDecimal
  exact ext rfl same

theorem read?_infinite (negative : Bool) :
    read? (Numeral.sign negative ++ "inf".toList) = some (infinite negative) := by
  cases negative <;> decide

theorem read?_number (x : Binary64) :
    read? (Layout.display.number x) = if x.isNaN then none else some x := by
  rcases x.cases_magnitude with finite | infinity | none
  · obtain ⟨d, read, same⟩ := Decimal.read?_finite finite
    have rounded : d.magnitude = x.magnitude :=
      (Decimal.magnitude_congr same).trans (Shortest.magnitude_shortest finite)
    rw [read?, read, Option.map_some, ofDecimal_eq rounded, if_neg (not_isNaN finite.le)]
    rfl
  · have same : x = infinite x.negative := ext rfl infinity
    rw [Layout.number_of_isInfinite infinity, if_neg (not_isNaN infinity.le), read?_infinite,
      ← same]
  · rw [Layout.number_of_isNaN none, if_pos none]
    decide

theorem display_number_inj {x y : Binary64}
    (h : Layout.display.number x = Layout.display.number y) :
    x = y ∨ x.isNaN = true ∧ y.isNaN = true := by
  have reads := congrArg read? h
  rw [read?_number, read?_number] at reads
  split at reads <;> split at reads <;> simp_all

end Binary64

/-! ## Characters -/

namespace Layout

theorem not_mem_number {c : Char} (digit : c.isDigit = false) (symbol : c ∉ "-+.einfa".toList)
    (x : Binary64) : c ∉ display.number x := by
  rcases x.cases_magnitude with finite | infinite | none
  · obtain ⟨n, e, -, -, form⟩ := form_number finite
    split at form
    · exact form.1.writes.not_mem digit (by simp_all)
    · obtain ⟨mantissa, split, writes⟩ := form.exists_writes
      have := writes.not_mem digit (by simp_all)
      have := Text.not_mem_ofInt digit (by simp_all) e
      simp_all
  · rw [number_of_isInfinite infinite]
    simp_all [Numeral.not_mem_sign]
  · rw [number_of_isNaN none]
    simp_all

end Layout
end LoxLexer
