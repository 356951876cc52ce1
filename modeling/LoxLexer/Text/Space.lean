import LoxLexer.Text.Letter

namespace LoxLexer

def spaceRanges : List (Nat × Nat) :=
  [(0x9, 0xD), (0x1C, 0x20), (0x85, 0x85), (0xA0, 0xA0), (0x1680, 0x1680), (0x2000, 0x200A),
   (0x2028, 0x2029), (0x202F, 0x202F), (0x205F, 0x205F), (0x3000, 0x3000)]

theorem ascending_spaceRanges : ascending 0 spaceRanges = true := by decide

def isSpace (c : Char) : Bool := memRanges c.toNat spaceRanges

theorem isSpace_iff {c : Char} :
    isSpace c = true ↔ ∃ r ∈ spaceRanges, r.1 ≤ c.toNat ∧ c.toNat ≤ r.2 :=
  memRanges_iff ascending_spaceRanges

theorem spaceRanges_disjoint_letterRanges :
    ∀ r ∈ spaceRanges, ∀ q ∈ letterRanges, r.2 < q.1 ∨ q.2 < r.1 := by decide +kernel

theorem isSpace_not_isLetter {c : Char} (h : isSpace c = true) : isLetter c = false := by
  have underscore : c ≠ '_' := by
    rintro rfl
    exact absurd h (by decide)
  obtain ⟨r, hr, above, below⟩ := isSpace_iff.1 h
  have table : memRanges c.toNat letterRanges = false := by
    rw [Bool.eq_false_iff, Ne, memRanges_iff ascending_letterRanges]
    rintro ⟨q, hq, above', below'⟩
    have := spaceRanges_disjoint_letterRanges r hr q hq
    omega
  simp [isLetter, underscore, table]

theorem isSpace_not_isDigit {c : Char} (h : isSpace c = true) : c.isDigit = false := by
  obtain ⟨r, hr, above, below⟩ := isSpace_iff.1 h
  have apart : ∀ r ∈ spaceRanges, r.2 < 48 ∨ 57 < r.1 := by decide
  have := apart r hr
  rw [Bool.eq_false_iff]
  intro digit
  simp only [Char.isDigit, Bool.and_eq_true, decide_eq_true_eq] at digit
  have lower : 48 ≤ c.toNat := UInt32.le_iff_toNat_le.1 digit.1
  have upper : c.toNat ≤ 57 := UInt32.le_iff_toNat_le.1 digit.2
  omega

namespace Text

def trim (t : Text) : Text := ((t.dropWhile isSpace).reverse.dropWhile isSpace).reverse

theorem trim_eq_self {t : Text} (first : ∀ c ∈ t.head?, isSpace c = false)
    (last : ∀ c ∈ t.getLast?, isSpace c = false) : t.trim = t := by
  have keep : ∀ u : Text, (∀ c ∈ u.head?, isSpace c = false) → u.dropWhile isSpace = u := by
    intro u hu
    cases u with
    | nil => rfl
    | cons c u => simp [hu c rfl]
  rw [trim, keep t first, keep t.reverse (by simpa using last), List.reverse_reverse]

end Text
end LoxLexer
