

namespace LoxLexer

def memRanges (n : Nat) : List (Nat × Nat) → Bool
  | [] => false
  | (lo, hi) :: ranges => lo ≤ n && (n ≤ hi || memRanges n ranges)

theorem memRanges_cons_of_lt {n lo hi : Nat} {ranges : List (Nat × Nat)} (h : n < lo) :
    memRanges n ((lo, hi) :: ranges) = false := by
  simp only [memRanges, Nat.not_le.2 h, decide_false, Bool.false_and]

def ascending (bound : Nat) : List (Nat × Nat) → Bool
  | [] => true
  | (lo, hi) :: ranges => bound ≤ lo && lo ≤ hi && ascending (hi + 1) ranges

theorem le_of_ascending {bound : Nat} {ranges : List (Nat × Nat)}
    (h : ascending bound ranges = true) : ∀ r ∈ ranges, bound ≤ r.1 := by
  induction ranges generalizing bound with
  | nil => simp
  | cons r ranges ih =>
    simp only [ascending, Bool.and_eq_true, decide_eq_true_eq] at h
    rintro s (_ | ⟨_, hs⟩)
    · exact h.1.1
    · have := ih h.2 s hs
      omega

theorem memRanges_iff {n bound : Nat} {ranges : List (Nat × Nat)}
    (h : ascending bound ranges = true) :
    memRanges n ranges = true ↔ ∃ r ∈ ranges, r.1 ≤ n ∧ n ≤ r.2 := by
  induction ranges generalizing bound with
  | nil => simp [memRanges]
  | cons r ranges ih =>
    simp only [ascending, Bool.and_eq_true, decide_eq_true_eq] at h
    simp only [memRanges, Bool.and_eq_true, Bool.or_eq_true, decide_eq_true_eq, ih h.2,
      List.mem_cons, exists_eq_or_imp]
    constructor
    · rintro ⟨hlo, hhi | found⟩
      · exact .inl ⟨hlo, hhi⟩
      · exact .inr found
    · rintro (⟨hlo, hhi⟩ | ⟨s, hs, hlo, hhi⟩)
      · exact ⟨hlo, .inl hhi⟩
      · have := le_of_ascending h.2 s hs
        exact ⟨by omega, .inr ⟨s, hs, hlo, hhi⟩⟩

end LoxLexer
