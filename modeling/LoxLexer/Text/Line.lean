import LoxLexer.Text.Basic

namespace LoxLexer.Text

def withLineFeeds : Text → Text
  | '\r' :: '\n' :: t => '\n' :: withLineFeeds t
  | '\r' :: t => '\n' :: withLineFeeds t
  | c :: t => c :: withLineFeeds t
  | [] => []

def lineFeeds : Bool → Text → Text × Bool
  | held, [] => ([], held)
  | held, c :: t =>
    let (fed, later) := lineFeeds (c = '\r') t
    ((if held ∧ c ≠ '\n' then ['\n'] else []) ++ (if c = '\r' then [] else [c]) ++ fed, later)

def lines : Text → List Text
  | [] => []
  | c :: t =>
    if c = '\n' then [c] :: lines t
    else match lines t with
      | [] => [[c]]
      | l :: ls => (c :: l) :: ls

theorem flatten_lines (t : Text) : (lines t).flatten = t := by
  induction t with
  | nil => rfl
  | cons c t ih =>
    rw [lines]
    split
    · rw [List.flatten_cons, ih]
      rfl
    · split <;> rename_i h <;> rw [h] at ih <;> simp [← ih]

def splitLine : Text → Text × Text
  | [] => ([], [])
  | c :: t => if c = '\n' then ([c], t) else (c :: (splitLine t).1, (splitLine t).2)

theorem splitLine_append (t : Text) : (splitLine t).1 ++ (splitLine t).2 = t := by
  induction t with
  | nil => rfl
  | cons c t ih =>
    rw [splitLine]
    split
    · rfl
    · rw [List.cons_append, ih]

theorem splitLine_ne_nil {t : Text} (h : t ≠ []) : (splitLine t).1 ≠ [] := by
  cases t with
  | nil => exact absurd rfl h
  | cons c t =>
    rw [splitLine]
    split <;> exact List.cons_ne_nil _ _

theorem length_splitLine_lt {t : Text} (h : (splitLine t).1 ≠ []) :
    (splitLine t).2.length < t.length := by
  have first := List.length_pos_iff.2 h
  have whole := congrArg List.length (splitLine_append t)
  rw [List.length_append] at whole
  omega

theorem lines_eq_cons {t : Text} (h : t ≠ []) :
    lines t = (splitLine t).1 :: lines (splitLine t).2 := by
  induction t with
  | nil => exact absurd rfl h
  | cons c t ih =>
    rw [lines, splitLine]
    split
    · rfl
    · cases t with
      | nil => rfl
      | cons d t => rw [ih (List.cons_ne_nil d t)]

theorem eq_nil_of_lines {t : Text} (h : lines t = []) : t = [] := by
  rw [← flatten_lines t, h, List.flatten_nil]

theorem split_of_lines {t l : Text} {ls : List Text} (h : lines t = l :: ls) :
    t ≠ [] ∧ (splitLine t).1 = l ∧ lines (splitLine t).2 = ls := by
  have some : t ≠ [] := by
    rintro rfl
    cases h
  rw [lines_eq_cons some] at h
  exact ⟨some, List.cons.inj h⟩

theorem length_splitLine_le (t : Text) : (splitLine t).2.length ≤ t.length := by
  have := congrArg List.length (splitLine_append t)
  rw [List.length_append] at this
  omega

theorem lines_line {t : Text} (h : '\n' ∉ t) : lines (t ++ ['\n']) = [t ++ ['\n']] := by
  induction t with
  | nil => rfl
  | cons c t ih =>
    obtain ⟨first, others⟩ := not_or.1 (mt List.mem_cons.2 h)
    rw [List.cons_append, lines, if_neg (Ne.symm first), ih others]

theorem lines_feed (u t : Text) : lines (u ++ '\n' :: t) = lines (u ++ ['\n']) ++ lines t := by
  induction u with
  | nil => rfl
  | cons c u ih =>
    simp only [List.cons_append, lines, ih]
    split
    · rfl
    · cases first : lines (u ++ ['\n']) with
      | nil => exact absurd (eq_nil_of_lines first) (by simp)
      | cons l ls => rfl

theorem lines_flatMap_feed {ts : List Text} (h : ∀ t ∈ ts, '\n' ∉ t) :
    lines (ts.flatMap (· ++ ['\n'])) = ts.map (· ++ ['\n']) := by
  induction ts with
  | nil => rfl
  | cons t ts ih =>
    obtain ⟨first, others⟩ := List.forall_mem_cons.1 h
    rw [List.flatMap_cons, List.append_assoc, List.singleton_append, lines_feed, ih others,
      lines_line first]
    rfl

theorem count_flatMap_feed {ts : List Text} (h : ∀ t ∈ ts, '\n' ∉ t) :
    (ts.flatMap (· ++ ['\n'])).count '\n' = ts.length := by
  induction ts with
  | nil => rfl
  | cons t ts ih =>
    obtain ⟨first, others⟩ := List.forall_mem_cons.1 h
    rw [List.flatMap_cons, List.count_append, List.count_append, List.count_eq_zero.2 first,
      ih others, List.count_singleton_self, List.length_cons]
    omega

end LoxLexer.Text
