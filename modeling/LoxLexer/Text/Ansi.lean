import LoxLexer.Text.Basic

namespace LoxLexer.Text

def isParameter (c : Char) : Bool := c = ';' || c = '?' || c.isDigit

inductive IsControl : Text → Prop
  | mk {params : Text} {c : Char} (h : ∀ d ∈ params, isParameter d = true)
      (letter : c.isAlpha = true) : IsControl ('\x1b' :: '[' :: (params ++ [c]))

theorem not_isParameter_of_isAlpha {c : Char} (h : c.isAlpha = true) : isParameter c = false := by
  have letter : 65 ≤ c.toNat := by
    rcases Bool.or_eq_true_iff.1 h with upper | lower
    · exact (of_decide_eq_true upper).1
    · exact Nat.le_trans (by decide) (of_decide_eq_true (Bool.and_eq_true_iff.1 lower).1)
  have parameter {d : Char} (low : d.toNat < 65) : c ≠ d := by
    rintro rfl
    omega
  have digit : c.isDigit = false := by
    rw [Bool.eq_false_iff]
    intro digit
    have low : c.toNat ≤ 57 := of_decide_eq_true (Bool.and_eq_true_iff.1 digit).2
    omega
  simp [isParameter, digit, parameter]

def afterAnsi? : Text → Option Text
  | '\x1b' :: '[' :: t =>
    match t.dropWhile isParameter with
    | [] => none
    | c :: rest => if c.isAlpha then some rest else none
  | _ => none

theorem afterAnsi?_eq_some_iff {t rest : Text} :
    afterAnsi? t = some rest ↔ ∃ w, IsControl w ∧ t = w ++ rest := by
  constructor
  · intro h
    unfold afterAnsi? at h
    split at h
    · rename_i t
      split at h
      · cases h
      · rename_i c after eq
        split at h
        · rename_i letter
          cases h
          have params : ∀ d ∈ t.takeWhile isParameter, isParameter d = true :=
            List.all_eq_true.1 List.all_takeWhile
          have split := List.takeWhile_append_dropWhile (p := isParameter) (l := t)
          rw [eq] at split
          exact ⟨_, .mk params letter, by simp [split]⟩
        · cases h
    · cases h
  · rintro ⟨_, @⟨params, c, h, letter⟩, rfl⟩
    have stop : ¬ isParameter c = true := by simp [not_isParameter_of_isAlpha letter]
    have behind : (params ++ c :: rest).dropWhile isParameter = c :: rest := by
      rw [List.dropWhile_append_of_pos h, List.dropWhile_cons_of_neg stop]
    simp [afterAnsi?, behind, letter]

theorem length_afterAnsi? {t rest : Text} (h : afterAnsi? t = some rest) :
    rest.length < t.length := by
  obtain ⟨w, ⟨-, -⟩, rfl⟩ := afterAnsi?_eq_some_iff.1 h
  simp only [List.cons_append, List.length_cons, List.length_append]
  omega

def stripAnsi (t : Text) : Text :=
  match t with
  | [] => []
  | c :: cs =>
    match _h : afterAnsi? (c :: cs) with
    | some rest => stripAnsi rest
    | none => c :: stripAnsi cs
termination_by t.length
decreasing_by
  · exact length_afterAnsi? _h
  · simp

section

variable {c : Char} {t w : Text}

theorem stripAnsi_nil : stripAnsi [] = [] := by rw [stripAnsi]

theorem stripAnsi_control (h : IsControl w) (t : Text) : stripAnsi (w ++ t) = stripAnsi t := by
  have after : afterAnsi? (w ++ t) = some t := afterAnsi?_eq_some_iff.2 ⟨w, h, rfl⟩
  obtain ⟨_, _⟩ := h
  rw [List.cons_append, stripAnsi]
  split <;> simp_all

theorem afterAnsi?_eq_none_iff : afterAnsi? t = none ↔ ∀ w, IsControl w → ¬ w <+: t := by
  rw [Option.eq_none_iff_forall_ne_some]
  constructor
  · rintro none w control ⟨rest, same⟩
    exact none rest (afterAnsi?_eq_some_iff.2 ⟨w, control, same.symm⟩)
  · intro none rest some
    obtain ⟨w, control, same⟩ := afterAnsi?_eq_some_iff.1 some
    exact none w control ⟨rest, same.symm⟩

theorem stripAnsi_cons (h : ∀ w, IsControl w → ¬ w <+: c :: t) :
    stripAnsi (c :: t) = c :: stripAnsi t := by
  have none : afterAnsi? (c :: t) = none := afterAnsi?_eq_none_iff.2 h
  rw [stripAnsi]
  split
  · simp_all
  · rfl

@[elab_as_elim]
theorem stripAnsi_induction {motive : Text → Prop} (nil : motive [])
    (control : ∀ w t, IsControl w → motive t → motive (w ++ t))
    (cons : ∀ c t, (∀ w, IsControl w → ¬ w <+: c :: t) → motive t → motive (c :: t)) (t : Text) :
    motive t := by
  fun_induction stripAnsi t with
  | case1 => exact nil
  | case2 c t rest after ih =>
    obtain ⟨w, isControl, same⟩ := afterAnsi?_eq_some_iff.1 after
    rw [same]
    exact control w rest isControl ih
  | case3 c t after ih => exact cons c t (afterAnsi?_eq_none_iff.1 after) ih

theorem stripAnsi_append {u : Text} (h : '\x1b' ∉ u) (v : Text) :
    stripAnsi (u ++ v) = u ++ stripAnsi v := by
  induction u with
  | nil => rfl
  | cons c u ih =>
    obtain ⟨first, others⟩ := not_or.1 (mt List.mem_cons.2 h)
    have none : ∀ w, IsControl w → ¬ w <+: c :: (u ++ v) := by
      rintro _ ⟨-, -⟩ here
      exact first (List.cons_prefix_cons.1 here).1
    rw [List.cons_append, stripAnsi_cons none, ih others, List.cons_append]

theorem stripAnsi_eq_self (h : '\x1b' ∉ t) : stripAnsi t = t := by
  have := stripAnsi_append h []
  rwa [stripAnsi_nil, List.append_nil] at this

end

end LoxLexer.Text
