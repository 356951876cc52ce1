import LoxLexer.Text.Letter
import LoxLexer.Token.Kind

namespace LoxLexer

inductive Lead
  | punctuator (p : Punctuator)
  | operator (o : Operator)
  | slash
  | quote
  | blank
  | digit
  | letter
  | stray
deriving DecidableEq, Repr

namespace Lead

def of (c : Char) : Lead :=
  match Punctuator.alone.find? fun p => p.symbol = c with
  | some p => .punctuator p
  | none =>
    match Operator.all.find? fun o => o.symbol = c with
    | some o => .operator o
    | none =>
      if c = '/' then .slash
      else if c = '"' then .quote
      else if isBlank c then .blank
      else if c.isDigit then .digit
      else if isLetter c then .letter
      else .stray

def Begins : Lead → Char → Prop
  | punctuator p, c => p ≠ .slash ∧ c = p.symbol
  | operator o, c => c = o.symbol
  | slash, c => c = '/'
  | quote, c => c = '"'
  | blank, c => isBlank c = true
  | digit, c => c.isDigit = true
  | letter, c => isLetter c = true
  | stray, _ => False

theorem of_eq_of_ne {c : Char} (hp : ∀ p : Punctuator, p ≠ .slash → p.symbol ≠ c)
    (ho : ∀ o : Operator, o.symbol ≠ c) :
    of c = if c = '/' then .slash else if c = '"' then .quote else if isBlank c then .blank
      else if c.isDigit then .digit else if isLetter c then .letter else .stray := by
  have noPunctuator : (Punctuator.alone.find? fun p => p.symbol = c) = none := by
    rw [List.find?_eq_none]
    intro p member
    simpa using hp p (by simpa using (List.mem_filter.1 member).2)
  have noOperator : (Operator.all.find? fun o => o.symbol = c) = none := by
    rw [List.find?_eq_none]
    intro o _
    simpa using ho o
  simp only [of, noPunctuator, noOperator]

theorem of_eq_of_begins (l : Lead) {c : Char} (h : l.Begins c) : of c = l := by
  -- A class that holds of `c` and not of `d` tells them apart.
  have differs : ∀ {f : Char → Bool}, f c = true → ∀ {d}, f d = false → d ≠ c := by
    rintro f hc d hd rfl
    simp [hd] at hc
  cases l with
  | punctuator p =>
    obtain ⟨hp, rfl⟩ := h
    cases p <;> first | exact absurd rfl hp | decide
  | operator o =>
    obtain rfl : c = o.symbol := h
    cases o <;> decide
  | slash =>
    obtain rfl : c = '/' := h
    decide
  | quote =>
    obtain rfl : c = '"' := h
    decide
  | blank =>
    simp only [Begins, isBlank, Bool.or_eq_true, decide_eq_true_eq] at h
    rcases h with ((rfl | rfl) | rfl) | rfl <;> decide
  | digit =>
    have h : c.isDigit = true := h
    have noBlank : isBlank c = false := by
      rw [Bool.eq_false_iff]
      intro blank
      simp [isBlank_not_isDigit blank] at h
    rw [of_eq_of_ne (fun p _ => differs h (by cases p <;> rfl))
      fun o => differs h (by cases o <;> rfl)]
    simp [(differs h rfl : '/' ≠ c).symm, (differs h rfl : '"' ≠ c).symm, noBlank, h]
  | letter =>
    have h : isLetter c = true := h
    have noBlank : isBlank c = false := by
      rw [Bool.eq_false_iff]
      intro blank
      simp [isBlank_not_isLetter blank] at h
    have noDigit : c.isDigit = false := by
      rw [Bool.eq_false_iff]
      intro digit
      simp [isDigit_not_isLetter digit] at h
    rw [of_eq_of_ne (fun p _ => differs h (by cases p <;> decide))
      fun o => differs h (by cases o <;> decide)]
    simp [(differs h (by decide) : '/' ≠ c).symm, (differs h (by decide) : '"' ≠ c).symm, noBlank,
      noDigit, h]
  | stray => exact h.elim

theorem begins_of {c : Char} (h : of c ≠ .stray) : (of c).Begins c := by
  revert h
  unfold of
  split
  · rename_i p found
    intro _
    have symbol := List.find?_some found
    have alone := (List.mem_filter.1 (List.mem_of_find?_eq_some found)).2
    exact ⟨by simpa using alone, (by simpa using symbol : p.symbol = c).symm⟩
  · split
    · rename_i o found
      intro _
      have symbol := List.find?_some found
      exact (by simpa using symbol : o.symbol = c).symm
    · repeat' split
      all_goals simp_all [Begins]

theorem of_eq_iff {l : Lead} {c : Char} (h : l ≠ .stray) : of c = l ↔ l.Begins c := by
  constructor
  · rintro rfl
    exact begins_of h
  · exact of_eq_of_begins l

end Lead
end LoxLexer
