import LoxLexer.Proofs.FirstError

namespace LoxLexer

def blankOut (t : Text) : Text := t.map fun c => if c = '\n' then c else ' '

namespace Scan

def passed (s : Scan) : Text := s.rest.take (s.step.2.consumed - s.consumed)

/-- What is left of a source, with the comments blanked out that are skipped before an error. A step
that passes a slash and delivers nothing skips a comment. -/
def uncommented (s : Scan) : Text :=
  if _atEnd : s.cursor.atEnd then []
  else
    match s.step.1 with
    | some (.error _) => s.rest
    | some (.token _) => s.passed ++ s.step.2.uncommented
    | none =>
      (if s.rest.head? = some '/' then blankOut s.passed else s.passed) ++ s.step.2.uncommented
termination_by s.rest.length
decreasing_by all_goals exact length_step (by simpa using _atEnd)

end Scan

theorem after_blankOut (p : Position) (t : Text) : p.after (blankOut t) = p.after t := by
  induction t generalizing p with
  | nil => rfl
  | cons c t ih =>
    have same : p.advance (if c = '\n' then c else ' ') = p.advance c := by
      by_cases h : c = '\n' <;> simp [h, Position.advance]
    rw [blankOut, List.map_cons, Position.after_cons, same]
    exact ih _

theorem isBlank_of_mem_blankOut {c : Char} {t : Text} (h : c ∈ blankOut t) : isBlank c = true := by
  obtain ⟨d, -, rfl⟩ := List.mem_map.1 h
  split
  · rename_i feed
    rw [feed]
    decide
  · decide

variable {rest u w : Text} {p : Position} {tokens : List Token} {n : Nat}

namespace Scan

theorem uncommented_lexeme {k : Option Kind} (lexeme : Lexeme k w) (ends : Ends k w rest) :
    (between n p (w ++ rest)).uncommented =
      (if k = none ∧ w.head? = some '/' then blankOut w else w) ++
        (between (n + w.length) (p.after w) rest).uncommented := by
  have more : ¬ (between n p (w ++ rest)).cursor.atEnd = true :=
    mt atEnd_iff.1 (rest_between_ne_nil lexeme)
  have passes : (between n p (w ++ rest)).passed = w := by
    rw [passed, step_lexeme lexeme ends]
    simp [between]
  have head : (between n p (w ++ rest)).rest.head? = w.head? := by
    obtain ⟨c, t, rfl, -⟩ := lexeme.exists_cons
    rfl
  rw [uncommented, dif_neg more, passes, head, step_lexeme lexeme ends]
  cases k <;> simp

theorem uncommented_error {s : Scan} {e : ScanError} (h : s.step.1 = some (.error e)) :
    s.uncommented = s.rest := by
  rw [uncommented]
  split
  · rename_i atEnd
    rw [atEnd_iff.1 atEnd]
  · rw [h]

theorem uncommented_stops (stops : Stops rest) : (between n p rest).uncommented = rest := by
  cases stops with
  | done =>
    rw [uncommented]
    rfl
  | stray lead => exact uncommented_error (by rw [step_stray lead])
  | openString unclosed => exact uncommented_error (by rw [step_openString unclosed])

end Scan

theorem Stretch.exists_uncommented (h : Stretch rest p u tokens) (n : Nat) :
    ∃ v, (Scan.between n p (u ++ rest)).uncommented =
        v ++ (Scan.between (n + u.length) (p.after u) rest).uncommented ∧
      Stretch rest p v tokens ∧ v.length = u.length ∧ p.after v = p.after u ∧
      AgreeAhead (u ++ rest) (v ++ rest) := by
  induction h generalizing n with
  | @done p => exact ⟨[], rfl, .done, rfl, rfl, .refl _⟩
  | @skip p w u tokens lexeme ends _ ih =>
    obtain ⟨v, same, stretch, length, position, ahead⟩ := ih (n + w.length)
    rw [List.append_assoc, Scan.uncommented_lexeme lexeme ends, same, List.length_append,
      Position.after_append, Nat.add_assoc]
    by_cases slash : w.head? = some '/'
    · have blank : ∀ c ∈ blankOut w, isBlank c = true := fun c => isBlank_of_mem_blankOut
      refine ⟨blankOut w ++ v, by simp [slash], ?_, by simp [blankOut, length], ?_, ?_⟩
      · rw [← after_blankOut] at stretch
        exact stretch.blanks blank
      · rw [Position.after_append, after_blankOut, position]
      · apply AgreeAhead.of_inert
        obtain ⟨t, rfl⟩ := List.head?_eq_some_iff.1 slash
        rintro c ⟨⟩
        exact inert_of_isBlank (by decide)
    · refine ⟨w ++ v, by simp [slash], ?_, by simp [length], ?_, ?_⟩
      · exact .skip lexeme (fun head => absurd head slash) stretch
      · rw [Position.after_append, position]
      · rw [List.append_assoc]
        exact ahead.append w
  | @token p w u kind tokens lexeme ends _ ih =>
    obtain ⟨v, same, stretch, length, position, ahead⟩ := ih (n + w.length)
    rw [List.append_assoc, Scan.uncommented_lexeme lexeme ends, same, List.length_append,
      Position.after_append, Nat.add_assoc]
    refine ⟨w ++ v, by simp, .token lexeme (ends.agree ahead) stretch, by simp [length], ?_, ?_⟩
    · rw [Position.after_append, position]
    · rw [List.append_assoc]
      exact ahead.append w

/-- A source delivers the same items with its comments blanked out. -/
theorem scanResults_uncommented (source : Text) :
    scanResults (Scan.start source).uncommented = scanResults source := by
  obtain ⟨u, rest, tokens, rfl, before, stops⟩ := exists_stretch .start source
  obtain ⟨v, same, stretch, length, position, -⟩ := before.exists_uncommented 0
  rw [Scan.uncommented_stops stops] at same
  rw [Position.after_start, Position.after_start] at position
  change scanResults (Scan.between 0 .start (u ++ rest)).uncommented = _
  rw [same, scanResults_stretch stretch, scanResults_stretch before, length, position]

end LoxLexer
