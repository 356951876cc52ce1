import LoxLexer.Proofs.LineEnds
import LoxLexer.Proofs.LiteralForms
import LoxLexer.Proofs.Spacing

namespace LoxLexer

variable {kind : Kind} {w t : Text} {l : Literal}

theorem reads_lexeme (h : Lexeme (some kind) w) (p : Position) :
    Reads p w [⟨kind, w, Literal.parse? w, p.after w⟩] := by
  have ends : Ends (some kind) w [] := ends_inert kind w (by simp)
  have reads := Reads.token (p := p) h ends .done
  rwa [List.append_nil] at reads

theorem exists_scan_single_iff :
    (∃ token, scan t = .ok [token] ∧ token.lexeme = t ∧ token.literal? = some l) ↔
      ∃ kind, Lexeme (some kind) t ∧ Literal.parse? t = some l := by
  constructor
  · rintro ⟨token, scans, rfl, literal⟩
    have wellFormed := (scan_eq_ok_iff_reads.1 scans).wellFormed token (List.mem_singleton_self _)
    exact ⟨token.kind, wellFormed.lexeme, wellFormed.literal.symm.trans literal⟩
  · rintro ⟨kind, lexeme, literal⟩
    exact ⟨_, scan_eq_ok_iff_reads.2 (reads_lexeme lexeme .start), rfl, literal⟩

namespace Literal

/-- A text without what makes a literal more than one lexeme. -/
structure Plain (t : Text) : Prop where
  first : ∀ c ∈ t.head?, c ∉ ['+', '-', '.']
  last : t.getLast? ≠ some '.'
  unquoted : '"' ∉ t.tail.dropLast

theorem Plain.of_keyword {k : Keyword} (h : k = .true ∨ k = .false) : Plain k.spelling := by
  rcases h with rfl | rfl
  · exact ⟨by rintro c ⟨⟩; decide, by decide, by decide⟩
  · exact ⟨by rintro c ⟨⟩; decide, by decide, by decide⟩

end Literal

namespace Lexeme

theorem number_last (h : Lexeme (some .number) t) : ∀ c ∈ t.getLast?, c.isDigit = true := by
  intro c last
  cases h with
  | whole _ digits => exact digits c (List.mem_of_getLast? last)
  | decimal _ _ nonempty digits =>
    obtain ⟨f, d, rfl⟩ := (List.eq_nil_or_concat' _).resolve_left nonempty
    rw [← List.cons_append, ← List.append_assoc, List.getLast?_concat] at last
    obtain rfl : d = c := Option.some.inj last
    exact digits d (by simp)

theorem plain_number (h : Lexeme (some .number) t) : Literal.Plain t where
  first := by
    obtain ⟨⟨d, head, digit⟩, -⟩ := h.number_inv
    intro c first symbol
    obtain rfl : d = c := Option.some.inj (head.symm.trans first)
    have none : ∀ d ∈ ['+', '-', '.'], d.isDigit = false := by simp
    exact Bool.false_ne_true ((none d symbol).symm.trans digit)
  last point := Bool.false_ne_true (h.number_last '.' point)
  unquoted inside := by
    have member : '"' ∈ t := List.mem_of_mem_tail (List.mem_of_mem_dropLast inside)
    cases h with
    | whole _ digits => exact Text.not_mem_of_digits rfl digits member
    | decimal _ digits _ digits' =>
      rcases List.mem_append.1 member with before | behind
      · exact Text.not_mem_of_digits rfl digits before
      · refine Text.not_mem_of_digits rfl digits' ((List.mem_cons.1 behind).resolve_left ?_)
        decide

theorem plain_string (h : Lexeme (some .string) t) : Literal.Plain t := by
  cases h with
  | @string payload unquoted =>
    refine ⟨?_, ?_, ?_⟩
    · rintro c ⟨⟩
      decide
    · rw [← List.cons_append, List.getLast?_concat]
      decide
    · rwa [List.tail_cons, List.dropLast_concat]

theorem plain (h : Lexeme (some kind) t) (literal : Literal.parse? t = some l) :
    Literal.Plain t := by
  by_cases string : kind = .string
  · exact plain_string (string ▸ h)
  by_cases number : kind = .number
  · exact plain_number (number ▸ h)
  by_cases isTrue : kind = .keyword .true
  · rw [← spelling_of_ofSpelling? ((h.keyword_iff .true).1 isTrue)]
    exact .of_keyword (.inl rfl)
  by_cases isFalse : kind = .keyword .false
  · rw [← spelling_of_ofSpelling? ((h.keyword_iff .false).1 isFalse)]
    exact .of_keyword (.inr rfl)
  cases literal.symm.trans (h.literal_eq_none string number isTrue isFalse)

end Lexeme

theorem Literal.Form.Spells.exists_lexeme {f : Form} (h : f.Spells t l) (plain : Plain t) :
    ∃ kind, Lexeme (some kind) t := by
  cases h with
  | isTrue => exact ⟨_, .keyword .true⟩
  | isFalse => exact ⟨_, .keyword .false⟩
  | @number n _ writes =>
    obtain ⟨negative, whole, fraction⟩ := n
    obtain ⟨sign, body, hs, hb, rfl⟩ := writes
    cases hs with
    | minus => exact absurd (by simp) (plain.first '-' rfl)
    | plus => exact absurd (by simp) (plain.first '+' rfl)
    | unsigned =>
      cases hb with
      | whole nonempty digits => exact ⟨_, .whole nonempty digits⟩
      | pointed nonempty digits digits' =>
        refine ⟨_, .decimal nonempty digits ?_ digits'⟩
        rintro rfl
        exact plain.last (by simp)
      | fraction => exact absurd (by simp) (plain.first '.' rfl)
  | string quotes opening closing =>
    obtain ⟨u, rfl⟩ := List.head?_eq_some_iff.1 opening
    obtain ⟨payload, rfl⟩ := List.getLast?_eq_some_iff.1 (Form.quoted_iff.1 ⟨quotes, closing⟩)
    have unquoted := plain.unquoted
    rw [List.tail_cons, List.dropLast_concat] at unquoted
    exact ⟨_, .string unquoted⟩

namespace Numeral

variable {whole fraction body : Text}

theorem Body.exists_reads (h : Body whole fraction body) (p : Position) :
    ∃ tokens, Reads p body tokens := by
  cases h with
  | whole nonempty digits => exact ⟨_, reads_lexeme (.whole nonempty digits) p⟩
  | pointed nonempty digits digits' =>
    rcases eq_or_ne fraction [] with rfl | some
    · have ends : Ends (some .number) whole ['.'] :=
        ⟨by rintro c ⟨⟩; decide, fun _ _ _ same => by cases same⟩
      exact ⟨_, .token (.whole nonempty digits) ends (reads_lexeme (.punctuator .dot) _)⟩
    · exact ⟨_, reads_lexeme (.decimal nonempty digits some digits') p⟩
  | fraction nonempty digits =>
    exact ⟨_, .token (.punctuator .dot) trivial (reads_lexeme (.whole nonempty digits) _)⟩

theorem Body.exists_scan_sign {sign : Punctuator} (h : Body whole fraction body)
    (isSign : sign = .minus ∨ sign = .plus) :
    ∃ tokens, scan body = .ok tokens ∧ scan (sign.symbol :: body) =
      .ok (⟨.punctuator sign, [sign.symbol], none, ⟨0, 1⟩⟩ :: tokens.map (Token.placed .right)) := by
  obtain ⟨tokens, reads⟩ := h.exists_reads .start
  have single : '\n' ∉ body := h.not_mem rfl (by decide)
  have others := ((stretch_nil_iff.2 reads).placed (f := .right) (fun _ => rfl) single).truncate
  refine ⟨tokens, scan_eq_ok_iff_reads.2 reads, scan_eq_ok_iff_reads.2 ?_⟩
  rcases isSign with rfl | rfl
  · exact .token (.punctuator .minus) trivial others
  · exact .token (.punctuator .plus) trivial others

end Numeral

theorem Literal.exists_body_of_parse {x : Binary64} (h : Literal.parse t = .ok (.number x))
    (unsigned : ∀ c ∈ t.head?, c ∉ ['+', '-']) :
    ∃ whole fraction, Numeral.Body whole fraction t := by
  obtain ⟨_, spells⟩ := parse_eq_ok_iff.1 h
  cases spells with
  | @number n _ writes =>
    obtain ⟨negative, whole, fraction⟩ := n
    obtain ⟨sign, body, hs, hb, rfl⟩ := writes
    cases hs with
    | minus => exact absurd (by simp) (unsigned '-' rfl)
    | plus => exact absurd (by simp) (unsigned '+' rfl)
    | unsigned => exact ⟨whole, fraction, hb⟩

/-- A text is one token with a literal exactly if it spells the literal and is plain. A sign before
a number is a token without literal, and moves the tokens of the number by one column. -/
theorem scan_literal (t : Text) :
    (∀ l, (∃ token, scan t = .ok [token] ∧ token.lexeme = t ∧ token.literal? = some l) ↔
      Literal.parse t = .ok l ∧ Literal.Plain t) ∧
    (∀ x, Literal.parse t = .ok (.number x) → (∀ c ∈ t.head?, c ∉ ['+', '-']) →
      ∀ sign : Punctuator, sign = .minus ∨ sign = .plus → ∃ tokens, scan t = .ok tokens ∧
        scan (sign.symbol :: t) = .ok (⟨.punctuator sign, [sign.symbol], none, ⟨0, 1⟩⟩ ::
          tokens.map (Token.placed .right))) := by
  constructor
  · intro l
    rw [exists_scan_single_iff]
    constructor
    · rintro ⟨kind, lexeme, literal⟩
      exact ⟨Literal.parse_of_parse? literal, lexeme.plain literal⟩
    · rintro ⟨parsed, plain⟩
      obtain ⟨f, spells⟩ := Literal.parse_eq_ok_iff.1 parsed
      obtain ⟨kind, lexeme⟩ := spells.exists_lexeme plain
      exact ⟨kind, lexeme, by rw [Literal.parse?, parsed]; rfl⟩
  · intro x parsed unsigned sign isSign
    obtain ⟨whole, fraction, body⟩ := Literal.exists_body_of_parse parsed unsigned
    exact body.exists_scan_sign isSign

theorem scan_literal_fraction :
    let t : Text := ".5".toList
    let half : Binary64 := ⟨false, 0x3FE0000000000000, by decide⟩
    let five : Literal := .number ⟨false, 0x4014000000000000, by decide⟩
    (Literal.parse t = .ok (.number half) ∧ ¬Literal.Plain t) ∧
      (∀ l, ¬∃ token, scan t = .ok [token] ∧ token.lexeme = t ∧ token.literal? = some l) ∧
      scan ('-' :: t) = .ok [⟨.punctuator .minus, ['-'], none, ⟨0, 1⟩⟩,
        ⟨.punctuator .dot, ['.'], none, ⟨0, 2⟩⟩, ⟨.number, ['5'], some five, ⟨0, 3⟩⟩] := by
  intro t half five
  have parsed : Literal.parse t = .ok (.number half) := by decide +kernel
  have pointed : ¬Literal.Plain t := fun plain => plain.first '.' rfl (by decide)
  have scans : scan t = .ok [⟨.punctuator .dot, ['.'], none, ⟨0, 1⟩⟩,
      ⟨.number, ['5'], some five, ⟨0, 2⟩⟩] := by decide +kernel
  obtain ⟨tokens, scans', signed⟩ :=
    (scan_literal t).2 half parsed (by rintro c ⟨⟩; decide) .minus (.inl rfl)
  cases scans.symm.trans scans'
  exact ⟨⟨parsed, pointed⟩, fun l single => pointed (((scan_literal t).1 l).1 single).2, signed⟩

end LoxLexer
