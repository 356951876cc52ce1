import LoxLexer.Proofs.Stretch
import Mathlib.Tactic.MkIffOfInductiveProp

/-!
# Spacing

Tokens are written one after the other, each with some blanks behind it, and what is written is
scanned. The tokens come back unless two or three of them run together.
-/

namespace LoxLexer

/-! ## What is written -/

def Token.content (t : Token) : Kind × Text × Option Literal := (t.kind, t.lexeme, t.literal?)

def write (pieces : List (Token × Text)) : Text :=
  pieces.flatMap fun piece => piece.1.lexeme ++ piece.2

theorem write_cons (t : Token) (gap : Text) (pieces : List (Token × Text)) :
    write ((t, gap) :: pieces) = t.lexeme ++ (gap ++ write pieces) := by
  rw [write, List.flatMap_cons, List.append_assoc]
  rfl

/-! ## Hazards -/

def Kind.IsWord : Kind → Prop
  | .identifier | .keyword _ => True
  | _ => False

@[mk_iff]
inductive Clash (t u : Token) : Prop
  | word (h : t.kind.IsWord) (h' : u.kind.IsWord ∨ u.kind = .number)
  | number (h : t.kind = .number) (h' : u.kind = .number)
  | operator {o : Operator} (h : t.kind = .operator o false) (h' : u.lexeme.head? = some '=')
  | slash (h : t.kind = .punctuator .slash) (h' : u.kind = .punctuator .slash)

/-- A token with no blanks behind it that the tokens written next are taken into. A dot alone does
not go on with a number; a dot and a digit do. -/
inductive RunsOn : Token × Text → List (Token × Text) → Prop
  | clash {t u : Token} {gap : Text} {pieces : List (Token × Text)} (h : Clash t u) :
      RunsOn (t, []) ((u, gap) :: pieces)
  | fraction {t u v : Token} {gap : Text} {pieces : List (Token × Text)} (h : t.kind = .number)
      (whole : '.' ∉ t.lexeme) (dot : u.kind = .punctuator .dot) (h' : v.kind = .number) :
      RunsOn (t, []) ((u, []) :: (v, gap) :: pieces)

inductive Hazard : List (Token × Text) → Prop
  | here {piece : Token × Text} {pieces : List (Token × Text)} (h : RunsOn piece pieces) :
      Hazard (piece :: pieces)
  | later {piece : Token × Text} {pieces : List (Token × Text)} (h : Hazard pieces) :
      Hazard (piece :: pieces)

theorem hazard_cons_iff {piece : Token × Text} {pieces : List (Token × Text)} :
    Hazard (piece :: pieces) ↔ RunsOn piece pieces ∨ Hazard pieces := by
  constructor
  · intro h
    cases h with
    | here h => exact .inl h
    | later h => exact .inr h
  · rintro (h | h)
    · exact .here h
    · exact .later h

/-! ## First characters -/

namespace Lexeme

variable {kind : Kind} {w : Text}

theorem digit_head_iff (h : Lexeme (some kind) w) :
    (∀ c ∈ w.head?, c.isDigit = false) ↔ kind ≠ .number := by
  rw [Ne, h.number_iff]
  simp

theorem letter_head_iff (h : Lexeme (some kind) w) :
    (∀ c ∈ w.head?, isLetter c = false) ↔ ¬ kind.IsWord := by
  constructor
  · intro none word
    cases h with
    | keyword k =>
      obtain ⟨c, t, same, letter, -⟩ := exists_spelling_eq_cons k
      rw [same] at none
      exact Bool.false_ne_true ((none c rfl).symm.trans letter)
    | identifier letter => exact Bool.false_ne_true ((none _ rfl).symm.trans letter)
    | _ => exact word
  · intro other c hc
    rw [Bool.eq_false_iff]
    intro letter
    obtain ⟨t, rfl⟩ := List.head?_eq_some_iff.1 hc
    have spells := h.spells
    rw [Lead.of_eq_of_begins .letter letter] at spells
    obtain rfl : kind = .ofWord (c :: t) := Option.some.inj spells.1
    apply other
    unfold Kind.ofWord
    cases Keyword.ofSpelling? (c :: t) <;> trivial

theorem alphanumeric_head_iff (h : Lexeme (some kind) w) :
    (∀ c ∈ w.head?, isAlphanumeric c = false) ↔ ¬ (kind.IsWord ∨ kind = .number) := by
  rw [not_or, ← h.letter_head_iff, ← Ne, ← h.digit_head_iff]
  simp only [isAlphanumeric, Bool.or_eq_false_iff]
  exact ⟨fun both => ⟨fun c hc => (both c hc).1, fun c hc => (both c hc).2⟩,
    fun both c hc => ⟨both.1 c hc, both.2 c hc⟩⟩

theorem slash_head_iff (h : Lexeme (some kind) w) :
    w.head? ≠ some '/' ↔ kind ≠ .punctuator .slash := by
  constructor
  · rintro other rfl
    cases h
    exact other rfl
  · intro other head
    obtain ⟨t, rfl⟩ := List.head?_eq_some_iff.1 head
    rcases (h.spells : Lead.slash.Spells (some kind) '/' t) with ⟨same, -⟩ | ⟨none, -⟩
    · exact other (Option.some.inj same)
    · cases none

theorem eq_symbol {p : Punctuator} (h : Lexeme (some kind) w) (same : kind = .punctuator p) :
    w = [p.symbol] := by
  subst same
  cases h
  rfl

theorem eq_dot (h : Lexeme (some kind) ('.' :: w)) : kind = .punctuator .dot ∧ w = [] := by
  obtain ⟨same, rest⟩ : (Lead.punctuator .dot).Spells (some kind) '.' w := h.spells
  exact ⟨Option.some.inj same, rest⟩

end Lexeme

/-! ## Ends and hazards -/

structure Proper (piece : Token × Text) : Prop where
  lexeme : Lexeme (some piece.1.kind) piece.1.lexeme
  literal : piece.1.literal? = Literal.parse? piece.1.lexeme
  blanks : ∀ c ∈ piece.2, isBlank c = true

theorem head_write {t : Token} {gap : Text} (pieces : List (Token × Text))
    (h : Proper (t, gap)) : (write ((t, gap) :: pieces)).head? = t.lexeme.head? := by
  obtain ⟨c, rest, same⟩ := List.exists_cons_of_ne_nil h.lexeme.ne_nil
  rw [write_cons, show t.lexeme = c :: rest from same]
  rfl

def Fraction (pieces : List (Token × Text)) : Prop :=
  ∃ u v gap others, pieces = (u, []) :: (v, gap) :: others ∧ u.kind = .punctuator .dot ∧
    v.kind = .number

theorem Fraction.exists_digit {pieces : List (Token × Text)} (h : ∀ piece ∈ pieces, Proper piece)
    (fraction : Fraction pieces) :
    ∃ d rest, write pieces = '.' :: d :: rest ∧ d.isDigit = true := by
  obtain ⟨u, v, gap, others, rfl, dot, number⟩ := fraction
  have hu : Proper (u, []) := h _ List.mem_cons_self
  have hv : Proper (v, gap) := h _ (List.mem_cons_of_mem _ List.mem_cons_self)
  have point : u.lexeme = ['.'] := hu.lexeme.eq_symbol dot
  obtain ⟨⟨d, head, digit⟩, -⟩ := Lexeme.number_inv (number ▸ hv.lexeme)
  obtain ⟨rest, same⟩ := List.head?_eq_some_iff.1 head
  refine ⟨d, rest ++ (gap ++ write others), ?_, digit⟩
  rw [write_cons, write_cons, point, same]
  rfl

theorem fraction_of_write {pieces : List (Token × Text)} {d : Char} {rest : Text}
    (h : ∀ piece ∈ pieces, Proper piece) (written : write pieces = '.' :: d :: rest)
    (digit : d.isDigit = true) : Fraction pieces := by
  cases pieces with
  | nil => cases written
  | cons piece pieces =>
    obtain ⟨u, gap⟩ := piece
    have hu : Proper (u, gap) := h _ List.mem_cons_self
    have head := head_write pieces hu
    rw [written] at head
    obtain ⟨w, same⟩ := List.head?_eq_some_iff.1 head.symm
    obtain ⟨dot, rfl⟩ := Lexeme.eq_dot (same ▸ hu.lexeme)
    rw [write_cons, same] at written
    have behind : gap ++ write pieces = d :: rest := (List.cons.inj written).2
    cases gap with
    | cons c gap =>
      cases behind
      simp [isBlank_not_isDigit (hu.blanks d List.mem_cons_self)] at digit
    | nil =>
      cases pieces with
      | nil => cases behind
      | cons piece pieces =>
        obtain ⟨v, gap⟩ := piece
        have hv : Proper (v, gap) := h _ (List.mem_cons_of_mem _ List.mem_cons_self)
        have head := head_write pieces hv
        rw [← List.nil_append (write _), behind] at head
        have number := hv.lexeme.number_of_digit ⟨d, head.symm, digit⟩
        exact ⟨u, v, gap, pieces, rfl, dot, Option.some.inj number⟩

theorem fraction_iff {pieces : List (Token × Text)} (h : ∀ piece ∈ pieces, Proper piece) :
    (∀ d rest, write pieces = '.' :: d :: rest → d.isDigit = false) ↔ ¬ Fraction pieces := by
  constructor
  · intro point fraction
    obtain ⟨d, rest, written, digit⟩ := fraction.exists_digit h
    exact Bool.false_ne_true ((point d rest written).symm.trans digit)
  · intro other d rest written
    rw [Bool.eq_false_iff]
    exact fun digit => other (fraction_of_write h written digit)

theorem runsOn_iff {t u : Token} {gap : Text} {pieces : List (Token × Text)} :
    RunsOn (t, []) ((u, gap) :: pieces) ↔
      Clash t u ∨ t.kind = .number ∧ '.' ∉ t.lexeme ∧ Fraction ((u, gap) :: pieces) := by
  constructor
  · intro h
    cases h with
    | clash h => exact .inl h
    | fraction h whole dot h' => exact .inr ⟨h, whole, _, _, _, _, rfl, dot, h'⟩
  · rintro (h | ⟨h, whole, u, v, gap, others, same, dot, h'⟩)
    · exact .clash h
    · cases same
      exact .fraction h whole dot h'

theorem ends_iff {t : Token} {gap : Text} {pieces : List (Token × Text)}
    (hgap : ∀ c ∈ gap, isBlank c = true) (h : ∀ piece ∈ pieces, Proper piece) :
    Ends (some t.kind) t.lexeme (gap ++ write pieces) ↔ ¬ RunsOn (t, gap) pieces := by
  cases gap with
  | cons c gap =>
    constructor
    · intro _ runsOn
      cases runsOn
    · intro _
      refine ends_inert _ _ ?_
      rintro d ⟨⟩
      exact inert_of_isBlank (hgap c List.mem_cons_self)
  | nil =>
    cases pieces with
    | nil =>
      constructor
      · intro _ runsOn
        cases runsOn
      · intro _
        exact ends_inert _ _ (by simp [write])
    | cons piece pieces =>
      obtain ⟨u, gap⟩ := piece
      have proper : Proper (u, gap) := h _ List.mem_cons_self
      have head := head_write pieces proper
      rw [List.nil_append, runsOn_iff, clash_iff]
      cases kind : t.kind with
      | number =>
        simp only [Ends, head, fraction_iff h, proper.lexeme.digit_head_iff]
        simp [Kind.IsWord]
      | identifier =>
        simp only [Ends, head, proper.lexeme.alphanumeric_head_iff]
        simp [Kind.IsWord]
      | keyword k =>
        simp only [Ends, head, proper.lexeme.alphanumeric_head_iff]
        simp [Kind.IsWord]
      | string => simp [Ends, Kind.IsWord]
      | operator o withEqual => cases withEqual <;> simp [Ends, head, Kind.IsWord]
      | punctuator p =>
        have slash := proper.lexeme.slash_head_iff
        cases p <;> simp_all [Ends, Kind.IsWord]

def Fits : List (Token × Text) → Prop
  | [] => True
  | (t, gap) :: pieces => Ends (some t.kind) t.lexeme (gap ++ write pieces) ∧ Fits pieces

theorem fits_iff {pieces : List (Token × Text)} (h : ∀ piece ∈ pieces, Proper piece) :
    Fits pieces ↔ ¬ Hazard pieces := by
  induction pieces with
  | nil =>
    constructor
    · intro _ hazard
      cases hazard
    · intro _
      trivial
  | cons piece pieces ih =>
    obtain ⟨t, gap⟩ := piece
    have others : ∀ piece ∈ pieces, Proper piece := fun _ member =>
      h _ (List.mem_cons_of_mem _ member)
    have blanks := (h _ List.mem_cons_self).blanks
    rw [hazard_cons_iff, not_or, ← ih others, ← ends_iff blanks others]
    rfl

/-! ## Reading what is written -/

theorem reads_blanks {p : Position} {gap t : Text} {tokens : List Token}
    (h : ∀ c ∈ gap, isBlank c = true) :
    Reads p (gap ++ t) tokens ↔ Reads (p.after gap) t tokens := by
  induction gap generalizing p with
  | nil => rfl
  | cons c gap ih =>
    have blank := h c List.mem_cons_self
    have ends : Ends none [c] (gap ++ t) := by
      rintro ⟨⟩
      exact absurd blank (by decide)
    rw [Position.after_cons, ← ih fun d hd => h d (List.mem_cons_of_mem _ hd)]
    constructor
    · intro reads
      exact reads.skip_inv (.blank blank) ends
    · intro reads
      exact .skip (w := [c]) (.blank blank) ends reads

theorem exists_reads_of_fits {p : Position} {pieces : List (Token × Text)}
    (h : ∀ piece ∈ pieces, Proper piece) (fits : Fits pieces) :
    ∃ tokens, Reads p (write pieces) tokens ∧
      tokens.map Token.content = pieces.map fun piece => piece.1.content := by
  induction pieces generalizing p with
  | nil => exact ⟨[], .done, rfl⟩
  | cons piece pieces ih =>
    obtain ⟨t, gap⟩ := piece
    obtain ⟨ends, others⟩ := fits
    have proper := h _ List.mem_cons_self
    obtain ⟨tokens, reads, same⟩ :=
      ih (p := (p.after t.lexeme).after gap) (fun _ member => h _ (List.mem_cons_of_mem _ member))
        others
    rw [write_cons]
    refine ⟨_, .token proper.lexeme ends ((reads_blanks proper.blanks).2 reads), ?_⟩
    rw [List.map_cons, List.map_cons, same, Token.content, Token.content, proper.literal]

/-! ## What comes back -/

theorem Reads.sublist {p : Position} {source : Text} {tokens : List Token}
    (h : Reads p source tokens) : (tokens.flatMap Token.lexeme).Sublist source := by
  induction h with
  | done => exact List.Sublist.slnil
  | skip _ _ _ ih => exact ih.trans (List.sublist_append_right _ _)
  | token _ _ _ ih => exact (List.Sublist.refl _).append ih

theorem proper_of_scan {t : Token} {gap : Text} (h : scan t.lexeme = .ok [t])
    (blanks : ∀ c ∈ gap, isBlank c = true) : Proper (t, gap) := by
  have wellFormed := (scan_eq_ok_iff_reads.1 h).wellFormed t (List.mem_singleton_self t)
  exact ⟨wellFormed.lexeme, wellFormed.literal, blanks⟩

def ink (t : Text) : Nat := t.countP fun c => !isBlank c

theorem ink_append (t u : Text) : ink (t ++ u) = ink t + ink u := List.countP_append

theorem ink_blanks {gap : Text} (h : ∀ c ∈ gap, isBlank c = true) : ink gap = 0 := by
  rw [ink, List.countP_eq_zero]
  intro c hc
  simp [h c hc]

theorem Lexeme.ink_pos {kind : Kind} {w : Text} (h : Lexeme (some kind) w) :
    ∃ c t, w = c :: t ∧ 0 < ink [c] := by
  obtain ⟨c, t, rfl, spells⟩ := h.exists_cons
  refine ⟨c, t, rfl, ?_⟩
  have visible : isBlank c = false := by
    rw [Bool.eq_false_iff]
    intro blank
    rw [Lead.of_eq_of_begins .blank blank] at spells
    cases spells.1
  simp [ink, visible]

theorem ink_write {pieces : List (Token × Text)} (h : ∀ piece ∈ pieces, Proper piece) :
    ink (write pieces) = ink (pieces.flatMap fun piece => piece.1.lexeme) := by
  induction pieces with
  | nil => rfl
  | cons piece pieces ih =>
    obtain ⟨t, gap⟩ := piece
    have blanks := ink_blanks (h _ List.mem_cons_self).blanks
    have rest := ih fun _ member => h _ (List.mem_cons_of_mem _ member)
    rw [write_cons, List.flatMap_cons, ink_append, ink_append, ink_append, blanks, rest,
      Nat.zero_add]

theorem lexemes_eq {tokens : List Token} {pieces : List (Token × Text)}
    (same : tokens.map Token.content = pieces.map fun piece => piece.1.content) :
    tokens.flatMap Token.lexeme = pieces.flatMap fun piece => piece.1.lexeme := by
  have lexemes := congrArg (List.flatMap fun content => content.2.1) same
  rwa [List.flatMap_map, List.flatMap_map] at lexemes

theorem fits_of_reads {p : Position} {pieces : List (Token × Text)} {tokens : List Token}
    (h : ∀ piece ∈ pieces, Proper piece) (reads : Reads p (write pieces) tokens)
    (same : tokens.map Token.content = pieces.map fun piece => piece.1.content) : Fits pieces := by
  induction pieces generalizing p tokens with
  | nil => trivial
  | cons piece pieces ih =>
    obtain ⟨t, gap⟩ := piece
    have proper := h _ List.mem_cons_self
    have written := ink_write h
    rw [← lexemes_eq same] at written
    generalize source : write ((t, gap) :: pieces) = text at reads written
    rw [write_cons] at source
    cases reads with
    | done => exact absurd (List.append_eq_nil_iff.1 source).1 proper.lexeme.ne_nil
    | @skip _ w rest _ lexeme _ others =>
      -- A comment in place of the token would take characters that the lexemes need.
      have le : ink _ ≤ ink _ := others.sublist.countP_le
      obtain ⟨c, l, first, visible⟩ := proper.lexeme.ink_pos
      obtain ⟨d, u, rfl⟩ := List.exists_cons_of_ne_nil lexeme.ne_nil
      rw [show t.lexeme = c :: l from first] at source
      obtain rfl : c = d := (List.cons.inj source).1
      have parts : ink (c :: u ++ rest) = ink [c] + ink u + ink rest := by
        rw [ink_append, ← List.singleton_append, ink_append]
      omega
    | @token _ w rest kind _ lexeme ends others =>
      obtain ⟨content, tail⟩ := List.cons.inj same
      obtain ⟨sameKind, spelled⟩ := Prod.mk.inj content
      obtain rfl : w = t.lexeme := (Prod.mk.inj spelled).1
      obtain rfl : kind = t.kind := sameKind
      obtain rfl := List.append_cancel_left source
      exact ⟨ends, ih (fun _ member => h _ (List.mem_cons_of_mem _ member))
        ((reads_blanks proper.blanks).1 others) tail⟩

/-- Tokens come back exactly if there is no hazard among them. -/
theorem scan_write_iff {blanks : Text} {pieces : List (Token × Text)}
    (first : ∀ c ∈ blanks, isBlank c = true)
    (alone : ∀ piece ∈ pieces, scan piece.1.lexeme = .ok [piece.1])
    (between : ∀ piece ∈ pieces, ∀ c ∈ piece.2, isBlank c = true) :
    (∃ tokens, scan (blanks ++ write pieces) = .ok tokens ∧
      tokens.map Token.content = pieces.map fun piece => piece.1.content) ↔ ¬ Hazard pieces := by
  have h : ∀ piece ∈ pieces, Proper piece := fun piece member =>
    proper_of_scan (alone piece member) (between piece member)
  simp only [scan_eq_ok_iff_reads, reads_blanks first]
  rw [← fits_iff h]
  constructor
  · rintro ⟨tokens, reads, same⟩
    exact fits_of_reads h reads same
  · exact exists_reads_of_fits h

theorem scan_write_fraction :
    let pieces : List (Token × Text) :=
      [(⟨.identifier, ['x'], none, ⟨0, 1⟩⟩, [' ']),
        (⟨.number, ['1'], Literal.parse? ['1'], ⟨0, 1⟩⟩, []),
        (⟨.punctuator .dot, ['.'], none, ⟨0, 1⟩⟩, []),
        (⟨.number, ['2'], Literal.parse? ['2'], ⟨0, 1⟩⟩, ['\n'])]
    (∀ piece ∈ pieces, scan piece.1.lexeme = .ok [piece.1]) ∧
      (∀ piece ∈ pieces, ∀ c ∈ piece.2, isBlank c = true) ∧
      ¬ ∃ tokens, scan ('\t' :: write pieces) = .ok tokens ∧
        tokens.map Token.content = pieces.map fun piece => piece.1.content := by
  intro pieces
  have alone : ∀ piece ∈ pieces, scan piece.1.lexeme = .ok [piece.1] := by decide +kernel
  have between : ∀ piece ∈ pieces, ∀ c ∈ piece.2, isBlank c = true := by simp [pieces, isBlank]
  have first : ∀ c ∈ ['\t'], isBlank c = true := by simp [isBlank]
  refine ⟨alone, between, ?_⟩
  intro back
  exact (scan_write_iff first alone between).1 back
    (.later (.here (.fraction rfl (by decide) rfl rfl)))

end LoxLexer
