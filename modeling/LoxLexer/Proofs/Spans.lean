import LoxLexer.Proofs.Events
import Mathlib.Data.List.Chain

namespace LoxLexer

namespace Position

def behind (t : Text) : Position := ⟨t.count '\n', (t.reverse.takeWhile (· ≠ '\n')).length⟩

theorem after_start (t : Text) : start.after t = behind t := by
  induction t using List.reverseRecOn with
  | nil => rfl
  | append_singleton t c ih =>
    rw [after_append, ih]
    by_cases h : c = '\n'
    · simp [h, behind, advance, down]
    · simp [h, behind, advance, right]

theorem behind_append (t u : Text) : (behind t).after u = behind (t ++ u) := by
  rw [← after_start, ← after_append, after_start]

end Position

/-- Blanks and whole comments before `rest`. A comment takes its line feed, which only the last line
of a source can lack. -/
inductive Gap (rest : Text) : Text → Prop
  | nil : Gap rest []
  | blank {c : Char} {t : Text} (h : isBlank c = true) (others : Gap rest t) : Gap rest (c :: t)
  | lineComment {body t : Text} (h : '\n' ∉ body) (others : Gap rest t) :
      Gap rest ('/' :: '/' :: (body ++ '\n' :: t))
  | comment {body : Text} (h : '\n' ∉ body) (last : rest = []) : Gap rest ('/' :: '/' :: body)

structure Covers (source : Text) (t : Token) (span : Nat × Nat) : Prop where
  lexeme : t.lexeme = source.extract span.1 span.2
  nonempty : span.1 < span.2
  position : t.position = .behind (source.take span.2)

structure Follows (source : Text) (s t : Nat × Nat) : Prop where
  le : s.2 ≤ t.1
  gap : Gap (source.drop t.1) (source.extract s.2 t.1)

theorem Gap.cons {w t rest : Text} (h : Lexeme none w) (ends : Ends none w (t ++ rest))
    (others : Gap rest t) : Gap rest (w ++ t) := by
  cases h with
  | blank h => exact .blank h others
  | @comment body h =>
    rcases ends rfl with last | none
    · have member := List.mem_of_getLast? last
      simp [h] at member
    · obtain ⟨rfl, rfl⟩ := List.append_eq_nil_iff.1 none
      rw [List.append_nil]
      exact .comment h rfl
  | lineComment h =>
    simp only [List.cons_append, List.append_assoc]
    exact .lineComment h others

theorem covers_append {before w rest : Text} {t : Token} (h : t.lexeme = w) (h' : w ≠ [])
    (position : t.position = .behind (before ++ w)) :
    Covers (before ++ (w ++ rest)) t (before.length, (before ++ w).length) where
  lexeme := by
    rw [List.extract_eq_take_drop, List.drop_left, List.length_append, Nat.add_sub_cancel_left,
      List.take_left, h]
  nonempty := by
    have := List.length_pos_iff.2 h'
    rw [List.length_append]
    omega
  position := by rw [← List.append_assoc, List.take_left, position]

theorem follows_adjacent (source : Text) (a b c : Nat) : Follows source (a, b) (b, c) := by
  refine ⟨le_rfl, ?_⟩
  rw [List.extract_eq_take_drop, Nat.sub_self, List.take_zero]
  exact .nil

theorem Follows.extend {before w rest : Text} {a b : Nat} {span : Nat × Nat} (h : Lexeme none w)
    (ends : Ends none w rest)
    (follows : Follows (before ++ (w ++ rest)) (b, (before ++ w).length) span) :
    Follows (before ++ (w ++ rest)) (a, before.length) span := by
  obtain ⟨le, gap⟩ := follows
  obtain ⟨n, start⟩ := Nat.exists_eq_add_of_le le
  rw [← List.append_assoc] at gap ⊢
  have gap : Gap (rest.drop n) (rest.take n) := by
    rw [start, List.extract_eq_take_drop, List.drop_length_add_append, List.drop_left] at gap
    rwa [Nat.add_sub_cancel_left] at gap
  have whole : Ends none w (rest.take n ++ rest.drop n) := by rwa [List.take_append_drop]
  rw [List.length_append, Nat.add_assoc] at start
  refine ⟨start ▸ Nat.le_add_right _ _, ?_⟩
  have behind : ((before ++ w) ++ rest).drop span.1 = rest.drop n := by
    rw [start, ← Nat.add_assoc, ← List.length_append, List.drop_length_add_append]
  have between : ((before ++ w) ++ rest).extract before.length span.1 = w ++ rest.take n := by
    rw [start, List.extract_eq_take_drop, Nat.add_sub_cancel_left, List.append_assoc,
      List.drop_left, List.take_length_add_append]
  rw [behind, between]
  exact gap.cons h whole

theorem exists_spans {before rest : Text} {tokens : List Token} {p : Position} (a : Nat)
    (h : Reads p rest tokens) (hp : p = .behind before) :
    ∃ spans : List (Nat × Nat),
      List.Forall₂ (Covers (before ++ rest)) tokens spans ∧
      List.IsChain (Follows (before ++ rest)) ((a, before.length) :: (spans ++
        [((before ++ rest).length, (before ++ rest).length)])) := by
  induction h generalizing before a with
  | done =>
    refine ⟨[], .nil, ?_⟩
    rw [List.append_nil]
    exact .cons_cons (follows_adjacent _ _ _ _) (.singleton _)
  | @skip p w rest tokens lexeme ends _ ih =>
    have position : p.after w = .behind (before ++ w) := by rw [hp, Position.behind_append]
    obtain ⟨spans, covers, chain⟩ := ih 0 position
    rw [List.append_assoc] at covers chain
    exact ⟨spans, covers, chain.imp_head (Follows.extend lexeme ends)⟩
  | @token p w rest kind tokens lexeme ends _ ih =>
    have position : p.after w = .behind (before ++ w) := by rw [hp, Position.behind_append]
    obtain ⟨spans, covers, chain⟩ := ih before.length position
    rw [List.append_assoc] at covers chain
    exact ⟨_ :: spans, .cons (covers_append rfl lexeme.ne_nil position) covers,
      .cons_cons (follows_adjacent _ _ _ _) chain⟩

namespace Scan

structure Passes (s : Scan) (t : Text) (s' : Scan) : Prop where
  rest : s.rest = t ++ s'.rest
  consumed : s'.consumed = s.consumed + t.length
  position : s'.position = s.position.after t

theorem Passes.refl (s : Scan) : s.Passes [] s := ⟨rfl, rfl, rfl⟩

theorem Passes.trans {s s' s'' : Scan} {t u : Text} (h : s.Passes t s') (h' : s'.Passes u s'') :
    s.Passes (t ++ u) s'' where
  rest := by rw [h.rest, h'.rest, List.append_assoc]
  consumed := by rw [h'.consumed, h.consumed, List.length_append, Nat.add_assoc]
  position := by rw [h'.position, h.position, Position.after_append]

theorem passes_step {s : Scan} (ready : s.Ready) (more : s.rest ≠ [])
    (h : ∀ e, s.step.1 ≠ some (.error e)) : ∃ t, s.Passes t s.step.2 := by
  obtain ⟨c, cs, n, p, rfl⟩ := ready.exists_cons more
  rw [step_eq] at h ⊢
  cases language : (Element.next c cs).1.language? with
  | none =>
    obtain ⟨e, item⟩ := Element.item?_eq_error language ((Element.next c cs).1.positionBehind p)
    exact absurd item (h e)
  | some k =>
    exact ⟨(Element.next c cs).1.text, (Element.next_text c cs).symm, rfl,
      Element.positionBehind_eq language p⟩

theorem passes_pull {s : Scan} (ready : s.Ready) (h : ∀ e, s.pull.1 ≠ some (.error e)) :
    ∃ t, s.Passes t s.pull.2 := by
  fun_induction pull s with
  | case1 s atEnd => exact ⟨[], .refl s⟩
  | case2 s more next step ih =>
    have more := mt atEnd_iff.2 more
    have after := (events_step ready more).2
    obtain ⟨t, passes⟩ := passes_step ready more (by simp [step])
    rw [step] at after passes
    obtain ⟨u, others⟩ := ih after h
    exact ⟨t ++ u, passes.trans others⟩
  | case3 s more item next step =>
    obtain ⟨t, passes⟩ := passes_step ready (mt atEnd_iff.2 more) (by simpa [step] using h)
    rw [step] at passes
    exact ⟨t, passes⟩

theorem passes_drain {s : Scan} (ready : s.Ready) (h : s.drain.error? = none) :
    ∃ t, s.Passes t s.drain.scan := by
  fun_induction drain s with
  | case1 s s' pull =>
    obtain ⟨t, passes⟩ := passes_pull ready (by simp [pull])
    rw [pull] at passes
    exact ⟨t, passes⟩
  | case2 => cases h
  | case3 s t s' pull after ih =>
    have ready' := ready_pull ready
    obtain ⟨t, passes⟩ := passes_pull ready (by simp [pull])
    rw [pull] at ready' passes
    obtain ⟨u, others⟩ := ih ready' h
    exact ⟨t ++ u, passes.trans others⟩

theorem passes_source {source : Text} (h : (start source).drain.error? = none) :
    (start source).Passes source (start source).drain.scan := by
  obtain ⟨t, passes⟩ := passes_drain (ready_start source) h
  have whole : source = t ++ [] := by
    rw [← rest_eq_nil_of_drain h]
    exact passes.rest
  rw [List.append_nil] at whole
  rwa [← whole] at passes

end Scan

/-- The tokens of a source and the gaps between them make up the source, and the scan of it ends
where the source does. -/
theorem scan_spans {source : Text} {tokens : List Token} (h : scan source = .ok tokens) :
    (∃ spans : List (Nat × Nat), List.Forall₂ (Covers source) tokens spans ∧
      List.IsChain (Follows source) ((0, 0) :: (spans ++ [(source.length, source.length)]))) ∧
    (Scan.start source).drain.scan.consumed = source.length ∧
    (Scan.start source).drain.scan.position = .behind source := by
  have first : Position.start = .behind [] := rfl
  refine ⟨exists_spans 0 (scan_eq_ok_iff_reads.1 h) first, ?_⟩
  have noError : (Scan.start source).drain.error? = none := by
    cases error : (Scan.start source).drain.error? with
    | none => rfl
    | some e =>
      rw [scan, Scan.Drained.result, error] at h
      cases h
  obtain ⟨-, consumed, position⟩ := Scan.passes_source noError
  exact ⟨consumed.trans (Nat.zero_add _), position.trans (Position.after_start source)⟩

theorem scan_spans_comments :
    let source : Text := "//\n\"a\n\" ;// b".toList
    let tokens : List Token :=
      [⟨.string, "\"a\n\"".toList, some (.string ['a', '\n']), ⟨2, 1⟩⟩,
        ⟨.punctuator .semicolon, [';'], none, ⟨2, 3⟩⟩]
    scan source = .ok tokens ∧
      (∃ spans : List (Nat × Nat), List.Forall₂ (Covers source) tokens spans ∧
        List.IsChain (Follows source) ((0, 0) :: (spans ++ [(source.length, source.length)]))) ∧
      (Scan.start source).drain.scan.consumed = source.length ∧
      (Scan.start source).drain.scan.position = .behind source :=
  ⟨by decide +kernel, scan_spans (by decide +kernel)⟩

end LoxLexer
