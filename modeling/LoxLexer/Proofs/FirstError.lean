import LoxLexer.Proofs.Spans
import LoxLexer.Proofs.Stretch
import LoxLexer.Proofs.Tokenization

namespace LoxLexer

structure Unexpected (source : Text) (tokens : List Token) (k : Nat) (e : ScanError) : Prop where
  delivered : scanResults source = tokens.map .token ++ [.error e]
  text : ∃ c ∈ source[k]?, e.text = [c]
  position : e.position = .behind (source.take k)
  before : scan (source.take k) = .ok tokens
  extensions : ∀ t, scanResults (source.take (k + 1) ++ t) = tokens.map .token ++ [.error e]

structure Unterminated (source : Text) (tokens : List Token) (e : ScanError) : Prop where
  delivered : scanResults source = tokens.map .token ++ [.error e]
  text : ∃ payload, e.text = '"' :: payload ∧ '"' ∉ payload
  suffix : e.text <:+ source
  position : e.position = .behind source
  extensions : ∀ t, '"' ∉ t →
    scan (source ++ t) = .error ⟨.behind (source ++ t), e.text ++ t, .unterminatedString⟩
  closed : scan (source ++ ['"']) = .ok (tokens ++ [⟨.string, e.text ++ ['"'],
    Literal.parse? (e.text ++ ['"']), .behind (source ++ ['"'])⟩])

/-- How a source that does not scan splits, with the tokens before its error. -/
inductive Fault : Text → List Token → ScanError → Prop
  | stray {u cs : Text} {c : Char} {tokens : List Token} (before : Stretch (c :: cs) .start u tokens)
      (lead : Lead.of c = .stray) :
      Fault (u ++ c :: cs) tokens ⟨.behind u, [c], .unexpectedCharacter⟩
  | openString {u payload : Text} {tokens : List Token}
      (before : Stretch ('"' :: payload) .start u tokens) (unclosed : '"' ∉ payload) :
      Fault (u ++ '"' :: payload) tokens
        ⟨.behind (u ++ '"' :: payload), '"' :: payload, .unterminatedString⟩

variable {source u payload : Text} {tokens : List Token} {e : ScanError}

theorem Scan.Drained.result_eq_error_iff {d : Drained} :
    d.result = .error e ↔ ∃ tokens : List Token, d.items = tokens.map .token ++ [.error e] := by
  constructor
  · intro failed
    refine ⟨d.tokens, ?_⟩
    obtain ⟨tokens, error?, scan⟩ := d
    cases error? <;> cases failed
    rfl
  · rintro ⟨tokens, items⟩
    have known : d.items = tokens.map .token ++ ((some e).map Item.error).toList := items
    obtain ⟨-, error⟩ := map_append_error_inj known
    rw [result, error]

theorem scan_eq_error_iff :
    scan source = .error e ↔
      ∃ tokens : List Token, scanResults source = tokens.map .token ++ [.error e] :=
  Scan.Drained.result_eq_error_iff

theorem scanResults_stretch {rest : Text} (h : Stretch rest .start u tokens) :
    scanResults (u ++ rest) =
      tokens.map .token ++ (Scan.between u.length (.behind u) rest).drain.items := by
  change (Scan.between 0 .start (u ++ rest)).drain.items = _
  rw [h.drain, Position.after_start, Nat.zero_add]
  simp [Scan.Drained.items]

theorem Fault.scanResults_eq (h : Fault source tokens e) :
    scanResults source = tokens.map .token ++ [.error e] := by
  cases h with
  | stray before lead =>
    rw [scanResults_stretch before, Scan.drain_stray lead]
    rfl
  | openString before unclosed =>
    rw [scanResults_stretch before, Scan.drain_openString unclosed, Position.behind_append]
    rfl

theorem Fault.scan_eq (h : Fault source tokens e) : scan source = .error e :=
  scan_eq_error_iff.2 ⟨tokens, h.scanResults_eq⟩

theorem exists_fault (h : scan source = .error e) : ∃ tokens, Fault source tokens e := by
  obtain ⟨u, rest, tokens, rfl, before, stops⟩ := exists_stretch .start source
  refine ⟨tokens, ?_⟩
  cases stops with
  | done =>
    rw [List.append_nil, scan_eq_ok_iff_reads.2 (stretch_nil_iff.1 before)] at h
    cases h
  | stray lead =>
    have fault := Fault.stray before lead
    rw [fault.scan_eq] at h
    cases h
    exact fault
  | openString unclosed =>
    have fault := Fault.openString before unclosed
    rw [fault.scan_eq] at h
    cases h
    exact fault

theorem unexpected_stray {cs : Text} {c : Char} (before : Stretch (c :: cs) .start u tokens)
    (lead : Lead.of c = .stray) :
    Unexpected (u ++ c :: cs) tokens u.length ⟨.behind u, [c], .unexpectedCharacter⟩ where
  delivered := (Fault.stray before lead).scanResults_eq
  text := ⟨c, by simp, rfl⟩
  position := by rw [List.take_left]
  before := by rw [List.take_left, scan_eq_ok_iff_reads.2 before.truncate]
  extensions := by
    intro t
    have inert : ∀ d ∈ (c :: t).head?, Inert d := by
      rintro d ⟨⟩
      exact inert_of_stray lead
    have passed : (u ++ c :: cs).take (u.length + 1) ++ t = u ++ c :: t := by
      rw [List.take_length_add_append, List.append_assoc]
      rfl
    rw [passed, (Fault.stray (before.change inert (by simp)) lead).scanResults_eq]

theorem Unexpected.scanResults_append {k : Nat} (h : Unexpected source tokens k e) (t : Text) :
    scanResults (source ++ t) = tokens.map .token ++ [.error e] := by
  have extended := h.extensions (source.drop (k + 1) ++ t)
  rwa [← List.append_assoc, List.take_append_drop] at extended

theorem stretch_string {rest : Text} (p : Position) (unclosed : '"' ∉ payload) :
    Stretch rest p ('"' :: payload ++ ['"']) [⟨.string, '"' :: payload ++ ['"'],
      Literal.parse? ('"' :: payload ++ ['"']), p.after ('"' :: payload ++ ['"'])⟩] := by
  have string : Stretch rest p (('"' :: (payload ++ ['"'])) ++ []) _ :=
    .token (.string unclosed) trivial .done
  rwa [List.append_nil] at string

theorem unterminated_openString (before : Stretch ('"' :: payload) .start u tokens)
    (unclosed : '"' ∉ payload) :
    Unterminated (u ++ '"' :: payload) tokens
      ⟨.behind (u ++ '"' :: payload), '"' :: payload, .unterminatedString⟩ where
  delivered := (Fault.openString before unclosed).scanResults_eq
  text := ⟨payload, rfl, unclosed⟩
  suffix := List.suffix_append _ _
  position := rfl
  extensions := by
    intro t absent
    have inert : ∀ d ∈ ('"' :: (payload ++ t)).head?, Inert d := by
      rintro d ⟨⟩
      exact inert_quote
    have longer : '"' ∉ payload ++ t := by simp [unclosed, absent]
    have whole : (u ++ '"' :: payload) ++ t = u ++ '"' :: (payload ++ t) := by simp
    rw [whole, (Fault.openString (before.change inert (by simp)) longer).scan_eq]
    rfl
  closed := by
    have inert : ∀ d ∈ ('"' :: payload ++ ['"']).head?, Inert d := by
      rintro d ⟨⟩
      exact inert_quote
    have first : Stretch ('"' :: payload ++ ['"'] ++ []) .start u tokens := by
      rw [List.append_nil]
      exact before.change inert (by simp)
    have whole : (u ++ '"' :: payload) ++ ['"'] = u ++ ('"' :: payload ++ ['"']) := by simp
    have position : Position.behind (u ++ ('"' :: payload ++ ['"'])) =
        (Position.start.after u).after ('"' :: payload ++ ['"']) := by
      rw [Position.after_start, Position.behind_append]
    rw [whole, scan_eq_ok_iff_reads, position]
    exact stretch_nil_iff.1 (first.append (stretch_string _ unclosed))

/-- An error is the earliest one, and what it says depends on nothing behind it. -/
theorem scan_error_earliest (source : Text) :
    (∀ e, scan source = .error e →
      e.cause = .unexpectedCharacter ∧ (∃ tokens k, Unexpected source tokens k e) ∨
      e.cause = .unterminatedString ∧ ∃ tokens, Unterminated source tokens e) ∧
    ((∃ e, scan source = .error e ∧ e.cause = .unterminatedString) ↔
      (∃ e, scan source = .error e) ∧ ∃ tokens, scan (source ++ ['"']) = .ok tokens) := by
  have cases : ∀ e, scan source = .error e →
      e.cause = .unexpectedCharacter ∧ (∃ tokens k, Unexpected source tokens k e) ∨
      e.cause = .unterminatedString ∧ ∃ tokens, Unterminated source tokens e := by
    intro e failed
    obtain ⟨tokens, fault⟩ := exists_fault failed
    cases fault with
    | stray before lead => exact .inl ⟨rfl, tokens, _, unexpected_stray before lead⟩
    | openString before unclosed =>
      exact .inr ⟨rfl, tokens, unterminated_openString before unclosed⟩
  refine ⟨cases, ?_, ?_⟩
  · rintro ⟨e, failed, unterminated⟩
    rcases cases e failed with ⟨unexpected, -⟩ | ⟨-, tokens, h⟩
    · cases unexpected.symm.trans unterminated
    · exact ⟨⟨e, failed⟩, _, h.closed⟩
  · rintro ⟨⟨e, failed⟩, tokens, closed⟩
    rcases cases e failed with ⟨-, tokens', k, h⟩ | ⟨unterminated, -⟩
    · rw [scan_eq_error_iff.2 ⟨tokens', h.scanResults_append ['"']⟩] at closed
      cases closed
    · exact ⟨e, failed, unterminated⟩

theorem scan_error_earliest_lines :
    let stray : Text := "x =\n @ 1\"".toList
    let opened : Text := "x //\"\n\"a\nb".toList
    let unexpected : ScanError := ⟨⟨1, 1⟩, ['@'], .unexpectedCharacter⟩
    let unterminated : ScanError := ⟨⟨2, 1⟩, "\"a\nb".toList, .unterminatedString⟩
    scan stray = .error unexpected ∧ (∃ tokens k, Unexpected stray tokens k unexpected) ∧
      scan opened = .error unterminated ∧ ∃ tokens, Unterminated opened tokens unterminated := by
  intro stray opened unexpected unterminated
  have strayFails : scan stray = .error unexpected := by decide +kernel
  have openedFails : scan opened = .error unterminated := by decide +kernel
  refine ⟨strayFails, ?_, openedFails, ?_⟩
  · rcases (scan_error_earliest stray).1 _ strayFails with ⟨-, h⟩ | ⟨cause, -⟩
    · exact h
    · cases cause
  · rcases (scan_error_earliest opened).1 _ openedFails with ⟨cause, -⟩ | ⟨-, h⟩
    · cases cause
    · exact h

end LoxLexer
