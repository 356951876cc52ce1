import LoxLexer.Proofs.Events

/-!
# Stretches

A stretch of a source is a text of whole lexemes, which is read without an error before the rest. Of
the rest it depends on the first character only, and on this only if it could go on with a lexeme.
-/

namespace LoxLexer

/-! ## Characters that go on with nothing -/

structure Inert (c : Char) : Prop where
  notAlphanumeric : isAlphanumeric c = false
  notEqual : c ≠ '='
  notSlash : c ≠ '/'
  notPoint : c ≠ '.'

theorem inert_of_isBlank {c : Char} (h : isBlank c = true) : Inert c where
  notAlphanumeric := by
    rw [isAlphanumeric, isBlank_not_isLetter h, isBlank_not_isDigit h]
    rfl
  notEqual := by
    rintro rfl
    exact absurd h (by decide)
  notSlash := by
    rintro rfl
    exact absurd h (by decide)
  notPoint := by
    rintro rfl
    exact absurd h (by decide)

theorem inert_of_stray {c : Char} (h : Lead.of c = .stray) : Inert c where
  notAlphanumeric := by
    rw [isAlphanumeric, Bool.or_eq_false_iff, Bool.eq_false_iff, Bool.eq_false_iff]
    constructor
    · intro letter
      cases h.symm.trans (Lead.of_eq_of_begins .letter letter)
    · intro digit
      cases h.symm.trans (Lead.of_eq_of_begins .digit digit)
  notEqual := by
    rintro rfl
    exact absurd h (by decide)
  notSlash := by
    rintro rfl
    exact absurd h (by decide)
  notPoint := by
    rintro rfl
    exact absurd h (by decide)

theorem inert_quote : Inert '"' := ⟨by decide, by decide, by decide, by decide⟩

theorem Inert.notDigit {c : Char} (h : Inert c) : c.isDigit = false :=
  (Bool.or_eq_false_iff.1 h.notAlphanumeric).2

/-! ## Ends before another rest -/

variable {rest rest' : Text}

theorem head?_ne_of_inert {d : Char} (inert : ∀ c ∈ rest.head?, Inert c) (h : ¬ Inert d) :
    rest.head? ≠ some d := fun head => h (inert d head)

theorem ends_inert (kind : Kind) (w : Text) (inert : ∀ c ∈ rest.head?, Inert c) :
    Ends (some kind) w rest := by
  have alphanumeric : ∀ c ∈ rest.head?, isAlphanumeric c = false := fun c hc =>
    (inert c hc).notAlphanumeric
  cases kind with
  | number =>
    refine ⟨fun c hc => (inert c hc).notDigit, ?_⟩
    rintro - d t rfl
    exact absurd rfl (inert '.' rfl).notPoint
  | identifier => exact alphanumeric
  | keyword k => exact alphanumeric
  | string => trivial
  | operator o withEqual =>
    cases withEqual with
    | false => exact head?_ne_of_inert inert fun h => h.notEqual rfl
    | true => trivial
  | punctuator p =>
    cases p <;> first | exact head?_ne_of_inert inert fun h => h.notSlash rfl | trivial

theorem Ends.change_token {kind : Kind} {w v : Text} (h : Ends (some kind) w (v ++ rest))
    (inert : ∀ c ∈ rest'.head?, Inert c) : Ends (some kind) w (v ++ rest') := by
  cases v with
  | nil => exact ends_inert kind w inert
  | cons c v =>
    cases kind with
    | number =>
      refine ⟨h.1, ?_⟩
      intro whole d t same
      cases v with
      | nil =>
        obtain ⟨rfl, rfl⟩ := List.cons.inj same
        exact (inert d rfl).notDigit
      | cons e v =>
        obtain ⟨rfl, tail⟩ := List.cons.inj same
        obtain ⟨rfl, -⟩ := List.cons.inj tail
        exact h.2 whole e (v ++ rest) rfl
    | punctuator p => cases p <;> exact h
    | operator o withEqual => cases withEqual <;> exact h
    | _ => exact h

/-- Texts that agree up to a character of the second one that goes on with nothing. -/
def AgreeAhead (t t' : Text) : Prop :=
  ∃ v rest rest', t = v ++ rest ∧ t' = v ++ rest' ∧ ∀ c ∈ rest'.head?, Inert c

theorem AgreeAhead.of_inert {t t' : Text} (inert : ∀ c ∈ t'.head?, Inert c) : AgreeAhead t t' :=
  ⟨[], t, t', rfl, rfl, inert⟩

theorem AgreeAhead.refl (t : Text) : AgreeAhead t t := ⟨t, [], [], by simp, by simp, by simp⟩

theorem AgreeAhead.append {t t' : Text} (h : AgreeAhead t t') (w : Text) :
    AgreeAhead (w ++ t) (w ++ t') := by
  obtain ⟨v, rest, rest', rfl, rfl, inert⟩ := h
  exact ⟨w ++ v, rest, rest', by simp, by simp, inert⟩

theorem Ends.agree {kind : Kind} {w t t' : Text} (h : Ends (some kind) w t)
    (ahead : AgreeAhead t t') : Ends (some kind) w t' := by
  obtain ⟨v, rest, rest', rfl, rfl, inert⟩ := ahead
  exact h.change_token inert

theorem Ends.change {k : Option Kind} {w v : Text} (h : Ends k w (v ++ rest))
    (inert : ∀ c ∈ rest'.head?, Inert c) (last : rest = [] → rest' = []) :
    Ends k w (v ++ rest') := by
  cases k with
  | some kind => exact h.change_token inert
  | none =>
    intro head
    rcases h head with closed | none
    · exact .inl closed
    · obtain ⟨rfl, none⟩ := List.append_eq_nil_iff.1 none
      exact .inr (last none)

/-! ## Stretches -/

/-- The tokens of a text that begins at a position, has no errors and stands before `rest`. -/
inductive Stretch (rest : Text) : Position → Text → List Token → Prop
  | done {p : Position} : Stretch rest p [] []
  | skip {p : Position} {w u : Text} {tokens : List Token} (lexeme : Lexeme none w)
      (ends : Ends none w (u ++ rest)) (others : Stretch rest (p.after w) u tokens) :
      Stretch rest p (w ++ u) tokens
  | token {p : Position} {w u : Text} {kind : Kind} {tokens : List Token}
      (lexeme : Lexeme (some kind) w) (ends : Ends (some kind) w (u ++ rest))
      (others : Stretch rest (p.after w) u tokens) :
      Stretch rest p (w ++ u) (⟨kind, w, Literal.parse? w, p.after w⟩ :: tokens)

variable {p : Position} {u : Text} {tokens : List Token}

theorem stretch_nil_iff : Stretch [] p u tokens ↔ Reads p u tokens := by
  constructor
  · intro h
    induction h with
    | done => exact .done
    | skip lexeme ends _ ih =>
      rw [List.append_nil] at ends
      exact .skip lexeme ends ih
    | token lexeme ends _ ih =>
      rw [List.append_nil] at ends
      exact .token lexeme ends ih
  · intro h
    induction h with
    | done => exact .done
    | skip lexeme ends _ ih => exact .skip lexeme (by rwa [List.append_nil]) ih
    | token lexeme ends _ ih => exact .token lexeme (by rwa [List.append_nil]) ih

namespace Stretch

theorem change (h : Stretch rest p u tokens) (inert : ∀ c ∈ rest'.head?, Inert c)
    (last : rest = [] → rest' = []) : Stretch rest' p u tokens := by
  induction h with
  | done => exact .done
  | skip lexeme ends _ ih => exact .skip lexeme (ends.change inert last) ih
  | token lexeme ends _ ih => exact .token lexeme (ends.change inert last) ih

theorem truncate (h : Stretch rest p u tokens) : Reads p u tokens :=
  stretch_nil_iff.1 (h.change (by simp) fun _ => rfl)

theorem append {v : Text} {tokens' : List Token} (h : Stretch (v ++ rest) p u tokens)
    (h' : Stretch rest (p.after u) v tokens') : Stretch rest p (u ++ v) (tokens ++ tokens') := by
  induction h with
  | done => exact h'
  | skip lexeme ends _ ih =>
    rw [Position.after_append] at h'
    rw [List.append_assoc]
    exact .skip lexeme (by rwa [List.append_assoc]) (ih h')
  | token lexeme ends _ ih =>
    rw [Position.after_append] at h'
    rw [List.append_assoc]
    exact .token lexeme (by rwa [List.append_assoc]) (ih h')

theorem blanks {w : Text} (h : Stretch rest (p.after w) u tokens)
    (blank : ∀ c ∈ w, isBlank c = true) : Stretch rest p (w ++ u) tokens := by
  induction w generalizing p with
  | nil => exact h
  | cons c w ih =>
    have first : isBlank c = true := blank c List.mem_cons_self
    refine .skip (w := [c]) (.blank first) ?_ (ih h fun d hd => blank d (List.mem_cons_of_mem c hd))
    rintro ⟨⟩
    exact absurd first (by decide)

end Stretch

/-! ## Line feeds -/

theorem Reads.eq_nil (h : Reads p [] tokens) : tokens = [] := by
  have items := h.items
  rw [elements_nil] at items
  exact List.map_eq_nil_iff.1 items.symm

theorem Lexeme.closed_or {w : Text} (h : Lexeme none w) :
    (w.head? = some '/' → w.getLast? = some '\n') ∨
      w.head? = some '/' ∧ w.getLast? ≠ some '\n' ∧ Lexeme none (w ++ ['\n']) := by
  cases h with
  | blank h =>
    refine .inl ?_
    rintro ⟨⟩
    exact absurd h (by decide)
  | @comment body h =>
    refine .inr ⟨rfl, ?_, .lineComment h⟩
    intro last
    have member := List.mem_of_getLast? last
    simp [h] at member
  | lineComment h =>
    refine .inl fun _ => ?_
    rw [← List.cons_append, ← List.cons_append, List.getLast?_concat]

theorem Reads.line (h : Reads p u tokens) (rest : Text) : Stretch rest p (u ++ ['\n']) tokens := by
  have inert : ∀ c ∈ ('\n' :: rest).head?, Inert c := by
    rintro c ⟨⟩
    exact inert_of_isBlank (by decide)
  induction h with
  | done => exact .skip (w := ['\n']) (.blank (by decide)) (by rintro ⟨⟩) .done
  | @skip p w v tokens lexeme ends others ih =>
    rcases lexeme.closed_or with closed | ⟨slash, unclosed, line⟩
    · rw [List.append_assoc]
      exact .skip lexeme (fun head => .inl (closed head)) ih
    · obtain rfl : v = [] := (ends slash).resolve_left unclosed
      obtain rfl := others.eq_nil
      rw [List.append_nil, ← List.append_nil (w ++ _)]
      exact .skip line (fun _ => .inl List.getLast?_concat) .done
  | @token p w v kind tokens lexeme ends others ih =>
    rw [List.append_assoc]
    refine .token lexeme ?_ ih
    rw [List.append_assoc]
    rw [← List.append_nil v] at ends
    exact ends.change_token inert

/-! ## Where stretches end -/

inductive Stops : Text → Prop
  | done : Stops []
  | stray {c : Char} {cs : Text} (h : Lead.of c = .stray) : Stops (c :: cs)
  | openString {payload : Text} (h : '"' ∉ payload) : Stops ('"' :: payload)

theorem next_openString {payload : Text} (h : '"' ∉ payload) :
    Element.next '"' payload = (.openString ('"' :: payload), []) := by
  have absent : ∀ c ∈ payload, decide (c ≠ '"') = true := by
    intro c hc
    simpa using fun same : c = '"' => h (same ▸ hc)
  change Element.string '"' payload = _
  rw [Element.string, List.dropWhile_eq_nil_iff.2 absent, List.takeWhile_eq_self_iff.2 absent]

theorem exists_stretch (p : Position) (source : Text) :
    ∃ u rest tokens, source = u ++ rest ∧ Stretch rest p u tokens ∧ Stops rest := by
  fun_induction elements source generalizing p with
  | case1 => exact ⟨[], [], [], rfl, .done, .done⟩
  | case2 c cs ih =>
    cases language : (Element.next c cs).1.language? with
    | none =>
      refine ⟨[], c :: cs, [], rfl, .done, ?_⟩
      rcases next_fault language with ⟨rfl, unclosed, -⟩ | ⟨lead, -⟩
      · exact .openString unclosed
      · exact .stray lead
    | some k =>
      obtain ⟨lexeme, ends⟩ := complete_next c cs k language
      obtain ⟨u, rest, tokens, split, stretch, stops⟩ := ih (p.after (Element.next c cs).1.text)
      rw [split] at ends
      have whole : c :: cs = ((Element.next c cs).1.text ++ u) ++ rest := by
        rw [List.append_assoc, ← split, Element.next_text]
      cases k with
      | none => exact ⟨_, rest, _, whole, .skip lexeme ends stretch, stops⟩
      | some kind => exact ⟨_, rest, _, whole, .token lexeme ends stretch, stops⟩

/-! ## Scans -/

namespace Scan

def between (n : Nat) (p : Position) (rest : Text) : Scan := ⟨⟨rest, n⟩, p, #[]⟩

variable {n : Nat} {w payload cs : Text} {c : Char}

theorem pull_eq {s : Scan} (more : s.rest ≠ []) : s.pull = match s.step with
    | (none, s') => s'.pull
    | (some item, s') => (some item, s') := by
  rw [pull, dif_neg (mt atEnd_iff.1 more)]
  split <;> rename_i h <;> rw [h]

theorem drain_eq (s : Scan) : s.drain = match s.pull with
    | (none, s') => ⟨[], none, s'⟩
    | (some (.error e), s') => ⟨[], some e, s'⟩
    | (some (.token t), s') => { s'.drain with tokens := t :: s'.drain.tokens } := by
  rw [drain]
  split <;> rename_i h <;> rw [h]

theorem step_lexeme {k : Option Kind} (lexeme : Lexeme k w) (ends : Ends k w rest) :
    (between n p (w ++ rest)).step =
      (k.map fun kind => .token ⟨kind, w, Literal.parse? w, p.after w⟩,
        between (n + w.length) (p.after w) rest) := by
  have longest := lexeme.longestMatch ends
  obtain ⟨c, t, rfl, -⟩ := lexeme.exists_cons
  have first : c :: t ++ rest = c :: (t ++ rest) := rfl
  rw [first] at longest ⊢
  obtain ⟨language, text, tail⟩ := next_of_longestMatch longest
  rw [between, step_eq, pass, Element.positionBehind_eq language, text, tail,
    Element.leftover_eq language]
  cases k with
  | none =>
    rw [Element.item?_eq_none language]
    rfl
  | some kind =>
    rw [Element.item?_eq_some language, text]
    rfl

theorem rest_between_ne_nil {k : Option Kind} (lexeme : Lexeme k w) :
    (between n p (w ++ rest)).rest ≠ [] := fun none =>
  lexeme.ne_nil (List.append_eq_nil_iff.1 none).1

theorem pull_skip (lexeme : Lexeme none w) (ends : Ends none w rest) :
    (between n p (w ++ rest)).pull = (between (n + w.length) (p.after w) rest).pull := by
  rw [pull_eq (rest_between_ne_nil lexeme), step_lexeme lexeme ends]
  rfl

theorem pull_token {kind : Kind} (lexeme : Lexeme (some kind) w) (ends : Ends (some kind) w rest) :
    (between n p (w ++ rest)).pull =
      (some (.token ⟨kind, w, Literal.parse? w, p.after w⟩),
        between (n + w.length) (p.after w) rest) := by
  rw [pull_eq (rest_between_ne_nil lexeme), step_lexeme lexeme ends]
  rfl

theorem pull_nil : (between n p []).pull = (none, between n p []) := by
  rw [pull]
  rfl

theorem step_stray (h : Lead.of c = .stray) : (between n p (c :: cs)).step =
    (some (.error ⟨p, [c], .unexpectedCharacter⟩), between (n + 1) p cs) := by
  rw [between, step_eq, Element.next, h]
  rfl

theorem step_openString (h : '"' ∉ payload) :
    (between n p ('"' :: payload)).step =
      (some (.error ⟨p.after ('"' :: payload), '"' :: payload, .unterminatedString⟩),
        ⟨⟨[], n + (payload.length + 1)⟩, p.after ('"' :: payload), ('"' :: payload).toArray⟩) := by
  rw [between, step_eq, next_openString h]
  rfl

theorem pull_stray (h : Lead.of c = .stray) : (between n p (c :: cs)).pull =
    (some (.error ⟨p, [c], .unexpectedCharacter⟩), between (n + 1) p cs) := by
  have more : (between n p (c :: cs)).rest ≠ [] := List.cons_ne_nil c cs
  rw [pull_eq more, step_stray h]

theorem pull_openString (h : '"' ∉ payload) :
    (between n p ('"' :: payload)).pull =
      (some (.error ⟨p.after ('"' :: payload), '"' :: payload, .unterminatedString⟩),
        ⟨⟨[], n + (payload.length + 1)⟩, p.after ('"' :: payload), ('"' :: payload).toArray⟩) := by
  have more : (between n p ('"' :: payload)).rest ≠ [] := List.cons_ne_nil '"' payload
  rw [pull_eq more, step_openString h]

theorem drain_skip (lexeme : Lexeme none w) (ends : Ends none w rest) :
    (between n p (w ++ rest)).drain = (between (n + w.length) (p.after w) rest).drain := by
  rw [drain_eq, pull_skip lexeme ends, ← drain_eq]

theorem drain_token {kind : Kind} (lexeme : Lexeme (some kind) w)
    (ends : Ends (some kind) w rest) :
    (between n p (w ++ rest)).drain =
      { (between (n + w.length) (p.after w) rest).drain with
        tokens := ⟨kind, w, Literal.parse? w, p.after w⟩ ::
          (between (n + w.length) (p.after w) rest).drain.tokens } := by
  rw [drain_eq, pull_token lexeme ends]

theorem drain_nil : (between n p []).drain = ⟨[], none, between n p []⟩ := by
  rw [drain_eq, pull_nil]

theorem drain_stray (h : Lead.of c = .stray) : (between n p (c :: cs)).drain =
    ⟨[], some ⟨p, [c], .unexpectedCharacter⟩, between (n + 1) p cs⟩ := by
  rw [drain_eq, pull_stray h]

theorem drain_openString (h : '"' ∉ payload) :
    (between n p ('"' :: payload)).drain =
      ⟨[], some ⟨p.after ('"' :: payload), '"' :: payload, .unterminatedString⟩,
        ⟨⟨[], n + (payload.length + 1)⟩, p.after ('"' :: payload), ('"' :: payload).toArray⟩⟩ := by
  rw [drain_eq, pull_openString h]

end Scan

theorem Stretch.drain {n : Nat} (h : Stretch rest p u tokens) :
    (Scan.between n p (u ++ rest)).drain =
      { (Scan.between (n + u.length) (p.after u) rest).drain with
        tokens := tokens ++ (Scan.between (n + u.length) (p.after u) rest).drain.tokens } := by
  induction h generalizing n with
  | done => rfl
  | @skip p w v tokens lexeme ends _ ih =>
    rw [List.append_assoc, Scan.drain_skip lexeme ends, ih, Position.after_append,
      List.length_append, Nat.add_assoc]
  | @token p w v kind tokens lexeme ends _ ih =>
    rw [List.append_assoc, Scan.drain_token lexeme ends, ih, Position.after_append,
      List.length_append, Nat.add_assoc]
    rfl

end LoxLexer
