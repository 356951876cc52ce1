import LoxLexer.Proofs.Reading

/-!
# The events of a scan

The events of a scan are all items that it can still deliver, errors included and passed. They
depend on what is left of the source and on the position only, since a lexeme is never begun between
two steps, or nothing is left to be read.
-/

namespace LoxLexer

def Element.items (p : Position) : List Element → List Item
  | [] => []
  | e :: es => (e.item? (e.positionBehind p)).toList ++ items (e.positionBehind p) es

def Item.upToError : List Item → List Item
  | [] => []
  | .token t :: items => .token t :: upToError items
  | .error e :: _ => [.error e]

namespace Item

theorem upToError_map (tokens : List Token) : upToError (tokens.map .token) = tokens.map .token := by
  induction tokens with
  | nil => rfl
  | cons t tokens ih => exact congrArg _ ih

theorem upToError_map_append (tokens : List Token) (e : ScanError) (items : List Item) :
    upToError (tokens.map .token ++ .error e :: items) = tokens.map .token ++ [.error e] := by
  induction tokens with
  | nil => rfl
  | cons t tokens ih => exact congrArg _ ih

theorem eq_map_of_upToError {items : List Item} {tokens : List Token}
    (h : upToError items = tokens.map .token) : items = tokens.map .token := by
  induction items generalizing tokens with
  | nil => exact h
  | cons item items ih =>
    cases item with
    | token t =>
      cases tokens with
      | nil => cases h
      | cons u tokens =>
        obtain ⟨head, tail⟩ := List.cons.inj h
        rw [head, ih tail]
        rfl
    | error e => cases tokens <;> cases h

end Item

namespace Scan

def Ready (s : Scan) : Prop := s.rest ≠ [] → s.lexeme = #[]

def events (s : Scan) : List Item := Element.items s.position (elements s.rest)

theorem ready_start (source : Text) : (start source).Ready := fun _ => rfl

theorem atEnd_iff {s : Scan} : s.cursor.atEnd = true ↔ s.rest = [] := List.isEmpty_iff

theorem Ready.exists_cons {s : Scan} (ready : s.Ready) (more : s.rest ≠ []) :
    ∃ c cs n p, s = ⟨⟨c :: cs, n⟩, p, #[]⟩ := by
  obtain ⟨⟨rest, n⟩, p, lexeme⟩ := s
  obtain ⟨c, cs, rfl⟩ := List.exists_cons_of_ne_nil more
  obtain rfl : lexeme = #[] := ready more
  exact ⟨c, cs, n, p, rfl⟩

theorem leftover_next {c : Char} {cs : Text} (h : (Element.next c cs).2 ≠ []) :
    (Element.next c cs).1.leftover = #[] := by
  cases element : (Element.next c cs).1 with
  | openString text =>
    have language : (Element.next c cs).1.language? = none := by
      rw [element]
      rfl
    rcases next_fault language with ⟨-, -, next⟩ | ⟨-, next⟩
    · rw [next] at h
      exact absurd rfl h
    · rw [next] at element
      cases element
  | _ => rfl

theorem events_step {s : Scan} (ready : s.Ready) (more : s.rest ≠ []) :
    s.events = s.step.1.toList ++ s.step.2.events ∧ s.step.2.Ready := by
  obtain ⟨c, cs, n, p, rfl⟩ := ready.exists_cons more
  rw [step_eq]
  constructor
  · unfold events
    rw [rest_mk, elements_cons]
    rfl
  · exact leftover_next

theorem ready_pull {s : Scan} (ready : s.Ready) : s.pull.2.Ready := by
  fun_induction pull s with
  | case1 => exact ready
  | case2 s more next step ih =>
    have after := (events_step ready (mt atEnd_iff.2 more)).2
    rw [step] at after
    exact ih after
  | case3 s more item next step =>
    have after := (events_step ready (mt atEnd_iff.2 more)).2
    rwa [step] at after

theorem events_pull {s : Scan} (ready : s.Ready) :
    s.events = s.pull.1.toList ++ s.pull.2.events := by
  fun_induction pull s with
  | case1 => rfl
  | case2 s more next step ih =>
    obtain ⟨events, after⟩ := events_step ready (mt atEnd_iff.2 more)
    rw [step] at events after
    rw [events, ← ih after]
    rfl
  | case3 s more item next step =>
    have events := (events_step ready (mt atEnd_iff.2 more)).1
    rwa [step] at events

theorem rest_eq_nil_of_pull {s : Scan} (h : s.pull.1 = none) : s.pull.2.rest = [] := by
  fun_induction pull s with
  | case1 s atEnd => exact atEnd_iff.1 atEnd
  | case2 s more next step ih => exact ih h
  | case3 => cases h

theorem events_of_rest_eq_nil {s : Scan} (h : s.rest = []) : s.events = [] := by
  rw [events, h, elements_nil]
  rfl

theorem pull_fst {s : Scan} (ready : s.Ready) : s.pull.1 = s.events.head? := by
  rw [events_pull ready]
  cases h : s.pull.1 with
  | none =>
    rw [events_of_rest_eq_nil (rest_eq_nil_of_pull h)]
    rfl
  | some item => rfl

theorem ready_drain {s : Scan} (ready : s.Ready) : s.drain.scan.Ready := by
  fun_induction drain s with
  | case1 s s' pull =>
    have after := ready_pull ready
    rwa [pull] at after
  | case2 s e s' pull =>
    have after := ready_pull ready
    rwa [pull] at after
  | case3 s t s' pull after ih =>
    have ready' := ready_pull ready
    rw [pull] at ready'
    exact ih ready'

theorem events_drain {s : Scan} (ready : s.Ready) :
    s.events = s.drain.items ++ s.drain.scan.events := by
  fun_induction drain s with
  | case1 s s' pull =>
    have events := events_pull ready
    rwa [pull] at events
  | case2 s e s' pull =>
    have events := events_pull ready
    rwa [pull] at events
  | case3 s t s' pull after ih =>
    have events := events_pull ready
    have ready' := ready_pull ready
    rw [pull] at events ready'
    rw [events, ih ready']
    rfl

theorem length_drain {s : Scan} {e : ScanError} (h : s.drain.error? = some e) :
    s.drain.scan.rest.length < s.rest.length := by
  fun_induction drain s with
  | case1 => cases h
  | case2 s e s' pull => exact length_pull pull
  | case3 s t s' pull after ih => exact (ih h).trans (length_pull pull)

theorem rest_eq_nil_of_drain {s : Scan} (h : s.drain.error? = none) : s.drain.scan.rest = [] := by
  fun_induction drain s with
  | case1 s s' pull =>
    have atEnd := rest_eq_nil_of_pull (s := s) (by rw [pull])
    rwa [pull] at atEnd
  | case2 => cases h
  | case3 s t s' pull after ih => exact ih h

theorem items_drain {s : Scan} (ready : s.Ready) : s.drain.items = Item.upToError s.events := by
  rw [events_drain ready]
  cases h : s.drain.error? with
  | none =>
    rw [events_of_rest_eq_nil (rest_eq_nil_of_drain h), Drained.items, h, List.append_nil]
    simp [Item.upToError_map]
  | some e =>
    rw [Drained.items, h]
    simp [Item.upToError_map_append]

end Scan

theorem scanResults_eq (source : Text) :
    scanResults source = Item.upToError (Element.items .start (elements source)) :=
  Scan.items_drain (Scan.ready_start source)

/-- The tokens of a text that begins at a position and has no errors. -/
inductive Reads : Position → Text → List Token → Prop
  | done {p : Position} : Reads p [] []
  | skip {p : Position} {w rest : Text} {tokens : List Token} (lexeme : Lexeme none w)
      (ends : Ends none w rest) (others : Reads (p.after w) rest tokens) : Reads p (w ++ rest) tokens
  | token {p : Position} {w rest : Text} {kind : Kind} {tokens : List Token}
      (lexeme : Lexeme (some kind) w) (ends : Ends (some kind) w rest)
      (others : Reads (p.after w) rest tokens) :
      Reads p (w ++ rest) (⟨kind, w, Literal.parse? w, p.after w⟩ :: tokens)

theorem reads_elements {p : Position} {source : Text} {tokens : List Token}
    (h : Element.items p (elements source) = tokens.map .token) : Reads p source tokens := by
  fun_induction elements source generalizing p tokens with
  | case1 =>
    obtain rfl : tokens = [] := List.map_eq_nil_iff.1 h.symm
    exact .done
  | case2 c cs ih =>
    rw [Element.items] at h
    rw [← Element.next_text c cs]
    cases language : (Element.next c cs).1.language? with
    | none =>
      obtain ⟨e, item⟩ := Element.item?_eq_error language ((Element.next c cs).1.positionBehind p)
      rw [item] at h
      cases tokens <;> cases h
    | some k =>
      obtain ⟨lexeme, ends⟩ := complete_next c cs k language
      rw [Element.positionBehind_eq language] at h
      cases k with
      | none =>
        rw [Element.item?_eq_none language] at h
        exact .skip lexeme ends (ih h)
      | some kind =>
        rw [Element.item?_eq_some language] at h
        cases tokens with
        | nil => cases h
        | cons t tokens =>
          obtain ⟨head, tail⟩ := List.cons.inj h
          obtain rfl := Item.token.inj head
          exact .token lexeme ends (ih tail)

theorem Reads.items {p : Position} {source : Text} {tokens : List Token}
    (h : Reads p source tokens) : Element.items p (elements source) = tokens.map .token := by
  induction h with
  | done =>
    rw [elements_nil]
    rfl
  | skip lexeme ends _ ih =>
    obtain ⟨e, elements, language, rfl⟩ := elements_of_longestMatch (lexeme.longestMatch ends)
    rw [elements, Element.items, Element.positionBehind_eq language,
      Element.item?_eq_none language, ih]
    rfl
  | token lexeme ends _ ih =>
    obtain ⟨e, elements, language, rfl⟩ := elements_of_longestMatch (lexeme.longestMatch ends)
    rw [elements, Element.items, Element.positionBehind_eq language,
      Element.item?_eq_some language, ih]
    rfl

structure Token.WellFormed (t : Token) : Prop where
  lexeme : Lexeme (some t.kind) t.lexeme
  literal : t.literal? = Literal.parse? t.lexeme

theorem Reads.wellFormed {p : Position} {source : Text} {tokens : List Token}
    (h : Reads p source tokens) : ∀ t ∈ tokens, t.WellFormed := by
  induction h with
  | done => simp
  | skip _ _ _ ih => exact ih
  | token lexeme _ _ ih => exact List.forall_mem_cons.2 ⟨⟨lexeme, rfl⟩, ih⟩

theorem Reads.skip_inv {p : Position} {w rest : Text} {tokens : List Token} (lexeme : Lexeme none w)
    (ends : Ends none w rest) (h : Reads p (w ++ rest) tokens) : Reads (p.after w) rest tokens := by
  have longest := lexeme.longestMatch ends
  generalize w ++ rest = source at h longest
  cases h with
  | done => exact absurd (List.append_eq_nil_iff.1 longest.split.symm).1 lexeme.ne_nil
  | skip lexeme' ends' others =>
    obtain ⟨-, rfl, rfl⟩ := longest.unique (lexeme'.longestMatch ends')
    exact others
  | token lexeme' ends' =>
    obtain ⟨kinds, -⟩ := longest.unique (lexeme'.longestMatch ends')
    cases kinds

theorem scan_eq_ok_iff_reads {source : Text} {tokens : List Token} :
    scan source = .ok tokens ↔ Reads .start source tokens := by
  rw [scan_eq_ok_iff, scanResults_eq]
  constructor
  · intro items
    exact reads_elements (Item.eq_map_of_upToError items)
  · intro reads
    rw [reads.items, Item.upToError_map]

end LoxLexer
