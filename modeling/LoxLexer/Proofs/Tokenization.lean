import LoxLexer.Proofs.Events

namespace LoxLexer

def faultOf (c : Char) (cs : Text) : ScanError.Cause × Text :=
  if c = '"' then (.unterminatedString, c :: cs) else (.unexpectedCharacter, [c])

/-- The kinds and texts of the tokens of a source, and what is wrong where they end too early. -/
inductive Tokenizes : Text → List (Kind × Text) → Option (ScanError.Cause × Text) → Prop
  | done : Tokenizes [] [] none
  | skip {source w rest : Text} {lexemes : List (Kind × Text)}
      {fault? : Option (ScanError.Cause × Text)} (h : LongestMatch source none w rest)
      (others : Tokenizes rest lexemes fault?) : Tokenizes source lexemes fault?
  | token {source w rest : Text} {kind : Kind} {lexemes : List (Kind × Text)}
      {fault? : Option (ScanError.Cause × Text)} (h : LongestMatch source (some kind) w rest)
      (others : Tokenizes rest lexemes fault?) : Tokenizes source ((kind, w) :: lexemes) fault?
  | fault {c : Char} {cs : Text} (h : ∀ k w, Lexeme k w → ¬ w <+: c :: cs) :
      Tokenizes (c :: cs) [] (some (faultOf c cs))

namespace Tokenizes

theorem exists_tokenization (source : Text) : ∃ lexemes fault?, Tokenizes source lexemes fault? := by
  fun_induction elements source with
  | case1 => exact ⟨[], none, .done⟩
  | case2 c cs ih =>
    obtain ⟨lexemes, fault?, others⟩ := ih
    cases h : (Element.next c cs).1.language? with
    | none => exact ⟨[], _, .fault fun k w lexeme => not_lexeme_next h lexeme⟩
    | some k =>
      cases k with
      | none => exact ⟨lexemes, fault?, .skip (longestMatch_next h) others⟩
      | some kind => exact ⟨_, fault?, .token (longestMatch_next h) others⟩

theorem item?_fault {c : Char} {cs : Text} (h : ∀ k w, Lexeme k w → ¬ w <+: c :: cs) (p : Position) :
    ∃ q, (Element.next c cs).1.item? p = some (.error ⟨q, (faultOf c cs).2, (faultOf c cs).1⟩) := by
  have language : (Element.next c cs).1.language? = none := by
    cases hk : (Element.next c cs).1.language? with
    | none => rfl
    | some k =>
      have longest := longestMatch_next hk
      exact absurd ⟨_, longest.split.symm⟩ (h k _ longest.lexeme)
  rcases next_fault language with ⟨rfl, -, next⟩ | ⟨lead, next⟩
  · rw [next]
    exact ⟨p, rfl⟩
  · have noQuote : c ≠ '"' := by
      rintro rfl
      exact absurd lead (by decide)
    rw [next, faultOf, if_neg noQuote]
    exact ⟨p, rfl⟩

theorem upToError_items {source : Text} {lexemes : List (Kind × Text)}
    {fault? : Option (ScanError.Cause × Text)} (h : Tokenizes source lexemes fault?) (p : Position) :
    ∃ (tokens : List Token) (error? : Option ScanError),
      Item.upToError (Element.items p (elements source)) =
        tokens.map .token ++ (error?.map .error).toList ∧
      tokens.map (fun t => (t.kind, t.lexeme)) = lexemes ∧
      error?.map (fun e => (e.cause, e.text)) = fault? := by
  induction h generalizing p with
  | done => exact ⟨[], none, by rw [elements_nil]; rfl, rfl, rfl⟩
  | skip longest others ih =>
    obtain ⟨e, elements, language, -⟩ := elements_of_longestMatch longest
    rw [elements, Element.items, Element.item?_eq_none language]
    exact ih _
  | token longest others ih =>
    obtain ⟨e, elements, language, rfl⟩ := elements_of_longestMatch longest
    obtain ⟨tokens, error?, items, contents, faults⟩ := ih (e.positionBehind p)
    rw [elements, Element.items, Element.item?_eq_some language, Option.toList_some,
      List.singleton_append, Item.upToError, items]
    exact ⟨_ :: tokens, error?, rfl, congrArg _ contents, faults⟩
  | @fault c cs h =>
    obtain ⟨q, item⟩ := item?_fault h ((Element.next c cs).1.positionBehind p)
    rw [elements_cons, Element.items, item]
    exact ⟨[], some _, rfl, rfl, rfl⟩

end Tokenizes

theorem map_append_error_inj {tokens tokens' : List Token} {error? error'? : Option ScanError}
    (h : tokens.map Item.token ++ (error?.map .error).toList =
      tokens'.map .token ++ (error'?.map .error).toList) : tokens = tokens' ∧ error? = error'? := by
  induction tokens generalizing tokens' with
  | nil =>
    cases tokens' with
    | nil => cases error? <;> cases error'? <;> cases h <;> exact ⟨rfl, rfl⟩
    | cons t tokens' => cases error? <;> cases h
  | cons t tokens ih =>
    cases tokens' with
    | nil => cases error'? <;> cases h
    | cons t' tokens' =>
      obtain ⟨head, tail⟩ := List.cons.inj h
      obtain ⟨rfl, rfl⟩ := ih tail
      exact ⟨by rw [Item.token.inj head], rfl⟩

/-- A scan delivers the tokens and the error of the tokenization of its source. -/
theorem tokenizes_iff {source : Text} {lexemes : List (Kind × Text)}
    {fault? : Option (ScanError.Cause × Text)} :
    Tokenizes source lexemes fault? ↔
      ∃ (tokens : List Token) (error? : Option ScanError),
        scanResults source = tokens.map .token ++ (error?.map .error).toList ∧
        tokens.map (fun t => (t.kind, t.lexeme)) = lexemes ∧
        error?.map (fun e => (e.cause, e.text)) = fault? := by
  constructor
  · intro h
    rw [scanResults_eq]
    exact h.upToError_items .start
  · rintro ⟨tokens, error?, items, rfl, rfl⟩
    obtain ⟨lexemes, fault?, h⟩ := Tokenizes.exists_tokenization source
    obtain ⟨tokens', error'?, items', rfl, rfl⟩ := h.upToError_items .start
    rw [scanResults_eq, items'] at items
    obtain ⟨rfl, rfl⟩ := map_append_error_inj items
    exact h

end LoxLexer
