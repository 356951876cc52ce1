import LoxLexer.Proofs.Numerals
import LoxLexer.Proofs.Sharing

namespace LoxLexer

namespace Literal

variable {c : Char} {t w : Text}

theorem parse?_eq (t : Text) : parse? t =
    match parseBoolean t, parseNumber t with
    | .ok l, _ => some l
    | .error _, .ok l => some l
    | .error _, .error _ => (parseString t).toOption := by
  unfold parse? parse
  cases parseBoolean t <;> cases parseNumber t <;> rfl

theorem parseBoolean_eq_error (h : w ≠ Keyword.true.spelling) (h' : w ≠ Keyword.false.spelling) :
    parseBoolean w = .error ⟨w, .notBoolean⟩ := by
  rw [parseBoolean, if_neg, if_neg]
  · exact h'
  · exact h

theorem ne_spelling {k : Keyword} (h : isLetter c = false) : c :: t ≠ k.spelling := by
  intro same
  obtain ⟨d, u, spelling, letter, -⟩ := exists_spelling_eq_cons k
  obtain ⟨rfl, -⟩ := List.cons.inj (same.trans spelling)
  exact Bool.false_ne_true (h.symm.trans letter)

theorem parseNumber_eq_error (digit : c.isDigit = false) (minus : c ≠ '-') (plus : c ≠ '+')
    (point : c ≠ '.') : parseNumber (c :: t) = .error ⟨c :: t, .notNumber⟩ := by
  rw [parseNumber, Numeral.parse?_eq_none digit minus plus point]

theorem parseString_eq_error (h : c ≠ '"') :
    parseString (c :: t) = .error ⟨c :: t, .notString⟩ := by
  unfold parseString
  split
  · rename_i same
    exact absurd (List.cons.inj same).1 h
  · rfl

theorem parse?_string (payload : Text) :
    parse? ('"' :: (payload ++ ['"'])) = some (.string payload) := by
  rw [parse?_eq, parseBoolean_eq_error (ne_spelling (by decide)) (ne_spelling (by decide)),
    parseNumber_eq_error (by decide) (by decide) (by decide) (by decide)]
  simp [parseString, Except.toOption]

theorem parse?_number (h : Lexeme (some .number) w) :
    ∃ x, parseNumber w = .ok (.number x) ∧ parse? w = some (.number x) ∧ x.isNaN = false ∧
      x.negative = false := by
  obtain ⟨n, read, positive⟩ : ∃ n, Numeral.parse? w = some n ∧ n.negative = false := by
    cases h with
    | whole nonempty digits => exact ⟨_, Numeral.parse?_whole false nonempty digits, rfl⟩
    | decimal nonempty digits _ digits' =>
      exact ⟨_, Numeral.parse?_fraction false nonempty digits digits', rfl⟩
  have number : parseNumber w = .ok (.number n.number) := by rw [parseNumber, read]
  obtain ⟨⟨c, head, digit⟩, -⟩ := h.number_inv
  obtain ⟨t, rfl⟩ := List.head?_eq_some_iff.1 head
  have noLetter := isDigit_not_isLetter digit
  refine ⟨n.number, number, ?_, ?_, positive⟩
  · rw [parse?_eq, parseBoolean_eq_error (ne_spelling noLetter) (ne_spelling noLetter), number]
  · exact decide_eq_false (Nat.not_lt.2 n.decimal.magnitude_le)

theorem parse?_eq_none (h : c :: t ≠ Keyword.true.spelling) (h' : c :: t ≠ Keyword.false.spelling)
    (digit : c.isDigit = false) (minus : c ≠ '-') (plus : c ≠ '+') (point : c ≠ '.')
    (quote : c ≠ '"') : parse? (c :: t) = none := by
  rw [parse?_eq, parseBoolean_eq_error h h', parseNumber_eq_error digit minus plus point,
    parseString_eq_error quote]
  rfl

theorem parse?_word (letter : isLetter c = true) (h : c :: t ≠ Keyword.true.spelling)
    (h' : c :: t ≠ Keyword.false.spelling) : parse? (c :: t) = none := by
  have differs {d : Char} (hd : isLetter d = false) : c ≠ d := by
    rintro rfl
    exact Bool.false_ne_true (hd.symm.trans letter)
  refine parse?_eq_none h h' ?_ (differs (by decide)) (differs (by decide)) (differs (by decide))
    (differs (by decide))
  rw [Bool.eq_false_iff]
  intro digit
  exact differs (isDigit_not_isLetter digit) rfl

end Literal

structure Token.Consistent (t : Token) : Prop where
  string_iff : t.kind = .string ↔ t.lexeme.head? = some '"'
  string : t.kind = .string → ∃ payload, '"' ∉ payload ∧ t.lexeme = '"' :: (payload ++ ['"']) ∧
    t.literal? = some (.string payload)
  number_iff : t.kind = .number ↔ ∃ c ∈ t.lexeme.head?, c.isDigit = true
  number : t.kind = .number → Lexeme (some .number) t.lexeme ∧
    ∃ x, Literal.parseNumber t.lexeme = .ok (.number x) ∧ t.literal? = some (.number x) ∧
      x.isNaN = false ∧ x.negative = false
  keyword_iff : ∀ k, t.kind = .keyword k ↔ Keyword.ofSpelling? t.lexeme = some k
  trueLiteral : t.kind = .keyword .true → t.literal? = some (.boolean true)
  falseLiteral : t.kind = .keyword .false → t.literal? = some (.boolean false)
  others : t.kind ≠ .string → t.kind ≠ .number → t.kind ≠ .keyword .true →
    t.kind ≠ .keyword .false → t.literal? = none

theorem spelling_of_ofSpelling? {k : Keyword} {w : Text} (h : Keyword.ofSpelling? w = some k) :
    k.spelling = w := by
  simpa using List.find?_some h

theorem Keyword.spelling_inj {k k' : Keyword} (h : k.spelling = k'.spelling) : k = k' := by
  have found := ofSpelling?_spelling k
  rw [h, ofSpelling?_spelling] at found
  exact (Option.some.inj found).symm

namespace Lexeme

variable {kind : Kind} {w : Text}

theorem string_iff (h : Lexeme (some kind) w) : kind = .string ↔ w.head? = some '"' := by
  constructor
  · rintro rfl
    cases h
    rfl
  · intro head
    obtain ⟨t, rfl⟩ := List.head?_eq_some_iff.1 head
    obtain ⟨same, -⟩ : Lead.quote.Spells (some kind) '"' t := h.spells
    exact Option.some.inj same

theorem keyword_iff (h : Lexeme (some kind) w) (k : Keyword) :
    kind = .keyword k ↔ Keyword.ofSpelling? w = some k := by
  constructor
  · rintro rfl
    cases h
    exact Keyword.ofSpelling?_spelling k
  · intro found
    obtain rfl := spelling_of_ofSpelling? found
    exact Option.some.inj (h.kind_eq (.keyword k))

theorem literal_eq_none (h : Lexeme (some kind) w) (string : kind ≠ .string)
    (number : kind ≠ .number) (isTrue : kind ≠ .keyword .true) (isFalse : kind ≠ .keyword .false) :
    Literal.parse? w = none := by
  cases h with
  | punctuator p => cases p <;> decide
  | operator o => cases o <;> decide
  | operatorEqual o => cases o <;> decide
  | string => exact absurd rfl string
  | whole => exact absurd rfl number
  | decimal => exact absurd rfl number
  | keyword k =>
    have differs {k' : Keyword} (hk : Kind.keyword k ≠ .keyword k') : k.spelling ≠ k'.spelling :=
      fun same => hk (congrArg _ (Keyword.spelling_inj same))
    have notTrue := differs isTrue
    have notFalse := differs isFalse
    obtain ⟨c, t, spelling, letter, -⟩ := exists_spelling_eq_cons k
    rw [spelling] at notTrue notFalse ⊢
    exact Literal.parse?_word letter notTrue notFalse
  | identifier letter _ other =>
    exact Literal.parse?_word letter (other .true).symm (other .false).symm

theorem consistent {t : Token} (h : Lexeme (some t.kind) t.lexeme)
    (literal : t.literal? = Literal.parse? t.lexeme) : t.Consistent where
  string_iff := h.string_iff
  string := by
    intro string
    rw [string] at h
    generalize t.lexeme = w at h literal
    cases h with
    | @string payload unquoted =>
      exact ⟨payload, unquoted, rfl, literal.trans (Literal.parse?_string payload)⟩
  number_iff := h.number_iff
  number := by
    intro number
    rw [number] at h
    obtain ⟨x, read, parsed, properties⟩ := Literal.parse?_number h
    exact ⟨h, x, read, literal.trans parsed, properties⟩
  keyword_iff := h.keyword_iff
  trueLiteral := by
    intro isTrue
    rw [literal, ← spelling_of_ofSpelling? ((h.keyword_iff .true).1 isTrue)]
    decide
  falseLiteral := by
    intro isFalse
    rw [literal, ← spelling_of_ofSpelling? ((h.keyword_iff .false).1 isFalse)]
    decide
  others := by
    intro string number isTrue isFalse
    rw [literal, h.literal_eq_none string number isTrue isFalse]

end Lexeme

theorem consistent_of_mem_items {p : Position} {source : Text} {t : Token}
    (h : .token t ∈ Element.items p (elements source)) : t.Consistent := by
  fun_induction elements source generalizing p with
  | case1 => cases h
  | case2 c cs ih =>
    rw [Element.items] at h
    rcases List.mem_append.1 h with here | later
    · cases language : (Element.next c cs).1.language? with
      | none =>
        obtain ⟨e, item⟩ := Element.item?_eq_error language ((Element.next c cs).1.positionBehind p)
        rw [item] at here
        simp at here
      | some k =>
        cases k with
        | none =>
          rw [Element.item?_eq_none language] at here
          cases here
        | some kind =>
          rw [Element.item?_eq_some language] at here
          obtain rfl : t = _ := Item.token.inj (List.mem_singleton.1 here)
          exact (complete_next c cs _ language).1.consistent rfl
    · exact ih later

/-- Every token that a session delivers, before or behind an error, is consistent, and so is every
token of a source. -/
theorem delivered_consistent (source : Text) :
    (∀ (steps : List Session.Step) (t : Token),
      .token t ∈ ((Session.start source).run steps).flatMap (fun answered => answered.1.delivered) →
        t.Consistent) ∧
    ∀ t : Token, .token t ∈ scanResults source → t.Consistent := by
  constructor
  · intro steps t delivered
    obtain ⟨events, -⟩ :=
      Session.events_run (s := Session.start source) (Scan.ready_start source) steps
    have event : .token t ∈ (Scan.start source).events := by
      change (Scan.start source).events = _ at events
      rw [events]
      exact List.mem_append_left _ delivered
    exact consistent_of_mem_items event
  · intro t delivered
    have event : .token t ∈ (Scan.start source).events := by
      rw [Scan.events_drain (Scan.ready_start source)]
      exact List.mem_append_left _ delivered
    exact consistent_of_mem_items event

theorem delivered_consistent_restart :
    let source : Text := "true@\"x\"".toList
    let steps : List Session.Step := [.openReader, .next 0, .next 0, .openReader, .next 1]
    let string : Token := ⟨.string, "\"x\"".toList, some (.string ['x']), ⟨0, 7⟩⟩
    let word : Token := ⟨.keyword .true, "true".toList, some (.boolean true), ⟨0, 4⟩⟩
    (.token string ∈
        ((Session.start source).run steps).flatMap (fun answered => answered.1.delivered) ∧
      string.Consistent) ∧
    .token word ∈ scanResults source ∧ word.Consistent := by
  intro source steps string word
  have delivered : .token string ∈
      ((Session.start source).run steps).flatMap fun answered => answered.1.delivered := by
    decide +kernel
  have first : .token word ∈ scanResults source := by decide +kernel
  exact ⟨⟨delivered, (delivered_consistent source).1 steps string delivered⟩, first,
    (delivered_consistent source).2 word first⟩

end LoxLexer
