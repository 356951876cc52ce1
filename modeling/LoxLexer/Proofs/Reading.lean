import LoxLexer.Proofs.Grammar
import LoxLexer.Scan

namespace LoxLexer

theorem trim_of_forall {t : Text} (h : ∀ c ∈ t, isSpace c = false) : t.trim = t :=
  Text.trim_eq_self (fun c hc => h c (List.mem_of_mem_head? hc))
    fun c hc => h c (List.mem_of_mem_getLast? hc)

theorem isSpace_of_isDigit {c : Char} (h : c.isDigit = true) : isSpace c = false := by
  rw [Bool.eq_false_iff]
  intro space
  simp [isSpace_not_isDigit space] at h

theorem isSpace_of_isAlphanumeric {c : Char} (h : isAlphanumeric c = true) : isSpace c = false := by
  rw [Bool.eq_false_iff]
  intro space
  simp [isAlphanumeric, isSpace_not_isLetter space, isSpace_not_isDigit space] at h

theorem trim_word {c : Char} {t : Text} (letter : isLetter c = true)
    (word : ∀ d ∈ t, isAlphanumeric d = true) : Text.trim (c :: t) = c :: t := by
  apply trim_of_forall
  intro d hd
  rcases List.mem_cons.1 hd with rfl | hd
  · exact isSpace_of_isAlphanumeric (by simp [isAlphanumeric, letter])
  · exact isSpace_of_isAlphanumeric (word d hd)

theorem trim_quoted (payload : Text) :
    Text.trim ('"' :: (payload ++ ['"'])) = '"' :: (payload ++ ['"']) := by
  apply Text.trim_eq_self
  · rintro c ⟨⟩
    decide
  · intro c hc
    rw [← List.cons_append, List.getLast?_concat] at hc
    cases hc
    decide

theorem Lexeme.trim_eq {kind : Kind} {w : Text} (h : Lexeme (some kind) w) : w.trim = w := by
  cases h with
  | punctuator p => cases p <;> decide
  | operator o => cases o <;> decide
  | operatorEqual o => cases o <;> decide
  | string => exact trim_quoted _
  | whole _ digits => exact trim_of_forall fun d hd => isSpace_of_isDigit (digits d hd)
  | decimal _ digits _ digits' =>
    apply trim_of_forall
    intro d hd
    rcases List.mem_append.1 hd with hd | hd
    · exact isSpace_of_isDigit (digits d hd)
    · rcases List.mem_cons.1 hd with rfl | hd
      · decide
      · exact isSpace_of_isDigit (digits' d hd)
  | keyword k =>
    obtain ⟨c, t, same, letter, word⟩ := exists_spelling_eq_cons k
    rw [same]
    exact trim_word letter word
  | identifier letter word => exact trim_word letter word

namespace Element

def positionBehind (e : Element) (p : Position) : Position :=
  match e with
  | stray _ => p
  | e => p.after e.text

def item? (e : Element) (p : Position) : Option Item :=
  match e with
  | blank _ => none
  | comment _ => none
  | token kind lexeme => some (.token ⟨kind, lexeme, Literal.parse? lexeme, p⟩)
  | stray c => some (.error ⟨p, [c], .unexpectedCharacter⟩)
  | openString text => some (.error ⟨p, text, .unterminatedString⟩)

theorem positionBehind_eq {e : Element} {k : Option Kind} (h : e.language? = some k)
    (p : Position) : e.positionBehind p = p.after e.text := by
  cases e <;> first | rfl | cases h

theorem item?_eq_none {e : Element} (h : e.language? = some none) (p : Position) :
    e.item? p = none := by
  cases e <;> first | rfl | cases h

theorem item?_eq_some {e : Element} {kind : Kind} (h : e.language? = some (some kind))
    (p : Position) : e.item? p = some (.token ⟨kind, e.text, Literal.parse? e.text, p⟩) := by
  rw [eq_token_of_language? h]
  rfl

theorem item?_eq_error {e : Element} (h : e.language? = none) (p : Position) :
    ∃ error, e.item? p = some (.error error) := by
  cases e <;> first | exact ⟨_, rfl⟩ | cases h

def leftover : Element → Array Char
  | openString text => text.toArray
  | _ => #[]

theorem leftover_eq {e : Element} {k : Option Kind} (h : e.language? = some k) :
    e.leftover = #[] := by
  cases e <;> first | rfl | cases h

end Element

namespace Scan

def pass (n : Nat) (p : Position) (next : Element × Text) : Option Item × Scan :=
  let p := next.1.positionBehind p
  (next.1.item? p, ⟨⟨next.2, n + next.1.text.length⟩, p, next.1.leftover⟩)

def reading (n : Nat) (p : Position) (w rest : Text) : Scan :=
  ⟨⟨rest, n + w.length⟩, p.after w, w.toArray⟩

variable {n : Nat} {p : Position} {c : Char} {cs w rest : Text}

theorem peek?_reading : (reading n p w rest).cursor.peek? 0 = rest.head? :=
  List.head?_eq_getElem?.symm

theorem takeNext_reading :
    (reading n p w (c :: rest)).takeNext = reading n p (w ++ [c]) rest := by
  rw [reading, takeNext_cons, reading, Position.after_append, List.length_append]
  simp [Nat.add_assoc]

theorem takeIf_reading :
    (reading n p w (c :: rest)).takeIf c = (true, reading n p (w ++ [c]) rest) := by
  rw [takeIf, peek?_reading, if_pos List.head?_cons, takeNext_reading]

theorem takeIf_reading_of_ne (h : rest.head? ≠ some c) :
    (reading n p w rest).takeIf c = (false, reading n p w rest) := by
  rw [takeIf, peek?_reading, if_neg h]

theorem takeWhile_reading (keep : Char → Bool) :
    (reading n p w rest).takeWhile keep =
      reading n p (w ++ rest.takeWhile keep) (rest.dropWhile keep) := by
  rw [reading, takeWhile_eq, reading, Position.after_append, List.length_append, Nat.add_assoc]
  simp

theorem emit_reading {kind : Kind} (h : Element.next c cs = (.token kind w, rest)) :
    (reading n p w rest).emit kind = pass n p (Element.next c cs) := by
  have language : (Element.next c cs).1.language? = some (some kind) := by
    rw [h]
    rfl
  have lexeme := (complete_next c cs _ language).1
  rw [h] at lexeme ⊢
  have whole : Text.trim w = w := lexeme.trim_eq
  change (some (Item.token ⟨kind, Text.trim w, Literal.parse? (Text.trim w), p.after w⟩), _) = _
  rw [whole]
  rfl

theorem fraction_reading :
    (reading n p w rest).fraction =
      reading n p (w ++ (Element.splitFraction rest).1) (Element.splitFraction rest).2 := by
  unfold Element.splitFraction
  split
  · rename_i d t
    rw [fraction]
    cases digit : d.isDigit with
    | true =>
      rw [if_pos ⟨rfl, digit⟩, if_pos rfl, takeNext_reading, takeWhile_reading, List.append_assoc,
        List.singleton_append]
    | false =>
      rw [if_neg, if_neg Bool.false_ne_true, List.append_nil]
      rintro ⟨-, ahead⟩
      exact Bool.false_ne_true (digit.symm.trans ahead)
  · rename_i other
    rw [fraction, if_neg, List.append_nil]
    rintro ⟨point, ahead⟩
    obtain ⟨t, rfl⟩ := List.head?_eq_some_iff.1 (peek?_reading.symm.trans point)
    obtain ⟨d, ahead, -⟩ := (Option.any_eq_true _ _).1 ahead
    obtain ⟨u, rfl⟩ := List.head?_eq_some_iff.1 (List.head?_eq_getElem?.trans ahead)
    exact other d u rfl

theorem take_eq_reading : take ⟨⟨cs, n + 1⟩, p, #[]⟩ c = reading n p [c] cs := rfl

theorem not_head_of_forall {d : Char} (h : ∀ t, cs = d :: t → False) : cs.head? ≠ some d := by
  intro head
  obtain ⟨t, rfl⟩ := List.head?_eq_some_iff.1 head
  exact h t rfl

theorem operator_eq {o : Operator} (lead : Lead.of c = .operator o) :
    operator ⟨⟨cs, n + 1⟩, p, #[]⟩ o c = pass n p (Element.next c cs) := by
  have next : Element.next c cs = Element.operator o c cs := by rw [Element.next, lead]
  unfold operator
  rw [take_eq_reading]
  unfold Element.operator at next
  split at next
  · rw [takeIf_reading]
    exact emit_reading next
  · rename_i other
    rw [takeIf_reading_of_ne (not_head_of_forall other)]
    exact emit_reading next

theorem slash_eq (lead : Lead.of c = .slash) :
    slash ⟨⟨cs, n + 1⟩, p, #[]⟩ c = pass n p (Element.next c cs) := by
  have next : Element.next c cs = Element.slash c cs := by rw [Element.next, lead]
  have ahead : (Scan.mk ⟨cs, n + 1⟩ p #[]).cursor.peek? 0 = cs.head? := List.head?_eq_getElem?.symm
  unfold slash
  rw [ahead]
  unfold Element.slash at next
  split at next
  · rename_i t
    have passed : n + 1 + 1 + (Text.splitLine t).1.length =
        n + (c :: '/' :: (Text.splitLine t).1).length := by
      simp only [List.length_cons]
      omega
    rw [if_pos List.head?_cons, next, track, skipLine_cons, if_neg (by decide), skipLine_eq, passed]
    rfl
  · rename_i other
    rw [if_neg (not_head_of_forall other), take_eq_reading]
    exact emit_reading next

theorem string_eq (lead : Lead.of c = .quote) :
    string ⟨⟨cs, n + 1⟩, p, #[]⟩ c = pass n p (Element.next c cs) := by
  have next : Element.next c cs = Element.string c cs := by rw [Element.next, lead]
  unfold string
  rw [take_eq_reading]
  dsimp only
  rw [takeWhile_reading]
  unfold Element.string at next
  dsimp only at next
  split at next
  · rename_i unclosed
    rw [unclosed, next, if_pos]
    · rfl
    · rfl
  · rename_i close rest eq
    rw [eq, if_neg, takeNext_reading]
    · exact emit_reading next
    · exact Bool.false_ne_true

theorem step_eq : step ⟨⟨c :: cs, n⟩, p, #[]⟩ = pass n p (Element.next c cs) := by
  change dispatch ⟨⟨cs, n + 1⟩, p, #[]⟩ c = _
  unfold dispatch
  cases lead : Lead.of c with
  | punctuator q =>
    dsimp only
    rw [take_eq_reading]
    exact emit_reading (by rw [Element.next, lead])
  | operator o => exact operator_eq lead
  | slash => exact slash_eq lead
  | quote => exact string_eq lead
  | digit =>
    dsimp only [number]
    rw [take_eq_reading, takeWhile_reading, fraction_reading]
    exact emit_reading (by rw [Element.next, lead]; rfl)
  | letter =>
    dsimp only [word]
    rw [take_eq_reading, takeWhile_reading]
    exact emit_reading (by rw [Element.next, lead]; rfl)
  | _ =>
    rw [Element.next, lead]
    rfl

end Scan
end LoxLexer
