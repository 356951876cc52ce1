import LoxLexer.Lead
import LoxLexer.Text.Line

namespace LoxLexer

inductive Element
  | blank (c : Char)
  | comment (text : Text)
  | token (kind : Kind) (lexeme : Text)
  | stray (c : Char)
  | openString (text : Text)
deriving DecidableEq, Repr

namespace Element

def text : Element → Text
  | blank c => [c]
  | comment t => t
  | token _ lexeme => lexeme
  | stray c => [c]
  | openString t => t

def splitFraction : Text → Text × Text
  | '.' :: d :: t =>
    if d.isDigit then ('.' :: (d :: t).takeWhile Char.isDigit, (d :: t).dropWhile Char.isDigit)
    else ([], '.' :: d :: t)
  | t => ([], t)

def number (c : Char) (cs : Text) : Element × Text :=
  let (fraction, rest) := splitFraction (cs.dropWhile Char.isDigit)
  (token .number (c :: cs.takeWhile Char.isDigit ++ fraction), rest)

def word (c : Char) (cs : Text) : Element × Text :=
  let lexeme := c :: cs.takeWhile isAlphanumeric
  (token (.ofWord lexeme) lexeme, cs.dropWhile isAlphanumeric)

def string (c : Char) (cs : Text) : Element × Text :=
  let payload := cs.takeWhile (· ≠ '"')
  match cs.dropWhile (· ≠ '"') with
  | [] => (openString (c :: payload), [])
  | close :: rest => (token .string (c :: payload ++ [close]), rest)

def slash (c : Char) (cs : Text) : Element × Text :=
  match cs with
  | '/' :: t => (comment (c :: '/' :: (Text.splitLine t).1), (Text.splitLine t).2)
  | _ => (token (.punctuator .slash) [c], cs)

def operator (o : Operator) (c : Char) (cs : Text) : Element × Text :=
  match cs with
  | '=' :: rest => (token (.operator o true) [c, '='], rest)
  | _ => (token (.operator o false) [c], cs)

def next (c : Char) (cs : Text) : Element × Text :=
  match Lead.of c with
  | .blank => (blank c, cs)
  | .digit => number c cs
  | .letter => word c cs
  | .quote => string c cs
  | .slash => slash c cs
  | .punctuator p => (token (.punctuator p) [c], cs)
  | .operator o => operator o c cs
  | .stray => (stray c, cs)

theorem splitFraction_append (t : Text) : (splitFraction t).1 ++ (splitFraction t).2 = t := by
  unfold splitFraction
  split
  · split
    · rw [List.cons_append, List.takeWhile_append_dropWhile]
    · rfl
  · rfl

theorem next_text (c : Char) (cs : Text) : (next c cs).1.text ++ (next c cs).2 = c :: cs := by
  unfold next
  split
  · rfl
  · have h := splitFraction_append (cs.dropWhile Char.isDigit)
    simp only [number, text, List.cons_append, List.append_assoc, h,
      List.takeWhile_append_dropWhile]
  · simp only [word, text, List.cons_append, List.takeWhile_append_dropWhile]
  · unfold string
    have h := List.takeWhile_append_dropWhile (p := (· ≠ '"')) (l := cs)
    dsimp only
    split <;> rename_i eq <;> rw [eq] at h <;> simp_all [text]
  · unfold slash
    split
    · simp only [text, List.cons_append, Text.splitLine_append]
    · rfl
  · rfl
  · unfold operator
    split <;> rfl
  · rfl

theorem text_next_ne_nil (c : Char) (cs : Text) : (next c cs).1.text ≠ [] := by
  unfold next
  split
  · simp [text]
  · simp [number, text]
  · simp [word, text]
  · unfold string
    dsimp only
    split <;> simp [text]
  · unfold slash
    split <;> simp [text]
  · simp [text]
  · unfold operator
    split <;> simp [text]
  · simp [text]

theorem length_next (c : Char) (cs : Text) : (next c cs).2.length < (c :: cs).length := by
  have h := congrArg List.length (next_text c cs)
  have pos := List.length_pos_iff.2 (text_next_ne_nil c cs)
  rw [List.length_append] at h
  omega

end Element

def elements (source : Text) : List Element :=
  match source with
  | [] => []
  | c :: cs => (Element.next c cs).1 :: elements (Element.next c cs).2
termination_by source.length
decreasing_by exact Element.length_next c cs

@[simp] theorem elements_nil : elements [] = [] := by simp [elements]

theorem elements_cons (c : Char) (cs : Text) :
    elements (c :: cs) = (Element.next c cs).1 :: elements (Element.next c cs).2 := by
  rw [elements]

end LoxLexer
