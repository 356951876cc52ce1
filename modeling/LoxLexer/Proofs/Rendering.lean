import LoxLexer.Token.Basic
import LoxLexer.Proofs.Formatting
import LoxLexer.Proofs.Grammar
import Mathlib.Data.Option.Basic

/-!
# Rendered tokens and errors

Lexemes and payloads may have any characters, those of the rendering among them. A quoted text ends
at the first double quote that is not escaped, so that whatever stands behind it can be split off.
-/

namespace LoxLexer

/-- What is shown tells what it shows, up to `same`, and where it ends. -/
def PrefixFree {α : Type} (same : α → α → Prop) (shown : α → Text) : Prop :=
  ∀ ⦃x y : α⦄ ⦃r s : Text⦄, shown x ++ r = shown y ++ s → same x y ∧ r = s

theorem PrefixFree.same {α : Type} {same : α → α → Prop} {shown : α → Text} {x y : α}
    (free : PrefixFree same shown) (h : shown x = shown y) : same x y :=
  (free (congrArg (· ++ []) h)).1

namespace Text

def unescaped : Char → Char
  | 'n' => '\n'
  | 'r' => '\r'
  | 't' => '\t'
  | c => c

def unquote : Text → Text × Text
  | '\\' :: c :: t => (unescaped c :: (unquote t).1, (unquote t).2)
  | '"' :: t => ([], t)
  | c :: t => (c :: (unquote t).1, (unquote t).2)
  | [] => ([], [])

theorem escape_cases (c : Char) :
    (∃ d, escape c = ['\\', d] ∧ unescaped d = c) ∨ c ≠ '\\' ∧ c ≠ '"' ∧ escape c = [c] := by
  unfold escape
  split
  · exact .inl ⟨_, rfl, rfl⟩
  · exact .inl ⟨_, rfl, rfl⟩
  · exact .inl ⟨_, rfl, rfl⟩
  · exact .inl ⟨_, rfl, rfl⟩
  · exact .inl ⟨_, rfl, rfl⟩
  · exact .inr ⟨by assumption, by assumption, rfl⟩

theorem unquote_escape (t r : Text) : unquote (t.flatMap escape ++ '"' :: r) = (t, r) := by
  induction t with
  | nil => rfl
  | cons c t ih =>
    rw [List.flatMap_cons, List.append_assoc]
    rcases escape_cases c with ⟨d, form, same⟩ | ⟨notEscape, notQuote, form⟩
    · rw [form, List.cons_append, List.singleton_append, unquote, ih, same]
    · rw [form, List.singleton_append, unquote, ih]
      · exact fun _ _ same _ => notEscape same
      · exact notQuote

theorem prefixFree_quoted : PrefixFree (· = ·) quoted := by
  intro t u r s h
  have inner : t.flatMap escape ++ '"' :: r = u.flatMap escape ++ '"' :: s := by
    simpa [quoted] using h
  have read := congrArg unquote inner
  rw [unquote_escape, unquote_escape] at read
  exact Prod.mk.inj read

theorem not_mem_ofNat {c : Char} (h : c.isDigit = false) (n : Nat) : c ∉ ofNat n :=
  Text.not_mem_of_digits h fun _ => isDigit_of_mem_ofNat

theorem ofNat_inj {m n : Nat} (h : ofNat m = ofNat n) : m = n := by
  rw [← value_ofNat m, h, value_ofNat]

theorem ofNat_end_inj {c : Char} {m n : Nat} {r s : Text} (notDigit : c.isDigit = false)
    (h : ofNat m ++ c :: r = ofNat n ++ c :: s) : m = n ∧ r = s := by
  obtain ⟨digits, rest⟩ :=
    append_delimiter_inj (not_mem_ofNat notDigit m) (not_mem_ofNat notDigit n) h
  exact ⟨ofNat_inj digits, rest⟩

end Text

theorem Position.prefixFree_render : PrefixFree (· = ·) Position.render := by
  rintro ⟨l, c⟩ ⟨l', c'⟩ r s h
  simp only [Position.render, List.cons_append, List.append_assoc, List.nil_append] at h
  obtain ⟨rfl, columns⟩ := Text.ofNat_end_inj rfl (List.cons.inj h).2
  obtain ⟨rfl, rest⟩ := Text.ofNat_end_inj rfl (List.cons.inj columns).2
  exact ⟨rfl, rest⟩

theorem Position.not_mem_render {c : Char} (digit : c.isDigit = false) (symbol : c ∉ "(, )".toList)
    (p : Position) : c ∉ p.render := by
  have line := Text.not_mem_ofNat digit p.line
  have column := Text.not_mem_ofNat digit p.column
  simp_all [render]

theorem Kind.name_inj {k l : Kind} (h : k.name = l.name) : k = l :=
  Option.some.inj ((Kind.ofName?_name k).symm.trans ((congrArg ofName? h).trans (ofName?_name l)))

theorem Kind.not_mem_name {c : Char} (h : c.isAlpha = false) (k : Kind) : c ∉ k.name := by
  have letters : ∀ k ∈ Kind.all, k.name.all Char.isAlpha = true := by decide
  intro member
  have letter := List.all_eq_true.1 (letters k (Kind.mem_all k)) c member
  exact Bool.false_ne_true (h.symm.trans letter)

def Literal.Alike : Literal → Literal → Prop
  | .string t, .string u => t = u
  | .number x, .number y => x.bits = y.bits ∨ x.isNaN = true ∧ y.isNaN = true
  | .boolean b, .boolean c => b = c
  | _, _ => False

theorem Binary64.bits_inj {x y : Binary64} (h : x.bits = y.bits) : x = y := by
  rw [← ofBits_bits x, h, ofBits_bits]

namespace Literal

theorem display_string (t : Text) :
    (string t).display = "String(".toList ++ (t.quoted ++ [')']) := rfl

theorem display_number (x : Binary64) :
    (number x).display = "Number(".toList ++ (Layout.display.number x ++ [')']) := rfl

theorem display_boolean (b : Bool) :
    (boolean b).display = "Boolean(".toList ++ (ofBool b ++ [')']) := rfl

theorem ofBool_inj {b c : Bool} (h : ofBool b = ofBool c) : b = c := by
  cases b <;> cases c <;> first | rfl | simp [ofBool] at h

theorem prefixFree_display : PrefixFree Alike display := by
  intro l l' r s h
  cases l <;> cases l' <;>
    simp only [display_string, display_number, display_boolean, List.append_assoc,
      List.singleton_append] at h
  case string.string t u =>
    obtain ⟨same, rest⟩ := Text.prefixFree_quoted (List.append_cancel_left h)
    exact ⟨same, (List.cons.inj rest).2⟩
  case number.number x y =>
    have absent (x : Binary64) : ')' ∉ Layout.display.number x :=
      Layout.not_mem_number rfl (by decide) x
    obtain ⟨shown, rest⟩ := append_delimiter_inj (absent x) (absent y) (List.append_cancel_left h)
    exact ⟨(Binary64.display_number_inj shown).imp_left (congrArg Binary64.bits), rest⟩
  case boolean.boolean b c =>
    have absent (b : Bool) : ')' ∉ ofBool b := by cases b <;> decide
    obtain ⟨shown, rest⟩ := append_delimiter_inj (absent b) (absent c) (List.append_cancel_left h)
    exact ⟨ofBool_inj shown, rest⟩
  -- Literals of two kinds differ in the first character.
  all_goals simp at h

theorem Alike.display_eq {l l' : Literal} (h : l.Alike l') : l.display = l'.display := by
  cases l <;> cases l' <;> try exact h.elim
  case string.string t u => rw [show t = u from h]
  case number.number x y =>
    rcases h with bits | ⟨none, none'⟩
    · rw [Binary64.bits_inj bits]
    · rw [display_number, display_number, Layout.number_of_isNaN none, Layout.number_of_isNaN none']
  case boolean.boolean b c => rw [show b = c from h]

end Literal

structure Token.Alike (t u : Token) : Prop where
  kind : t.kind = u.kind
  lexeme : t.lexeme = u.lexeme
  literal : Option.Rel Literal.Alike t.literal? u.literal?
  position : t.position = u.position

namespace Token

def ending (literal? : Option Literal) (p : Position) : Text :=
  literal?.elim [] (fun l => ", literal: ".toList ++ l.display) ++
    (", position: ".toList ++ (p.render ++ ['>']))

theorem render_eq (t : Token) :
    t.render = "<Token type: ".toList ++ (t.kind.name ++ (", lexeme: ".toList ++
      (t.lexeme.quoted ++ ending t.literal? t.position))) := by
  obtain ⟨kind, lexeme, literal?, position⟩ := t
  unfold render fields ending
  cases literal? <;> simp [List.intercalate]

theorem ending_inj {literal? literal'? : Option Literal} {p q : Position}
    (h : ending literal? p = ending literal'? q) :
    Option.Rel Literal.Alike literal? literal'? ∧ p = q := by
  cases literal? with
  | none =>
    cases literal'? with
    | none => exact ⟨.none, (Position.prefixFree_render (List.append_cancel_left h)).1⟩
    -- Behind the comma a literal begins with an `l`, a position with a `p`.
    | some l' => simp [ending] at h
  | some l =>
    cases literal'? with
    | none => simp [ending] at h
    | some l' =>
      simp only [ending, Option.elim_some, List.append_assoc] at h
      obtain ⟨alike, rest⟩ := Literal.prefixFree_display (List.append_cancel_left h)
      exact ⟨.some alike, (Position.prefixFree_render (List.append_cancel_left rest)).1⟩

theorem render_eq_iff {t u : Token} : t.render = u.render ↔ t.Alike u := by
  constructor
  · intro h
    rw [render_eq, render_eq] at h
    obtain ⟨names, fields⟩ := append_delimiter_inj (t.kind.not_mem_name rfl)
      (u.kind.not_mem_name rfl) (List.append_cancel_left h)
    obtain ⟨lexemes, endings⟩ := Text.prefixFree_quoted (List.append_cancel_left fields)
    obtain ⟨literals, positions⟩ := ending_inj endings
    exact ⟨Kind.name_inj names, lexemes, literals, positions⟩
  · rintro ⟨kinds, lexemes, literals, positions⟩
    have endings : ending t.literal? t.position = ending u.literal? u.position := by
      rw [positions]
      generalize t.literal? = literal?, u.literal? = literal'? at literals
      cases literals with
      | none => rfl
      | some alike => rw [ending, ending, Option.elim_some, Option.elim_some, alike.display_eq]
    rw [render_eq, render_eq, kinds, lexemes, endings]

end Token

namespace ScanError

def Cause.quotes : Cause → Bool
  | .other _ => false
  | _ => true

theorem detail_inj {e f : ScanError} (he : e.cause.quotes = true) (hf : f.cause.quotes = true)
    (h : e.detail = f.detail) : e.cause = f.cause ∧ e.text = f.text := by
  obtain ⟨_, text, cause⟩ := e
  obtain ⟨_, text', cause'⟩ := f
  have texts {prelude : Text} (h : prelude ++ text.quoted = prelude ++ text'.quoted) :
      text = text' := Text.prefixFree_quoted.same (List.append_cancel_left h)
  cases cause <;> cases cause' <;> simp only [detail] at h
  case unexpectedCharacter.unexpectedCharacter => exact ⟨rfl, texts h⟩
  case unterminatedString.unterminatedString => exact ⟨rfl, texts h⟩
  case unexpectedCharacter.unterminatedString => simp at h
  case unterminatedString.unexpectedCharacter => simp at h
  all_goals first | exact absurd he Bool.false_ne_true | exact absurd hf Bool.false_ne_true

theorem message_inj {e f : ScanError} (he : e.cause.quotes = true) (hf : f.cause.quotes = true)
    (h : e.message = f.message) : e = f := by
  have form (e : ScanError) : e.message = "Error reading code at line ".toList ++
      (Text.ofNat e.position.line ++ (", column ".toList ++
        (Text.ofNat e.position.column ++ (": ".toList ++ e.detail)))) := by
    unfold message
    simp only [List.append_assoc]
  rw [form, form] at h
  obtain ⟨lines, behind⟩ := Text.ofNat_end_inj rfl (List.append_cancel_left h)
  obtain ⟨columns, details⟩ := Text.ofNat_end_inj rfl (List.append_cancel_left behind)
  obtain ⟨causes, texts⟩ := detail_inj he hf (List.cons.inj details).2
  obtain ⟨⟨line, column⟩, text, cause⟩ := e
  obtain ⟨⟨line', column'⟩, text', cause'⟩ := f
  obtain rfl : line = line' := lines
  obtain rfl : column = column' := columns
  obtain rfl : text = text' := texts
  obtain rfl : cause = cause' := causes
  rfl

end ScanError

def Text.OneLine (t : Text) : Prop := '\n' ∉ t ∧ '\r' ∉ t ∧ '\t' ∉ t

namespace Text

instance (t : Text) : Decidable t.OneLine := inferInstanceAs (Decidable (_ ∧ _ ∧ _))

theorem oneLine_append {t u : Text} : OneLine (t ++ u) ↔ OneLine t ∧ OneLine u := by
  simp only [OneLine, List.mem_append, not_or]
  tauto

theorem oneLine_cons {c : Char} {t : Text} : OneLine (c :: t) ↔ OneLine [c] ∧ OneLine t :=
  oneLine_append (t := [c])

theorem oneLine_escape (c : Char) : OneLine (escape c) := by
  unfold escape
  split <;> simp_all [OneLine, eq_comm]

theorem oneLine_quoted (t : Text) : t.quoted.OneLine := by
  have escaped : OneLine (t.flatMap escape) := by
    induction t with
    | nil => decide
    | cons c t ih => exact oneLine_append.2 ⟨oneLine_escape c, ih⟩
  exact oneLine_append.2 ⟨oneLine_cons.2 ⟨by decide, escaped⟩, by decide⟩

theorem oneLine_ofNat (n : Nat) : (ofNat n).OneLine :=
  ⟨not_mem_ofNat rfl n, not_mem_ofNat rfl n, not_mem_ofNat rfl n⟩

end Text

open Text

theorem Kind.oneLine_name (k : Kind) : k.name.OneLine :=
  ⟨k.not_mem_name rfl, k.not_mem_name rfl, k.not_mem_name rfl⟩

theorem Position.oneLine_render (p : Position) : p.render.OneLine :=
  ⟨p.not_mem_render rfl (by decide), p.not_mem_render rfl (by decide),
    p.not_mem_render rfl (by decide)⟩

theorem Layout.oneLine_number (x : Binary64) : OneLine (Layout.display.number x) :=
  ⟨not_mem_number rfl (by decide) x, not_mem_number rfl (by decide) x,
    not_mem_number rfl (by decide) x⟩

theorem Literal.oneLine_display (l : Literal) : l.display.OneLine := by
  cases l with
  | string t =>
    simp only [display_string, oneLine_append, oneLine_quoted]
    decide
  | number x =>
    simp only [display_number, oneLine_append, Layout.oneLine_number]
    decide
  | boolean b => cases b <;> decide

theorem Token.oneLine_render (t : Token) : t.render.OneLine := by
  have ending : OneLine (ending t.literal? t.position) := by
    cases t.literal? with
    | none =>
      simp only [Token.ending, Option.elim_none, oneLine_append, Position.oneLine_render]
      decide
    | some l =>
      simp only [Token.ending, Option.elim_some, oneLine_append, Position.oneLine_render,
        Literal.oneLine_display]
      decide
  simp only [render_eq, oneLine_append, oneLine_quoted, Kind.oneLine_name, ending]
  decide

theorem ScanError.oneLine_message {e : ScanError} (h : e.cause.quotes = true) :
    e.message.OneLine := by
  have detail : e.detail.OneLine := by
    obtain ⟨_, text, cause⟩ := e
    cases cause with
    | other => exact absurd h Bool.false_ne_true
    | _ =>
      unfold ScanError.detail
      simp only [oneLine_append, oneLine_quoted]
      decide
  unfold message
  simp only [oneLine_append, oneLine_ofNat, detail]
  decide

/-- Tokens that are rendered alike are alike, errors that quote their texts are told apart by their
messages, and all these renderings are single lines. -/
theorem render_unambiguous :
    (∀ t u : Token, t.render = u.render → t.Alike u) ∧
    (∀ e f : ScanError, e.cause.quotes = true → f.cause.quotes = true →
      e.message = f.message → e = f) ∧
    (∀ t : Token, t.render.OneLine) ∧
    ∀ e : ScanError, e.cause.quotes = true → e.message.OneLine := by
  refine ⟨?_, ?_, ?_, ?_⟩
  · exact fun _ _ same => Token.render_eq_iff.1 same
  · exact fun _ _ he hf same => ScanError.message_inj he hf same
  · exact Token.oneLine_render
  · exact fun _ quotes => ScanError.oneLine_message quotes

theorem render_unambiguous_nan :
    let t : Token := ⟨.number, "\", literal: Number(nan)\n\\".toList,
      some (.number (.ofBits 0x7ff8000000000000)), ⟨0, 1⟩⟩
    let u : Token := { t with literal? := some (.number (.ofBits 0xfff8000000000001)) }
    let e : ScanError := ⟨⟨2, 7⟩, "\"@\t\\".toList, .unterminatedString⟩
    (t ≠ u ∧ t.render = u.render ∧ t.Alike u) ∧ (e.cause.quotes = true ∧ e = e) ∧
      t.render.OneLine ∧ e.message.OneLine := by
  intro t u e
  have same : t.render = u.render := by decide +kernel
  exact ⟨⟨by decide +kernel, same, render_unambiguous.1 t u same⟩,
    ⟨rfl, render_unambiguous.2.1 e e rfl rfl rfl⟩, render_unambiguous.2.2.1 t,
    render_unambiguous.2.2.2 e rfl⟩

end LoxLexer
