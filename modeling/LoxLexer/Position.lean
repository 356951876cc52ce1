import LoxLexer.Text.Basic

namespace LoxLexer

structure Position where
  line : Nat
  column : Nat
deriving DecidableEq, Repr

namespace Position

def start : Position := ⟨0, 0⟩

def right (p : Position) : Position := ⟨p.line, p.column + 1⟩

def down (p : Position) : Position := ⟨p.line + 1, 0⟩

def advance (p : Position) (c : Char) : Position := if c = '\n' then p.down else p.right

def after (p : Position) (t : Text) : Position := t.foldl advance p

@[simp] theorem after_nil (p : Position) : p.after [] = p := rfl

@[simp] theorem after_cons (p : Position) (c : Char) (t : Text) :
    p.after (c :: t) = (p.advance c).after t := rfl

theorem after_append (p : Position) (t u : Text) : p.after (t ++ u) = (p.after t).after u :=
  List.foldl_append

instance : LT Position where
  lt p q := p.line < q.line ∨ p.line = q.line ∧ p.column < q.column

instance : LE Position where
  le p q := p.line < q.line ∨ p.line = q.line ∧ p.column ≤ q.column

theorem lt_def {p q : Position} :
    p < q ↔ p.line < q.line ∨ p.line = q.line ∧ p.column < q.column := Iff.rfl

theorem le_def {p q : Position} :
    p ≤ q ↔ p.line < q.line ∨ p.line = q.line ∧ p.column ≤ q.column := Iff.rfl

instance (p q : Position) : Decidable (p < q) := decidable_of_iff' _ lt_def

instance (p q : Position) : Decidable (p ≤ q) := decidable_of_iff' _ le_def

theorem right_lt (p : Position) : p < p.right := lt_def.2 (.inr ⟨rfl, Nat.lt_succ_self _⟩)

theorem down_lt (p : Position) : p < p.down := lt_def.2 (.inl (Nat.lt_succ_self _))

def render (p : Position) : Text :=
  '(' :: Text.ofNat p.line ++ ", ".toList ++ Text.ofNat p.column ++ [')']

end Position
end LoxLexer
