import LoxLexer.Text.Basic

namespace LoxLexer

structure Cursor where
  rest : Text
  consumed : Nat
deriving DecidableEq, Repr

namespace Cursor

def ofText (t : Text) : Cursor := ⟨t, 0⟩

def atEnd (c : Cursor) : Bool := c.rest.isEmpty

def peek? (c : Cursor) (n : Nat) : Option Char := c.rest[n]?

def advance (c : Cursor) : Option Char × Cursor :=
  match c.rest with
  | [] => (none, c)
  | x :: rest => (some x, ⟨rest, c.consumed + 1⟩)

theorem length_advance {c c' : Cursor} {x : Char} (h : c.advance = (some x, c')) :
    c'.rest.length < c.rest.length := by
  unfold advance at h
  split at h
  · cases h
  · rename_i rest eq
    cases h
    simp [eq]

inductive Step
  | peek (n : Nat)
  | advance
  | atEnd
  | consumed
deriving DecidableEq, Repr

inductive Answer
  | char (c? : Option Char)
  | flag (b : Bool)
  | count (n : Nat)
deriving DecidableEq, Repr

def step (c : Cursor) : Step → Answer × Cursor
  | .peek n => (.char (c.peek? n), c)
  | .advance => let (x, c) := c.advance; (.char x, c)
  | .atEnd => (.flag c.atEnd, c)
  | .consumed => (.count c.consumed, c)

def run (c : Cursor) : List Step → List Answer
  | [] => []
  | step :: steps =>
    let (answer, c) := c.step step
    answer :: c.run steps

end Cursor
end LoxLexer
