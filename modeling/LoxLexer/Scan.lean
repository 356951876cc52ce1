import LoxLexer.Cursor
import LoxLexer.Lead
import LoxLexer.Text.Line
import LoxLexer.Text.Space
import LoxLexer.Token.Basic

/-!
# Scans

A scan goes over a source once, from left to right. It keeps a cursor on the source, the position
just behind what it has passed, and the lexeme that it is reading. The next character decides what
is read; at most two characters behind it decide where that ends. A stray character is passed
without moving the position, and a string whose closing quote is missing stays in the lexeme.
-/

namespace LoxLexer

inductive Item
  | token (t : Token)
  | error (e : ScanError)
deriving DecidableEq

structure Scan where
  cursor : Cursor
  position : Position
  lexeme : Array Char
deriving DecidableEq

namespace Scan

def start (source : Text) : Scan := ⟨.ofText source, .start, #[]⟩

def rest (s : Scan) : Text := s.cursor.rest

def consumed (s : Scan) : Nat := s.cursor.consumed

@[simp] theorem rest_mk (t : Text) (n : Nat) (p : Position) (lexeme : Array Char) :
    rest ⟨⟨t, n⟩, p, lexeme⟩ = t := rfl

@[simp] theorem consumed_mk (t : Text) (n : Nat) (p : Position) (lexeme : Array Char) :
    consumed ⟨⟨t, n⟩, p, lexeme⟩ = n := rfl

def track (s : Scan) (c : Char) : Scan := { s with position := s.position.advance c }

def take (s : Scan) (c : Char) : Scan := { s.track c with lexeme := s.lexeme.push c }

def takeNext (s : Scan) : Scan :=
  match s.cursor.advance with
  | (none, _) => s
  | (some c, cursor) => { s with cursor }.take c

@[simp] theorem takeNext_cons (c : Char) (rest : Text) (n : Nat) (p : Position)
    (lexeme : Array Char) :
    takeNext ⟨⟨c :: rest, n⟩, p, lexeme⟩ = ⟨⟨rest, n + 1⟩, p.advance c, lexeme.push c⟩ := rfl

theorem length_takeNext {s : Scan} {c : Char} (h : s.cursor.peek? 0 = some c) :
    s.takeNext.rest.length < s.rest.length := by
  obtain ⟨⟨rest, n⟩, p, lexeme⟩ := s
  cases rest with
  | nil => cases h
  | cons d rest => exact Nat.lt_succ_self _

def takeIf (s : Scan) (expected : Char) : Bool × Scan :=
  if s.cursor.peek? 0 = some expected then (true, s.takeNext) else (false, s)

def takeWhile (s : Scan) (keep : Char → Bool) : Scan :=
  match _next : s.cursor.peek? 0 with
  | none => s
  | some c => if keep c then s.takeNext.takeWhile keep else s
termination_by s.rest.length
decreasing_by exact length_takeNext _next

def skipLine (s : Scan) : Scan :=
  match _next : s.cursor.advance with
  | (none, _) => s
  | (some c, cursor) =>
    let s := { s with cursor }.track c
    if c = '\n' then s else s.skipLine
termination_by s.rest.length
decreasing_by exact Cursor.length_advance _next

theorem takeWhile_cons (keep : Char → Bool) (c : Char) (rest : Text) (n : Nat) (p : Position)
    (lexeme : Array Char) :
    takeWhile ⟨⟨c :: rest, n⟩, p, lexeme⟩ keep =
      if keep c then takeWhile ⟨⟨rest, n + 1⟩, p.advance c, lexeme.push c⟩ keep
      else ⟨⟨c :: rest, n⟩, p, lexeme⟩ := by
  rw [takeWhile]
  rfl

theorem takeWhile_eq (keep : Char → Bool) (rest : Text) (n : Nat) (p : Position)
    (lexeme : Array Char) :
    takeWhile ⟨⟨rest, n⟩, p, lexeme⟩ keep =
      ⟨⟨rest.dropWhile keep, n + (rest.takeWhile keep).length⟩, p.after (rest.takeWhile keep),
        lexeme ++ rest.takeWhile keep⟩ := by
  induction rest generalizing n p lexeme with
  | nil =>
    rw [takeWhile]
    simp [Cursor.peek?]
  | cons c rest ih =>
    rw [takeWhile_cons]
    cases h : keep c with
    | false => simp [h]
    | true =>
      rw [if_pos rfl, ih, List.dropWhile_cons_of_pos h, List.takeWhile_cons_of_pos h,
        List.length_cons, Position.after_cons, Nat.add_right_comm, Nat.add_assoc]
      simp

theorem skipLine_cons (c : Char) (rest : Text) (n : Nat) (p : Position) (lexeme : Array Char) :
    skipLine ⟨⟨c :: rest, n⟩, p, lexeme⟩ =
      if c = '\n' then ⟨⟨rest, n + 1⟩, p.advance c, lexeme⟩
      else skipLine ⟨⟨rest, n + 1⟩, p.advance c, lexeme⟩ := by
  rw [skipLine]
  rfl

theorem skipLine_eq (rest : Text) (n : Nat) (p : Position) (lexeme : Array Char) :
    skipLine ⟨⟨rest, n⟩, p, lexeme⟩ =
      ⟨⟨rest.splitLine.2, n + rest.splitLine.1.length⟩, p.after rest.splitLine.1, lexeme⟩ := by
  induction rest generalizing n p with
  | nil =>
    rw [skipLine]
    rfl
  | cons c rest ih =>
    rw [skipLine_cons, Text.splitLine]
    by_cases h : c = '\n'
    · simp [h]
    · rw [if_neg h, if_neg h, ih, List.length_cons, Position.after_cons, Nat.add_right_comm,
        Nat.add_assoc]

/-- Delivers the lexeme as a token, which begins a new lexeme. White space at the ends of a lexeme
would not belong to the token. -/
def emit (s : Scan) (kind : Kind) : Option Item × Scan :=
  let lexeme := Text.trim s.lexeme.toList
  (some (.token ⟨kind, lexeme, Literal.parse? lexeme, s.position⟩), { s with lexeme := #[] })

def operator (s : Scan) (o : Operator) (c : Char) : Option Item × Scan :=
  let (withEqual, s) := (s.take c).takeIf '='
  s.emit (.operator o withEqual)

def slash (s : Scan) (c : Char) : Option Item × Scan :=
  if s.cursor.peek? 0 = some '/' then (none, (s.track c).skipLine)
  else (s.take c).emit (.punctuator .slash)

def string (s : Scan) (quote : Char) : Option Item × Scan :=
  let s := (s.take quote).takeWhile (· ≠ '"')
  if s.cursor.atEnd then (some (.error ⟨s.position, s.lexeme.toList, .unterminatedString⟩), s)
  else s.takeNext.emit .string

def fraction (s : Scan) : Scan :=
  if s.cursor.peek? 0 = some '.' ∧ (s.cursor.peek? 1).any Char.isDigit then
    s.takeNext.takeWhile Char.isDigit
  else s

def number (s : Scan) (first : Char) : Option Item × Scan :=
  ((s.take first).takeWhile Char.isDigit).fraction.emit .number

def word (s : Scan) (first : Char) : Option Item × Scan :=
  let s := (s.take first).takeWhile isAlphanumeric
  s.emit (.ofWord s.lexeme.toList)

def dispatch (s : Scan) (c : Char) : Option Item × Scan :=
  match Lead.of c with
  | .punctuator p => (s.take c).emit (.punctuator p)
  | .operator o => s.operator o c
  | .slash => s.slash c
  | .quote => s.string c
  | .blank => (none, s.track c)
  | .digit => s.number c
  | .letter => s.word c
  | .stray => (some (.error ⟨s.position, [c], .unexpectedCharacter⟩), s)

def step (s : Scan) : Option Item × Scan :=
  match s.cursor.advance with
  | (none, _) => (none, s)
  | (some c, cursor) => { s with cursor }.dispatch c

@[simp] theorem rest_track (s : Scan) (c : Char) : (s.track c).rest = s.rest := rfl

@[simp] theorem rest_take (s : Scan) (c : Char) : (s.take c).rest = s.rest := rfl

@[simp] theorem rest_emit (s : Scan) (kind : Kind) : (s.emit kind).2.rest = s.rest := rfl

theorem length_takeNext_le (s : Scan) : s.takeNext.rest.length ≤ s.rest.length := by
  obtain ⟨⟨rest, n⟩, p, lexeme⟩ := s
  cases rest with
  | nil => exact Nat.le_refl _
  | cons c rest => simp

theorem length_takeWhile_le (s : Scan) (keep : Char → Bool) :
    (s.takeWhile keep).rest.length ≤ s.rest.length := by
  obtain ⟨⟨rest, n⟩, p, lexeme⟩ := s
  rw [takeWhile_eq]
  exact (List.dropWhile_sublist keep).length_le

theorem length_skipLine_le (s : Scan) : s.skipLine.rest.length ≤ s.rest.length := by
  obtain ⟨⟨rest, n⟩, p, lexeme⟩ := s
  rw [skipLine_eq]
  exact Text.length_splitLine_le rest

theorem length_dispatch_le (s : Scan) (c : Char) :
    (s.dispatch c).2.rest.length ≤ s.rest.length := by
  unfold dispatch
  split
  · simp
  · unfold operator takeIf
    split
    rename_i eq
    split at eq <;> cases eq
    · exact length_takeNext_le _
    · exact Nat.le_refl _
  · unfold slash
    split
    · exact length_skipLine_le _
    · simp
  · unfold string
    dsimp only
    split
    · exact length_takeWhile_le _ _
    · exact Nat.le_trans (length_takeNext_le _) (length_takeWhile_le _ _)
  · simp
  · unfold number fraction
    rw [rest_emit]
    split
    · exact Nat.le_trans (length_takeWhile_le _ _)
        (Nat.le_trans (length_takeNext_le _) (length_takeWhile_le _ _))
    · exact length_takeWhile_le _ _
  · exact length_takeWhile_le _ _
  · exact Nat.le_refl _

theorem length_step {s : Scan} (h : s.cursor.atEnd = false) :
    s.step.2.rest.length < s.rest.length := by
  obtain ⟨⟨rest, n⟩, p, lexeme⟩ := s
  cases rest with
  | nil => cases h
  | cons c rest => exact Nat.lt_succ_of_le (length_dispatch_le _ c)

def pull (s : Scan) : Option Item × Scan :=
  if _atEnd : s.cursor.atEnd then (none, s)
  else
    match _step : s.step with
    | (none, s') => s'.pull
    | (some item, s') => (some item, s')
termination_by s.rest.length
decreasing_by
  have := length_step (by simpa using _atEnd)
  rwa [_step] at this

theorem length_pull {s s' : Scan} {item : Item} (h : s.pull = (some item, s')) :
    s'.rest.length < s.rest.length := by
  fun_induction pull s with
  | case1 => cases h
  | case2 s atEnd next eq ih =>
    have := length_step (by simpa using atEnd)
    rw [eq] at this
    exact Nat.lt_trans (ih h) this
  | case3 s atEnd item' next eq =>
    have := length_step (by simpa using atEnd)
    cases h
    rwa [eq] at this

structure Drained where
  tokens : List Token
  error? : Option ScanError
  scan : Scan
deriving DecidableEq

def drain (s : Scan) : Drained :=
  match _pull : s.pull with
  | (none, s') => ⟨[], none, s'⟩
  | (some (.error e), s') => ⟨[], some e, s'⟩
  | (some (.token t), s') =>
    let after := s'.drain
    { after with tokens := t :: after.tokens }
termination_by s.rest.length
decreasing_by exact length_pull _pull

/-- The items of a drain that is left after `limit` of them. No more is read than they need. -/
def pulls (s : Scan) : Nat → List Item
  | 0 => []
  | limit + 1 =>
    match s.pull with
    | (none, _) => []
    | (some (.error e), _) => [.error e]
    | (some (.token t), s') => .token t :: s'.pulls limit

namespace Drained

def items (d : Drained) : List Item := d.tokens.map .token ++ (d.error?.map .error).toList

def result (d : Drained) : Except ScanError (List Token) :=
  match d.error? with
  | some e => .error e
  | none => .ok d.tokens

theorem result_eq_ok_iff {d : Drained} {tokens : List Token} :
    d.result = .ok tokens ↔ d.items = tokens.map .token := by
  obtain ⟨delivered, error?, scan⟩ := d
  cases error? with
  | none =>
    have inj : delivered.map Item.token = tokens.map Item.token ↔ delivered = tokens :=
      List.map_inj_right fun _ _ => Item.token.inj
    simp [result, items, inj]
  | some e =>
    have absent : Item.error e ∉ tokens.map Item.token := by simp
    constructor
    · intro h
      cases h
    · intro h
      exact absurd (h ▸ List.mem_append_right _ List.mem_cons_self) absent

end Drained
end Scan

def scan (source : Text) : Except ScanError (List Token) := (Scan.start source).drain.result

def scanResults (source : Text) : List Item := (Scan.start source).drain.items

def scanResultsUpTo (source : Text) (limit : Nat) : List Item := (Scan.start source).pulls limit

theorem scan_eq_ok_iff {source : Text} {tokens : List Token} :
    scan source = .ok tokens ↔ scanResults source = tokens.map .token :=
  Scan.Drained.result_eq_ok_iff

end LoxLexer
