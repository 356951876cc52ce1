import LoxLexer.Text.Line
import LoxLexer.Text.Utf8

namespace LoxLexer

def blockSize : Nat := 8192

def blocks (bytes : Bytes) : List Bytes :=
  if bytes = [] then [] else bytes.take blockSize :: blocks (bytes.drop blockSize)
termination_by bytes.length
decreasing_by
  have some : 0 < bytes.length := List.length_pos_iff.2 (by assumption)
  rw [List.length_drop]
  exact Nat.sub_lt some (by decide)

/-- An input is read in blocks, and a block is decoded when a line needs it. `text` is what has been
decoded and is in no line yet. -/
structure Input where
  blocks : List Bytes
  state : Utf8.State
  held : Bool
  text : Text
deriving DecidableEq

/-- The lines of an input, `none` for an attempt that fails. An input that breaks off within a
character has no end: after these lines all attempts fail. -/
structure Readings where
  lines : List (Option Text)
  ends : Bool
deriving DecidableEq

def Readings.cons (line? : Option Text) (r : Readings) : Readings := ⟨line? :: r.lines, r.ends⟩

namespace Input

def ofBytes (bytes : Bytes) : Input := ⟨LoxLexer.blocks bytes, .between, false, []⟩

/-- The next line; at the end of the input it is empty. An attempt that fails loses the block that
cannot be decoded and what there is of the line before it, and the state stays what it was. -/
def readLine (input : Input) : Option Text × Input :=
  if '\n' ∈ input.text then
    (some input.text.splitLine.1, { input with text := input.text.splitLine.2 })
  else
    match _h : input.blocks with
    | [] =>
      if input.state = .between then
        (some (input.text ++ if input.held then ['\n'] else []),
          { input with held := false, text := [] })
      else (none, { input with text := [] })
    | block :: blocks =>
      match input.state.decode? block with
      | none => (none, { input with blocks, text := [] })
      | some (t, state) =>
        let (u, held) := t.lineFeeds input.held
        readLine ⟨blocks, state, held, input.text ++ u⟩
termination_by input.blocks.length
decreasing_by simp [_h]

def size (input : Input) : Nat × Nat :=
  (input.blocks.length, input.text.length + input.held.toNat)

theorem size_readLine {input rest : Input} {line? : Option Text}
    (read : input.readLine = (line?, rest)) (h : line? ≠ some []) :
    line? = none ∧ rest = input ∨ Prod.Lex (· < ·) (· < ·) rest.size input.size := by
  fun_induction readLine input with
  | case1 input feed =>
    cases read
    refine .inr (.right _ (Nat.add_lt_add_right ?_ _))
    exact Text.length_splitLine_lt (Text.splitLine_ne_nil (List.ne_nil_of_mem feed))
  | case2 input _ empty _ =>
    cases read
    have some : 0 < input.text.length + input.held.toNat := by
      cases held : input.held with
      | true => exact Nat.succ_pos _
      | false =>
        rw [held] at h
        exact List.length_pos_iff.2 fun none => h (by rw [none]; rfl)
    exact .inr (.right _ some)
  | case3 input _ empty _ =>
    cases read
    by_cases none : input.text = []
    · exact .inl ⟨rfl, by rw [← none]⟩
    · exact .inr (.right _ (Nat.add_lt_add_right (List.length_pos_iff.2 none) _))
  | case4 input _ block blocks split _ =>
    cases read
    refine .inr (.left _ _ ?_)
    rw [split]
    exact Nat.lt_succ_self _
  | case5 input _ block blocks split t state _ u held _ ih =>
    have shorter : blocks.length < input.blocks.length := by
      rw [split]
      exact Nat.lt_succ_self _
    rcases ih read with ⟨_, rfl⟩ | less
    · exact .inr (.left _ _ shorter)
    · refine .inr (.left _ _ ?_)
      rcases Prod.lex_def.1 less with fewer | ⟨same, _⟩
      · exact Nat.lt_trans fewer shorter
      · exact Nat.lt_of_le_of_lt (Nat.le_of_eq same) shorter

def readings (input : Input) : Readings :=
  match _read : input.readLine with
  | (some [], _) => ⟨[], true⟩
  | (some (c :: line), rest) => .cons (some (c :: line)) rest.readings
  | (none, rest) => if rest = input then ⟨[], false⟩ else .cons none rest.readings
termination_by input.size
decreasing_by
  · exact (size_readLine _read (by simp)).resolve_left fun h => nomatch h.1
  · exact (size_readLine _read (by simp)).resolve_left fun h => absurd h.2 (by assumption)

theorem readings_of_line {input rest : Input} {line : Text}
    (read : input.readLine = (some line, rest)) (h : line ≠ []) :
    input.readings = .cons (some line) rest.readings := by
  obtain ⟨c, line, rfl⟩ := List.exists_cons_of_ne_nil h
  rw [readings]
  split <;> rename_i read' <;> cases read.symm.trans read'
  rfl

theorem readings_of_end {input rest : Input} (read : input.readLine = (some [], rest)) :
    input.readings = ⟨[], true⟩ := by
  rw [readings]
  split <;> rename_i read' <;> cases read.symm.trans read'
  rfl

theorem readings_of_failure {input rest : Input} (read : input.readLine = (none, rest))
    (h : rest ≠ input) : input.readings = .cons none rest.readings := by
  rw [readings]
  split <;> rename_i read' <;> cases read.symm.trans read'
  rw [if_neg h]

end Input
end LoxLexer
