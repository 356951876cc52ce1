import LoxLexer.Proofs.FirstError

namespace LoxLexer

def Position.lower (n : Nat) (p : Position) : Position := ⟨p.line + n, p.column⟩

def Item.mapPosition (f : Position → Position) : Item → Item
  | .token t => .token { t with position := f t.position }
  | .error e => .error { e with position := f e.position }

namespace Position

theorem lower_advance (n : Nat) (p : Position) (c : Char) :
    (p.advance c).lower n = (p.lower n).advance c := by
  by_cases h : c = '\n'
  · simp [advance, h, down, lower, Nat.add_right_comm]
  · simp [advance, h, right, lower]

theorem behind_line (t : Text) : behind (t ++ ['\n']) = start.lower (t.count '\n' + 1) := by
  simp [behind, start, lower]

end Position

section Moved

variable {f : Position → Position}

theorem after_moved (h : ∀ p c, f (p.advance c) = (f p).advance c) (p : Position) (t : Text) :
    f (p.after t) = (f p).after t := by
  induction t generalizing p with
  | nil => rfl
  | cons c t ih => rw [Position.after_cons, ih, h, Position.after_cons]

theorem Element.positionBehind_moved (h : ∀ p c, f (p.advance c) = (f p).advance c)
    (e : Element) (p : Position) : f (e.positionBehind p) = e.positionBehind (f p) := by
  cases e with
  | stray c => rfl
  | _ => exact after_moved h p _

theorem Element.item?_moved (e : Element) (p : Position) :
    e.item? (f p) = (e.item? p).map (Item.mapPosition f) := by
  cases e <;> rfl

theorem items_mapPosition (h : ∀ p c, f (p.advance c) = (f p).advance c) (p : Position)
    (es : List Element) : Element.items (f p) es = (Element.items p es).map (Item.mapPosition f) := by
  induction es generalizing p with
  | nil => rfl
  | cons e es ih =>
    rw [Element.items, Element.items, ← e.positionBehind_moved h, ih, e.item?_moved,
      List.map_append]
    cases e.item? (e.positionBehind p) <;> rfl

theorem Item.upToError_mapPosition (items : List Item) :
    upToError (items.map (mapPosition f)) = (upToError items).map (mapPosition f) := by
  induction items with
  | nil => rfl
  | cons item items ih =>
    cases item with
    | token t => exact congrArg _ ih
    | error e => rfl

theorem items_drain_moved (h : ∀ p c, f (p.advance c) = (f p).advance c) (n : Nat) (t : Text) :
    (Scan.between n (f .start) t).drain.items = (scanResults t).map (Item.mapPosition f) := by
  rw [Scan.items_drain fun _ => rfl, scanResults_eq, ← Item.upToError_mapPosition,
    ← items_mapPosition h]
  rfl

end Moved

def Token.placed (f : Position → Position) (t : Token) : Token :=
  { t with position := f t.position }

section Placed

variable {f : Position → Position} {p : Position} {rest u : Text} {tokens : List Token}

theorem after_placed (h : ∀ p : Position, f p.right = (f p).right) (single : '\n' ∉ u)
    (p : Position) : f (p.after u) = (f p).after u := by
  induction u generalizing p with
  | nil => rfl
  | cons c u ih =>
    rw [List.mem_cons, not_or] at single
    have along (p : Position) : p.advance c = p.right := if_neg (Ne.symm single.1)
    rw [Position.after_cons, ih single.2, along, h, Position.after_cons, along]

theorem Stretch.placed (h : Stretch rest p u tokens) (along : ∀ p : Position, f p.right = (f p).right)
    (single : '\n' ∉ u) : Stretch rest (f p) u (tokens.map (Token.placed f)) := by
  induction h with
  | done => exact .done
  | skip lexeme ends _ ih =>
    rw [List.mem_append, not_or] at single
    refine .skip lexeme ends ?_
    rw [← after_placed along single.1]
    exact ih single.2
  | @token p w u kind tokens lexeme ends _ ih =>
    rw [List.mem_append, not_or] at single
    have moved := after_placed along single.1 p
    have first : Token.placed f ⟨kind, w, Literal.parse? w, p.after w⟩ =
        ⟨kind, w, Literal.parse? w, (f p).after w⟩ := by rw [← moved]; rfl
    rw [List.map_cons, first]
    refine .token lexeme ends ?_
    rw [← moved]
    exact ih single.2

end Placed

theorem items_drain_lower (n k : Nat) (t : Text) :
    (Scan.between n (.lower k .start) t).drain.items =
      (scanResults t).map (Item.mapPosition (.lower k)) :=
  items_drain_moved (Position.lower_advance k) n t

/-- Behind a line feed a source delivers what it delivers alone, unless an error stands before. -/
theorem scanResults_line (p t : Text) :
    (∀ tokens, scan p = .ok tokens → scanResults (p ++ '\n' :: t) = tokens.map .token ++
      (scanResults t).map (Item.mapPosition (.lower (p.count '\n' + 1)))) ∧
    (∀ e, scan p = .error e → e.cause = .unexpectedCharacter →
      scanResults (p ++ '\n' :: t) = scanResults p) := by
  constructor
  · intro tokens scans
    have stretch := (scan_eq_ok_iff_reads.1 scans).line t
    rw [← List.singleton_append, ← List.append_assoc, scanResults_stretch stretch,
      Position.behind_line, items_drain_lower]
  · intro e failed cause
    obtain ⟨tokens, fault⟩ := exists_fault failed
    cases fault with
    | stray before lead =>
      have unexpected := unexpected_stray before lead
      rw [unexpected.scanResults_append, unexpected.delivered]
    | openString => cases cause

theorem scanResults_line_comment :
    let p : Text := "a\n=//\"".toList
    let stray : Text := "b\n@".toList
    let t : Text := "=\n\" ".toList
    let tokens : List Token :=
      [⟨.identifier, ['a'], none, ⟨0, 1⟩⟩, ⟨.operator .equal false, ['='], none, ⟨1, 1⟩⟩]
    let unexpected : ScanError := ⟨⟨1, 0⟩, ['@'], .unexpectedCharacter⟩
    scan p = .ok tokens ∧ scanResults (p ++ '\n' :: t) = tokens.map .token ++
        [.token ⟨.operator .equal false, ['='], none, ⟨2, 1⟩⟩,
          .error ⟨⟨3, 2⟩, "\" ".toList, .unterminatedString⟩] ∧
      scan stray = .error unexpected ∧
      scanResults (stray ++ '\n' :: t) =
        [.token ⟨.identifier, ['b'], none, ⟨0, 1⟩⟩, .error unexpected] := by
  intro p stray t tokens unexpected
  have scans : scan p = .ok tokens := by decide +kernel
  have fails : scan stray = .error unexpected := by decide +kernel
  refine ⟨scans, ?_, fails, ?_⟩
  · rw [(scanResults_line p t).1 tokens scans]
    decide +kernel
  · rw [(scanResults_line stray t).2 unexpected fails rfl]
    decide +kernel

end LoxLexer
