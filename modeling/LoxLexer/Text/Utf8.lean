import LoxLexer.Text.Basic

namespace LoxLexer

abbrev Bytes := List UInt8

namespace Utf8

def encode (t : Text) : Bytes := t.flatMap String.utf8EncodeChar

inductive Cause
  | invalidStart
  | invalidContinuation
  | unexpectedEnd
deriving DecidableEq, Repr

structure Fault where
  offset : Nat
  bytes : Bytes
  cause : Cause
deriving DecidableEq, Repr

def Cause.message : Cause → Text
  | .invalidStart => "invalid start byte".toList
  | .invalidContinuation => "invalid continuation byte".toList
  | .unexpectedEnd => "unexpected end of data".toList

def continuation : Nat × Nat := (0x80, 0xbf)

/-- The bits that a first byte carries and the ranges of the bytes that have to follow it. The
second byte is limited where a full range would admit a longer form than needed, a surrogate, or a
number above the last code point. -/
def begin? (b : Nat) : Option (Nat × List (Nat × Nat)) :=
  if b < 0x80 then some (b, [])
  else if b < 0xc2 then none
  else if b < 0xe0 then some (b - 0xc0, [continuation])
  else if b < 0xf0 then
    some (b - 0xe0, [(if b = 0xe0 then 0xa0 else 0x80, if b = 0xed then 0x9f else 0xbf),
      continuation])
  else if b < 0xf5 then
    some (b - 0xf0, [(if b = 0xf0 then 0x90 else 0x80, if b = 0xf4 then 0x8f else 0xbf),
      continuation, continuation])
  else none

/-- Where a reading stands: between two characters, or after some bytes of a sequence, which carry
the given bits, with the range of its next byte and of those after it. -/
inductive State
  | between
  | within (read : Bytes) (bits : Nat) (next : Nat × Nat) (later : List (Nat × Nat))
deriving DecidableEq, Repr

def settle (read : Bytes) (bits : Nat) : List (Nat × Nat) → Option Char × State
  | [] => (some (Char.ofNat bits), .between)
  | next :: later => (none, .within read bits next later)

def State.step (offset : Nat) (b : UInt8) : State → Except Fault (Option Char × State)
  | .between =>
    match begin? b.toNat with
    | none => .error ⟨offset, [b], .invalidStart⟩
    | some (bits, following) => .ok (settle [b] bits following)
  | .within read bits (lo, hi) later =>
    if lo ≤ b.toNat ∧ b.toNat ≤ hi then
      .ok (settle (read ++ [b]) (bits * 64 + (b.toNat - 0x80)) later)
    else .error ⟨offset - read.length, read, .invalidContinuation⟩

def decodeFrom (offset : Nat) (state : State) : Bytes → Except Fault Text
  | [] =>
    match state with
    | .between => .ok []
    | .within read _ _ _ => .error ⟨offset - read.length, read, .unexpectedEnd⟩
  | b :: bytes =>
    match state.step offset b with
    | .error fault => .error fault
    | .ok (c?, next) => (decodeFrom (offset + 1) next bytes).map (c?.toList ++ ·)

def decode (bytes : Bytes) : Except Fault Text := decodeFrom 0 .between bytes

/-- A surrogate is no character. At the end of a block the beginning of one is kept all the same,
and no byte goes on with it. -/
def State.keep? (b : UInt8) : State → Option State
  | .between => none
  | .within read _ _ _ =>
    if read = [0xed] ∧ 0xa0 ≤ b.toNat ∧ b.toNat ≤ 0xbf then
      some (.within (read ++ [b]) 0 (0x100, 0x100) [])
    else none

def State.decode? : State → Bytes → Option (Text × State)
  | state, [] => some ([], state)
  | state, b :: bytes =>
    match state.step 0 b with
    | .error _ => if bytes = [] then (state.keep? b).map fun kept => ([], kept) else none
    | .ok (c?, next) => (next.decode? bytes).map fun (t, last) => (c?.toList ++ t, last)

theorem step_between {offset : Nat} {n bits : Nat} {following : List (Nat × Nat)} (hn : n < 256)
    (h : begin? n = some (bits, following)) :
    State.step offset (UInt8.ofNat n) .between = .ok (settle [UInt8.ofNat n] bits following) := by
  have : (UInt8.ofNat n).toNat = n := by simp; omega
  simp [State.step, this, h]

theorem step_within {offset : Nat} {n bits lo hi : Nat} {read : Bytes} {later : List (Nat × Nat)}
    (hn : n < 256) (h : lo ≤ n ∧ n ≤ hi) :
    State.step offset (UInt8.ofNat n) (.within read bits (lo, hi) later) =
      .ok (settle (read ++ [UInt8.ofNat n]) (bits * 64 + (n - 0x80)) later) := by
  have : (UInt8.ofNat n).toNat = n := by simp; omega
  simp only [State.step, this, if_pos h]

theorem decodeFrom_some {offset : Nat} {b : UInt8} {c : Char} {state next : State} {bytes : Bytes}
    (h : state.step offset b = .ok (some c, next)) :
    decodeFrom offset state (b :: bytes) =
      (decodeFrom (offset + 1) next bytes).map (c :: ·) := by
  simp only [decodeFrom, h]
  rfl

theorem decodeFrom_none {offset : Nat} {b : UInt8} {state next : State} {bytes : Bytes}
    (h : state.step offset b = .ok (none, next)) :
    decodeFrom offset state (b :: bytes) = decodeFrom (offset + 1) next bytes := by
  simp only [decodeFrom, h]
  cases decodeFrom (offset + 1) next bytes <;> rfl

theorem decodeFrom_encodeChar (offset : Nat) (c : Char) (bytes : Bytes) :
    decodeFrom offset .between (String.utf8EncodeChar c ++ bytes) =
      (decodeFrom (offset + (String.utf8EncodeChar c).length) .between bytes).map (c :: ·) := by
  have scalar : c.val.toNat < 0xd800 ∨ 0xdfff < c.val.toNat ∧ c.val.toNat < 0x110000 := c.valid
  have back : Char.ofNat c.val.toNat = c := Char.ofNat_toNat c
  unfold String.utf8EncodeChar
  generalize c.val.toNat = v at scalar back
  dsimp only
  split
  · have first : begin? v = some (v, []) := by unfold begin?; rw [if_pos (by omega)]
    exact (decodeFrom_some (step_between (by omega) first)).trans (by rw [back]; rfl)
  split
  · have first : begin? (v / 64 % 32 + 192) = some (v / 64, [continuation]) := by
      unfold begin?
      rw [if_neg (by omega), if_neg (by omega), if_pos (by omega)]
      simp only [Option.some.injEq, Prod.mk.injEq, and_true]
      omega
    refine (decodeFrom_none (step_between (by omega) first)).trans ?_
    refine (decodeFrom_some (step_within (by omega) ⟨by omega, by omega⟩)).trans ?_
    rw [show v / 64 * 64 + (v % 64 + 128 - 0x80) = v by omega, back]
    rfl
  split
  · have first : begin? (v / 4096 % 16 + 224) = some (v / 4096,
        [(if v / 4096 = 0 then 0xa0 else 0x80, if v / 4096 = 13 then 0x9f else 0xbf),
          continuation]) := by
      unfold begin?
      rw [if_neg (by omega), if_neg (by omega), if_neg (by omega), if_pos (by omega)]
      simp only [Option.some.injEq, Prod.mk.injEq, List.cons.injEq, and_true]
      refine ⟨by omega, ?_, ?_⟩ <;> split <;> split <;> omega
    refine (decodeFrom_none (step_between (by omega) first)).trans ?_
    refine (decodeFrom_none (step_within (by omega) ⟨?_, ?_⟩)).trans ?_
    · split <;> omega
    · split <;> omega
    refine (decodeFrom_some (step_within (by omega) ⟨by omega, by omega⟩)).trans ?_
    rw [show (v / 4096 * 64 + (v / 64 % 64 + 128 - 0x80)) * 64 + (v % 64 + 128 - 0x80) = v by omega,
      back]
    rfl
  · have first : begin? (v / 262144 % 8 + 240) = some (v / 262144,
        [(if v / 262144 = 0 then 0x90 else 0x80, if v / 262144 = 4 then 0x8f else 0xbf),
          continuation, continuation]) := by
      unfold begin?
      rw [if_neg (by omega), if_neg (by omega), if_neg (by omega), if_neg (by omega),
        if_pos (by omega)]
      simp only [Option.some.injEq, Prod.mk.injEq, List.cons.injEq, and_true]
      refine ⟨by omega, ?_, ?_⟩ <;> split <;> split <;> omega
    refine (decodeFrom_none (step_between (by omega) first)).trans ?_
    refine (decodeFrom_none (step_within (by omega) ⟨?_, ?_⟩)).trans ?_
    · split <;> omega
    · split <;> omega
    refine (decodeFrom_none (step_within (by omega) ⟨by omega, by omega⟩)).trans ?_
    refine (decodeFrom_some (step_within (by omega) ⟨by omega, by omega⟩)).trans ?_
    rw [show ((v / 262144 * 64 + (v / 4096 % 64 + 128 - 0x80)) * 64 + (v / 64 % 64 + 128 - 0x80)) *
      64 + (v % 64 + 128 - 0x80) = v by omega, back]
    rfl

theorem decodeFrom_encode (offset : Nat) (t : Text) :
    decodeFrom offset .between (encode t) = .ok t := by
  induction t generalizing offset with
  | nil => rfl
  | cons c t ih =>
    rw [encode, List.flatMap_cons, decodeFrom_encodeChar]
    exact congrArg (Except.map (c :: ·)) (ih _)

theorem decode_encode (t : Text) : decode (encode t) = .ok t := decodeFrom_encode 0 t

end Utf8
end LoxLexer
