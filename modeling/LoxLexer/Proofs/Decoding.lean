import LoxLexer.Text.Utf8

namespace LoxLexer.Utf8

/-- However a sequence goes on, it ends as the bytes of the character whose number it carries. -/
def Completes : Bytes → Nat → List (Nat × Nat) → Prop
  | read, bits, [] => read = String.utf8EncodeChar (Char.ofNat bits)
  | read, bits, (lo, hi) :: later => ∀ b : UInt8, lo ≤ b.toNat → b.toNat ≤ hi →
      Completes (read ++ [b]) (bits * 64 + (b.toNat - 0x80)) later

theorem encodeChar_ofNat {v : Nat} (valid : v.isValidChar) :
    String.utf8EncodeChar (Char.ofNat v) =
      if v ≤ 0x7f then [UInt8.ofNat v]
      else if v ≤ 0x7ff then [UInt8.ofNat (v / 64 % 32 + 192), UInt8.ofNat (v % 64 + 128)]
      else if v ≤ 0xffff then
        [UInt8.ofNat (v / 4096 % 16 + 224), UInt8.ofNat (v / 64 % 64 + 128),
          UInt8.ofNat (v % 64 + 128)]
      else
        [UInt8.ofNat (v / 262144 % 8 + 240), UInt8.ofNat (v / 4096 % 64 + 128),
          UInt8.ofNat (v / 64 % 64 + 128), UInt8.ofNat (v % 64 + 128)] := by
  have number : (Char.ofNat v).val.toNat = v := by
    rw [Char.ofNat, dif_pos valid]
    rfl
  rw [String.utf8EncodeChar, number]

theorem ofNat_eq {b : UInt8} {n : Nat} (h : n = b.toNat) : UInt8.ofNat n = b := by
  rw [h, UInt8.ofNat_toNat]

theorem completes_begin {b : UInt8} {bits : Nat} {following : List (Nat × Nat)}
    (h : begin? b.toNat = some (bits, following)) : Completes [b] bits following := by
  unfold begin? at h
  split at h
  · cases h
    rw [Completes, encodeChar_ofNat (.inl (by omega)), if_pos (by omega), UInt8.ofNat_toNat]
  split at h
  · cases h
  split at h
  · obtain ⟨rfl, rfl⟩ := Prod.mk.inj (Option.some.inj h)
    simp only [Completes, continuation]
    intro c lo hi
    generalize value : (b.toNat - 0xc0) * 64 + (c.toNat - 0x80) = v
    rw [encodeChar_ofNat (.inl (by omega)), if_neg (by omega), if_pos (by omega),
      ofNat_eq (b := b) (by omega), ofNat_eq (b := c) (by omega)]
    rfl
  split at h
  · obtain ⟨rfl, rfl⟩ := Prod.mk.inj (Option.some.inj h)
    simp only [Completes, continuation]
    intro c lo hi d lo' hi'
    generalize value : ((b.toNat - 0xe0) * 64 + (c.toNat - 0x80)) * 64 + (d.toNat - 0x80) = v
    -- The limits of the second byte keep the number long and off the surrogates.
    obtain ⟨long, valid, second⟩ :
        0x7ff < v ∧ v.isValidChar ∧ 0x80 ≤ c.toNat ∧ c.toNat ≤ 0xbf := by
      unfold Nat.isValidChar
      split at lo <;> split at hi <;> omega
    clear lo hi
    rw [encodeChar_ofNat valid, if_neg (by omega), if_neg (by omega), if_pos (by omega),
      ofNat_eq (b := b) (by omega), ofNat_eq (b := c) (by omega), ofNat_eq (b := d) (by omega)]
    rfl
  split at h
  · obtain ⟨rfl, rfl⟩ := Prod.mk.inj (Option.some.inj h)
    simp only [Completes, continuation]
    intro c lo hi d lo' hi' e lo'' hi''
    generalize value : (((b.toNat - 0xf0) * 64 + (c.toNat - 0x80)) * 64 + (d.toNat - 0x80)) * 64 +
      (e.toNat - 0x80) = v
    obtain ⟨long, last, second⟩ :
        0xffff < v ∧ v < 0x110000 ∧ 0x80 ≤ c.toNat ∧ c.toNat ≤ 0xbf := by
      split at lo <;> split at hi <;> omega
    clear lo hi
    rw [encodeChar_ofNat (.inr ⟨by omega, last⟩), if_neg (by omega), if_neg (by omega),
      if_neg (by omega), ofNat_eq (b := b) (by omega), ofNat_eq (b := c) (by omega),
      ofNat_eq (b := d) (by omega), ofNat_eq (b := e) (by omega)]
    rfl
  · cases h

def State.read : State → Bytes
  | .between => []
  | .within read _ _ _ => read

def State.Sound : State → Prop
  | .between => True
  | .within read bits next later => Completes read bits (next :: later)

theorem settle_sound {read : Bytes} {bits : Nat} {following : List (Nat × Nat)}
    (h : Completes read bits following) :
    (settle read bits following).2.Sound ∧ read =
      encode (settle read bits following).1.toList ++ (settle read bits following).2.read := by
  cases following with
  | nil =>
    rw [Completes] at h
    exact ⟨trivial, by simp [settle, encode, State.read, h]⟩
  | cons next later => exact ⟨h, rfl⟩

theorem step_ok {state next : State} {offset : Nat} {b : UInt8} {c? : Option Char}
    (sound : state.Sound) (h : state.step offset b = .ok (c?, next)) :
    next.Sound ∧ state.read ++ [b] = encode c?.toList ++ next.read := by
  cases state with
  | between =>
    rw [State.step] at h
    split at h
    · cases h
    · rename_i begins
      have settled := settle_sound (completes_begin begins)
      rwa [Except.ok.inj h] at settled
  | within read bits range later =>
    rw [State.step] at h
    split at h
    · rename_i inside
      have settled := settle_sound (sound b inside.1 inside.2)
      rwa [Except.ok.inj h] at settled
    · cases h

theorem step_error {state : State} {offset : Nat} {b : UInt8} {fault : Fault}
    (h : state.step offset b = .error fault) :
    fault.offset = offset - state.read.length ∧ fault.bytes <+: state.read ++ [b] := by
  cases state with
  | between =>
    rw [State.step] at h
    split at h
    · cases h
      exact ⟨rfl, List.prefix_refl _⟩
    · cases h
  | within read bits range later =>
    rw [State.step] at h
    split at h
    · cases h
    · cases h
      exact ⟨rfl, List.prefix_append _ _⟩

/-- The bytes before a fault are the bytes of a text, and the bad bytes stand right behind them. -/
def Breaks (bytes : Bytes) (fault : Fault) : Prop :=
  ∃ t rest, bytes = encode t ++ (fault.bytes ++ rest) ∧ fault.offset = (encode t).length

theorem encode_append (t u : Text) : encode (t ++ u) = encode t ++ encode u := List.flatMap_append

theorem decodeFrom_cons {state next : State} {offset : Nat} {b : UInt8} {c? : Option Char}
    (bytes : Bytes) (h : state.step offset b = .ok (c?, next)) :
    decodeFrom offset state (b :: bytes) =
      (decodeFrom (offset + 1) next bytes).map (c?.toList ++ ·) := by
  rw [decodeFrom, h]

theorem decodeFrom_cases {state : State} {offset : Nat} (bytes : Bytes) (sound : state.Sound)
    (le : state.read.length ≤ offset) :
    (∃ t, decodeFrom offset state bytes = .ok t ∧ state.read ++ bytes = encode t) ∨
    ∃ fault t rest, decodeFrom offset state bytes = .error fault ∧
      state.read ++ bytes = encode t ++ (fault.bytes ++ rest) ∧
      fault.offset + state.read.length = offset + (encode t).length := by
  induction bytes generalizing state offset with
  | nil =>
    cases state with
    | between => exact .inl ⟨[], rfl, rfl⟩
    | within read bits next later =>
      exact .inr ⟨_, [], [], rfl, rfl, Nat.sub_add_cancel le⟩
  | cons b bytes ih =>
    cases step : state.step offset b with
    | error fault =>
      obtain ⟨place, rest, bad⟩ := step_error step
      refine .inr ⟨fault, [], rest ++ bytes, by rw [decodeFrom, step], ?_, ?_⟩
      · rw [← List.singleton_append, ← List.append_assoc, ← bad]
        simp [encode]
      · rw [place]
        exact Nat.sub_add_cancel le
    | ok result =>
      obtain ⟨c?, next⟩ := result
      obtain ⟨sound', read⟩ := step_ok sound step
      have lengths := congrArg List.length read
      rw [List.length_append, List.length_append, List.length_singleton] at lengths
      have whole : state.read ++ b :: bytes = encode c?.toList ++ (next.read ++ bytes) := by
        rw [← List.append_assoc, ← read, List.append_assoc]
        rfl
      have le' : next.read.length ≤ offset + 1 := by omega
      rw [decodeFrom_cons bytes step, whole]
      rcases ih sound' le' with
        ⟨t, decoded, split⟩ | ⟨fault, t, rest, decoded, split, place⟩
      · exact .inl ⟨c?.toList ++ t, by rw [decoded]; rfl, by rw [split, encode_append]⟩
      · refine .inr ⟨fault, c?.toList ++ t, rest, by rw [decoded]; rfl, ?_, ?_⟩
        · rw [split, encode_append, List.append_assoc]
        · rw [encode_append, List.length_append]
          omega

theorem decode_cases (bytes : Bytes) :
    (∃ t, decode bytes = .ok t ∧ bytes = encode t) ∨
      ∃ fault, decode bytes = .error fault ∧ Breaks bytes fault := by
  have sound : State.between.Sound := trivial
  have le : State.between.read.length ≤ 0 := Nat.le_refl 0
  rcases decodeFrom_cases bytes sound le with
    decoded | ⟨fault, t, rest, decoded, split, place⟩
  · exact .inl decoded
  · exact .inr ⟨fault, decoded, t, rest, split, by simpa [State.read] using place⟩

theorem decode_eq_ok_iff {bytes : Bytes} {t : Text} : decode bytes = .ok t ↔ bytes = encode t := by
  constructor
  · intro decoded
    rcases decode_cases bytes with ⟨u, decoded', split⟩ | ⟨fault, failed, -⟩
    · rw [decoded] at decoded'
      rwa [Except.ok.inj decoded']
    · cases decoded.symm.trans failed
  · rintro rfl
    exact decode_encode t

theorem exists_fault_of_forall_ne {bytes : Bytes} (h : ∀ t, bytes ≠ encode t) :
    ∃ fault, decode bytes = .error fault ∧ Breaks bytes fault := by
  rcases decode_cases bytes with ⟨t, -, split⟩ | fault
  · exact absurd split (h t)
  · exact fault

end LoxLexer.Utf8
