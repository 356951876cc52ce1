import LoxLexer.Console.Input
import LoxLexer.Proofs.Decoding

/-!
# Input in blocks

An input that is UTF-8 is read as it would be in one piece, wherever its blocks end: a character or
a line end may begin in one block and end in another.
-/

namespace LoxLexer

namespace Utf8

theorem step_ok_of_step {state : State} {b : UInt8} {result : Option Char × State}
    {offset : Nat} (offset' : Nat) (h : state.step offset b = .ok result) :
    state.step offset' b = .ok result := by
  cases state with
  | between =>
    rw [State.step] at h ⊢
    split at h <;> cases h
    rfl
  | within read bits range later =>
    rw [State.step] at h ⊢
    split at h <;> cases h
    rw [if_pos (by assumption)]

theorem decode?_cons_of_ok {state next : State} {b : UInt8} {c? : Option Char}
    (bytes : Bytes) (h : state.step 0 b = .ok (c?, next)) :
    state.decode? (b :: bytes) =
      (next.decode? bytes).map fun (t, last) => (c?.toList ++ t, last) := by
  rw [State.decode?, h]

theorem exists_of_keep {state kept : State} {b : UInt8} (h : state.keep? b = some kept) :
    0xa0 ≤ b.toNat ∧ kept = .within [0xed, b] 0 (0x100, 0x100) [] := by
  cases state with
  | between => cases h
  | within read bits next later =>
    rw [State.keep?] at h
    split at h
    · rename_i surrogate
      obtain ⟨rfl, low, -⟩ := surrogate
      exact ⟨low, (Option.some.inj h).symm⟩
    · cases h

theorem decode?_kept {state kept : State} {b : UInt8} (h : state.keep? b = some kept)
    (b' : UInt8) (bytes : Bytes) : kept.decode? (b' :: bytes) = none := by
  obtain ⟨-, rfl⟩ := exists_of_keep h
  have above : ¬ (0x100 ≤ b'.toNat ∧ b'.toNat ≤ 0x100) := by
    have := b'.toNat_lt
    omega
  have complete : State.keep? b' (.within [0xed, b] 0 (0x100, 0x100) []) = none := by
    rw [State.keep?, if_neg]
    simp
  simp only [State.decode?, State.step, if_neg above, complete, Option.map_none, ite_self]

theorem decode?_append (state : State) (bs bs' : Bytes) :
    state.decode? (bs ++ bs') = (state.decode? bs).bind fun (t, next) =>
      (next.decode? bs').map fun (u, last) => (t ++ u, last) := by
  induction bs generalizing state with
  | nil => cases h : state.decode? bs' <;> simp [State.decode?, h]
  | cons b bs ih =>
    rw [List.cons_append, State.decode?, State.decode?]
    cases state.step 0 b with
    | error fault =>
      match bs, bs' with
      | [], [] => cases state.keep? b <;> rfl
      | [], b' :: bs' =>
        cases kept : state.keep? b with
        | none => rfl
        | some next => simp [decode?_kept kept]
      | _ :: _, _ => rfl
    | ok result =>
      obtain ⟨c?, next⟩ := result
      simp only [ih, Option.map_bind, Option.bind_map]
      cases next.decode? bs with
      | none => rfl
      | some read =>
        obtain ⟨t, state⟩ := read
        simp [Function.comp_def]

theorem decode?_of_decodeFrom {offset : Nat} {state : State} {bytes : Bytes} {t : Text}
    (h : decodeFrom offset state bytes = .ok t) : state.decode? bytes = some (t, .between) := by
  induction bytes generalizing offset state t with
  | nil =>
    cases state with
    | between =>
      cases h
      rfl
    | within => cases h
  | cons b bytes ih =>
    rw [decodeFrom] at h
    split at h
    · cases h
    · rename_i c? next step
      obtain ⟨u, others, rfl⟩ : ∃ u, decodeFrom (offset + 1) next bytes = .ok u ∧
          c?.toList ++ u = t := by
        cases others : decodeFrom (offset + 1) next bytes with
        | error fault => rw [others] at h; cases h
        | ok u => exact ⟨u, rfl, by rw [others] at h; exact Except.ok.inj h⟩
      rw [decode?_cons_of_ok bytes (step_ok_of_step 0 step), ih others]
      rfl

theorem decodeFrom_of_decode? {state : State} {bytes : Bytes} {t : Text} (offset : Nat)
    (h : state.decode? bytes = some (t, .between)) : decodeFrom offset state bytes = .ok t := by
  induction bytes generalizing offset state t with
  | nil =>
    rw [State.decode?] at h
    cases h
    rfl
  | cons b bytes ih =>
    rw [State.decode?] at h
    split at h
    · split at h
      · obtain ⟨kept, keep, same⟩ := Option.map_eq_some_iff.1 h
        cases (exists_of_keep keep).2.symm.trans (congrArg Prod.snd same)
      · cases h
    · rename_i c? next step
      obtain ⟨⟨u, last⟩, others, same⟩ := Option.map_eq_some_iff.1 h
      cases same
      rw [decodeFrom_cons bytes (step_ok_of_step offset step), ih _ others]
      rfl

theorem decode?_encode (t : Text) : State.between.decode? (encode t) = some (t, .between) :=
  decode?_of_decodeFrom (decodeFrom_encode 0 t)

-- A byte below 128 is a character of its own, and no sequence waits for it.
def State.Waits : State → Prop
  | .between => True
  | .within _ _ next later => ∀ range ∈ next :: later, 0x80 ≤ range.1

theorem waits_settle {read : Bytes} {bits : Nat} {following : List (Nat × Nat)}
    (h : ∀ range ∈ following, 0x80 ≤ range.1) : (settle read bits following).2.Waits := by
  cases following with
  | nil => trivial
  | cons next later => exact h

theorem le_of_begin {n bits : Nat} {following : List (Nat × Nat)}
    (h : begin? n = some (bits, following)) : ∀ range ∈ following, 0x80 ≤ range.1 := by
  have later {lo hi : Nat} (le : 0x80 ≤ lo) (others : List (Nat × Nat))
      (same : ∀ range ∈ others, range = continuation) :
      ∀ range ∈ (lo, hi) :: others, 0x80 ≤ range.1 :=
    List.forall_mem_cons.2 ⟨le, fun range member => Nat.le_of_eq (by rw [same range member]; rfl)⟩
  unfold begin? at h
  split at h
  · obtain ⟨-, rfl⟩ := Prod.mk.inj (Option.some.inj h)
    exact fun _ none => absurd none List.not_mem_nil
  split at h
  · cases h
  split at h
  · obtain ⟨-, rfl⟩ := Prod.mk.inj (Option.some.inj h)
    exact later (Nat.le_refl _) [] (by simp)
  split at h
  · obtain ⟨-, rfl⟩ := Prod.mk.inj (Option.some.inj h)
    exact later (by split <;> decide) [continuation] (by simp)
  split at h
  · obtain ⟨-, rfl⟩ := Prod.mk.inj (Option.some.inj h)
    exact later (by split <;> decide) [continuation, continuation] (by simp)
  · cases h

theorem waits_step {state next : State} {offset : Nat} {b : UInt8} {c? : Option Char}
    (waits : state.Waits) (h : state.step offset b = .ok (c?, next)) :
    next.Waits ∧ (b.toNat < 0x80 → next = .between) := by
  cases state with
  | between =>
    rw [State.step] at h
    split at h
    · cases h
    · rename_i bits following begins
      have next_eq := congrArg Prod.snd (Except.ok.inj h)
      dsimp only at next_eq
      rw [← next_eq]
      refine ⟨waits_settle (le_of_begin begins), fun low => ?_⟩
      unfold begin? at begins
      rw [if_pos low] at begins
      cases begins
      rfl
  | within read bits range later =>
    rw [State.step] at h
    split at h
    · rename_i inside
      have next_eq := congrArg Prod.snd (Except.ok.inj h)
      dsimp only at next_eq
      rw [← next_eq]
      refine ⟨waits_settle fun range member => waits range (List.mem_cons_of_mem _ member), ?_⟩
      intro low
      have := waits range List.mem_cons_self
      omega
    · cases h

theorem decode?_low {state last : State} {bytes : Bytes} {b : UInt8} {t : Text}
    (waits : state.Waits) (low : b.toNat < 0x80)
    (h : state.decode? (bytes ++ [b]) = some (t, last)) : last = .between := by
  induction bytes generalizing state t with
  | nil =>
    rw [List.nil_append, State.decode?] at h
    split at h
    · obtain ⟨kept, keep, -⟩ := Option.map_eq_some_iff.1 h
      exact absurd low (by have := (exists_of_keep keep).1; omega)
    · rename_i step
      cases h
      exact (waits_step waits step).2 low
  | cons b' bytes ih =>
    rw [List.cons_append, State.decode?] at h
    split at h
    · rw [if_neg (by simp)] at h
      cases h
    · rename_i step
      obtain ⟨⟨u, last'⟩, others, same⟩ := Option.map_eq_some_iff.1 h
      cases same
      exact ih (waits_step waits step).1 others

theorem decode?_eq_none {bytes : Bytes} (h : ∀ t, bytes ++ [10] ≠ encode t) :
    State.between.decode? (bytes ++ [10]) = none := by
  rw [Option.eq_none_iff_forall_ne_some]
  rintro ⟨t, last⟩ decoded
  have waits : State.between.Waits := trivial
  obtain rfl := decode?_low waits (by decide) decoded
  exact h t (decode_eq_ok_iff.1 (decodeFrom_of_decode? 0 decoded))

end Utf8

namespace Text

def carriage (held : Bool) : Text := if held then ['\r'] else []

theorem withLineFeeds_other {c : Char} (h : c ≠ '\r') (t : Text) :
    withLineFeeds (c :: t) = c :: withLineFeeds t := by
  rw [withLineFeeds]
  · exact fun u same => absurd same h
  · exact h

theorem withLineFeeds_return {c : Char} (h : c ≠ '\n') (t : Text) :
    withLineFeeds ('\r' :: c :: t) = '\n' :: withLineFeeds (c :: t) := by
  rw [withLineFeeds]
  exact fun u same => h (List.cons.inj same).1

theorem withLineFeeds_carriage (held : Bool) (t u : Text) :
    withLineFeeds (carriage held ++ (t ++ u)) =
      (lineFeeds held t).1 ++ withLineFeeds (carriage (lineFeeds held t).2 ++ u) := by
  induction t generalizing held with
  | nil => rfl
  | cons c t ih =>
    have behind := ih (c = '\r')
    rw [lineFeeds]
    by_cases isReturn : c = '\r'
    · subst isReturn
      cases held with
      | false => simpa [carriage] using behind
      | true => simpa [carriage, withLineFeeds_return] using behind
    · have later : withLineFeeds (t ++ u) =
          (lineFeeds false t).1 ++ withLineFeeds (carriage (lineFeeds false t).2 ++ u) := by
        simpa [isReturn, carriage] using behind
      cases held with
      | false => simp [carriage, isReturn, withLineFeeds_other isReturn, later]
      | true =>
        by_cases feed : c = '\n'
        · subst feed
          simp [carriage, withLineFeeds, later]
        · simp [carriage, isReturn, feed, withLineFeeds_return feed, withLineFeeds_other isReturn,
            later]

theorem splitLine_append_of_mem {t : Text} (h : '\n' ∈ t) (u : Text) :
    splitLine (t ++ u) = ((splitLine t).1, (splitLine t).2 ++ u) := by
  induction t with
  | nil => cases h
  | cons c t ih =>
    rw [List.cons_append, splitLine, splitLine]
    by_cases feed : c = '\n'
    · rw [if_pos feed, if_pos feed]
    · rw [if_neg feed, if_neg feed, ih ((List.mem_cons.1 h).resolve_left (Ne.symm feed))]

theorem splitLine_last {t : Text} (h : '\n' ∉ t) (held : Bool) :
    splitLine (t ++ withLineFeeds (carriage held)) = (t ++ if held then ['\n'] else [], []) := by
  induction t with
  | nil => cases held <;> rfl
  | cons c t ih =>
    rw [List.mem_cons, not_or] at h
    rw [List.cons_append, splitLine, if_neg (Ne.symm h.1), ih h.2]
    rfl

end Text

theorem flatten_blocks (bytes : Bytes) : (blocks bytes).flatten = bytes := by
  fun_induction blocks bytes with
  | case1 => rfl
  | case2 bytes _ ih => rw [List.flatten_cons, ih, List.take_append_drop]

theorem blocks_of_le {bytes : Bytes} (some : bytes ≠ []) (h : bytes.length ≤ blockSize) :
    blocks bytes = [bytes] := by
  rw [blocks, if_neg some, List.take_of_length_le h, List.drop_of_length_le h, blocks, if_pos rfl]

namespace Input

-- What is still to be read: a carriage return that is held back comes before the next block.
def Holds (input : Input) (t : Text) : Prop :=
  ∃ u, input.state.decode? input.blocks.flatten = some (u, .between) ∧
    t = input.text ++ (Text.carriage input.held ++ u).withLineFeeds

theorem holds_ofBytes (t : Text) : (ofBytes (Utf8.encode t)).Holds t.withLineFeeds := by
  refine ⟨t, ?_, rfl⟩
  rw [ofBytes, flatten_blocks]
  exact Utf8.decode?_encode t

theorem readLine_of_holds {input : Input} {t : Text} (h : input.Holds t) :
    ∃ rest, input.readLine = (some t.splitLine.1, rest) ∧ rest.Holds t.splitLine.2 := by
  obtain ⟨u, decoded, rfl⟩ := h
  fun_induction readLine input generalizing u with
  | case1 input feed =>
    rw [Text.splitLine_append_of_mem feed]
    exact ⟨_, rfl, u, decoded, rfl⟩
  | case2 input noFeed empty between =>
    rw [empty, between] at decoded
    cases decoded
    rw [List.append_nil, Text.splitLine_last noFeed]
    exact ⟨_, rfl, [], by rw [empty, between]; rfl, rfl⟩
  | case3 input noFeed empty within =>
    rw [empty] at decoded
    exact absurd (congrArg Prod.snd (Option.some.inj decoded)) within
  | case4 input noFeed block blocks split failed =>
    rw [split, List.flatten_cons, Utf8.decode?_append, failed] at decoded
    cases decoded
  | case5 input noFeed block blocks split v state first fed held fed_eq ih =>
    rw [split, List.flatten_cons, Utf8.decode?_append, first] at decoded
    obtain ⟨⟨u', last⟩, others, same⟩ := Option.map_eq_some_iff.1 decoded
    cases same
    rw [Text.withLineFeeds_carriage, fed_eq, ← List.append_assoc]
    exact ih u' others

theorem readings_of_holds {input : Input} {t : Text} (h : input.Holds t) :
    input.readings = ⟨t.lines.map some, true⟩ := by
  generalize split : t.lines = ls
  induction ls generalizing input t with
  | nil =>
    obtain ⟨rest, read, -⟩ := readLine_of_holds h
    rw [Text.eq_nil_of_lines split] at read
    exact readings_of_end read
  | cons l ls ih =>
    obtain ⟨some, rfl, behind⟩ := Text.split_of_lines split
    obtain ⟨rest, read, holds⟩ := readLine_of_holds h
    rw [readings_of_line read (Text.splitLine_ne_nil some), ih holds behind]
    rfl

theorem readings_of_undecodable {bytes : Bytes} (some : bytes ≠ [])
    (short : bytes.length ≤ blockSize) (h : Utf8.State.between.decode? bytes = none) :
    (ofBytes bytes).readings = ⟨[none], true⟩ := by
  have lost : (ofBytes bytes).readLine = (none, ⟨[], .between, false, []⟩) := by
    rw [ofBytes, blocks_of_le some short, readLine]
    simp only [List.not_mem_nil, if_false, h]
  have last : readLine ⟨[], .between, false, []⟩ = (.some [], ⟨[], .between, false, []⟩) := by
    rw [readLine]
    rfl
  rw [readings_of_failure lost (by simp [ofBytes, blocks_of_le some short]), readings_of_end last]
  rfl

end Input
end LoxLexer
