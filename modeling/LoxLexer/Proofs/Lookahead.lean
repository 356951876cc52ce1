import LoxLexer.Proofs.Cuts

namespace LoxLexer

/-- How many characters behind a lexeme decide that it ends. -/
def lookahead : Option Kind → Text → Nat
  | some .number, w => if '.' ∈ w then 1 else 2
  | _, _ => 1

theorem lookahead_pos (k : Option Kind) (w : Text) : 0 < lookahead k w := by
  unfold lookahead
  repeat' split
  all_goals decide

theorem lookahead_le (k : Option Kind) (w : Text) : lookahead k w ≤ 2 := by
  unfold lookahead
  repeat' split
  all_goals decide

variable {k : Option Kind} {p : Position} {t u w rest rest' : Text} {tokens : List Token}

theorem take_eq_of_le {m n : Nat} (agree : rest.take n = rest'.take n) (h : m ≤ n) :
    rest.take m = rest'.take m := by
  have shorter := congrArg (List.take m) agree
  rwa [List.take_take, List.take_take, Nat.min_eq_left h] at shorter

theorem head?_eq_of_take {n : Nat} (agree : rest.take n = rest'.take n) (h : 0 < n) :
    rest.head? = rest'.head? := by
  have heads := congrArg List.head? agree
  rwa [List.head?_take, List.head?_take, if_neg h.ne', if_neg h.ne'] at heads

theorem take_append_eq {m n : Nat} (agree : rest.take n = rest'.take n) (v : Text)
    (h : m ≤ v.length + n) : (v ++ rest).take m = (v ++ rest').take m := by
  rw [List.take_append, List.take_append, take_eq_of_le agree (by omega)]

theorem exists_append_of_take {n : Nat} {v : Text} (agree : (v ++ rest).take n = t.take n)
    (h : v.length ≤ n) :
    ∃ rest', t = v ++ rest' ∧ rest.take (n - v.length) = rest'.take (n - v.length) := by
  refine ⟨t.drop v.length, ?_, ?_⟩
  · have beginning := take_eq_of_le agree h
    rw [List.take_left] at beginning
    calc t = t.take v.length ++ t.drop v.length := (List.take_append_drop _ _).symm
      _ = v ++ t.drop v.length := by rw [← beginning]
  · rw [← List.drop_take, ← agree, List.drop_take, List.drop_left]

theorem Ends.of_take (h : Ends k w rest)
    (agree : rest.take (lookahead k w) = rest'.take (lookahead k w)) : Ends k w rest' := by
  have heads := head?_eq_of_take agree (lookahead_pos k w)
  cases k with
  | none =>
    intro slash
    rcases h slash with closed | last
    · exact .inl closed
    · rw [last] at heads
      exact .inr (List.head?_eq_none_iff.1 heads.symm)
  | some kind =>
    cases kind with
    | number =>
      refine ⟨heads ▸ h.1, ?_⟩
      rintro whole d t rfl
      rw [lookahead, if_neg whole] at agree
      obtain ⟨t', same⟩ : ∃ t', rest = '.' :: d :: t' :=
        ⟨rest.drop 2, by rw [← List.take_append_drop 2 rest, agree]; simp⟩
      exact h.2 whole d t' same
    | identifier => exact fun c hc => h c (heads ▸ hc)
    | keyword k => exact fun c hc => h c (heads ▸ hc)
    | string => trivial
    | operator o withEqual =>
      cases withEqual with
      | false => exact fun head => h (heads.trans head)
      | true => trivial
    | punctuator p => cases p <;> first | exact fun head => h (heads.trans head) | trivial

theorem Stretch.of_take (h : Stretch rest p u tokens) (agree : rest.take 2 = rest'.take 2) :
    Stretch rest' p u tokens := by
  have further (k : Option Kind) (w v : Text) :
      (v ++ rest).take (lookahead k w) = (v ++ rest').take (lookahead k w) :=
    take_append_eq agree v (Nat.le_add_left_of_le (lookahead_le k w))
  induction h with
  | done => exact .done
  | skip lexeme ends _ ih => exact .skip lexeme (ends.of_take (further _ _ _)) ih
  | token lexeme ends _ ih => exact .token lexeme (ends.of_take (further _ _ _)) ih

theorem Cut.of_take {t : Token} {source : Text} (h : Cut p source u tokens t rest)
    (agree : rest.take (lookahead (some t.kind) t.lexeme) =
      rest'.take (lookahead (some t.kind) t.lexeme)) :
    Cut p (u ++ (t.lexeme ++ rest')) u tokens t rest' where
  split := rfl
  before := by
    have nonempty := List.length_pos_iff.2 h.lexeme.ne_nil
    have ahead := lookahead_pos (some t.kind) t.lexeme
    exact h.before.of_take (take_append_eq agree t.lexeme (by omega))
  lexeme := h.lexeme
  ends := h.ends.of_take agree
  literal := h.literal
  position := h.position

theorem Cut.scanResults {t : Token} {source : Text} (h : Cut .start source u tokens t rest) :
    (scanResults source)[tokens.length]? = some (.token t) := by
  have whole : source = (u ++ t.lexeme) ++ rest := by rw [h.split, List.append_assoc]
  rw [whole, scanResults_stretch h.stretch]
  simp

theorem filterMap_strayOffset? {passed : List (Item × Nat)}
    (h : passed.map Prod.fst = tokens.map .token) : passed.filterMap strayOffset? = [] := by
  rw [List.filterMap_eq_nil_iff]
  rintro ⟨item, n⟩ member
  have token : item ∈ tokens.map Item.token := h ▸ List.mem_map_of_mem member
  obtain ⟨t, -, rfl⟩ := List.mem_map.1 token
  rfl

theorem exists_stray {source : Text} {x : Nat}
    (h : x ∈ (Scan.start source).deliveries.filterMap strayOffset?) :
    ∃ u c cs tokens, source = u ++ c :: cs ∧ u.length = x ∧ Stretch (c :: cs) .start u tokens ∧
      Lead.of c = .stray := by
  obtain ⟨u, rest, tokens, rfl, before, stops⟩ := exists_stretch .start source
  obtain ⟨passed, same, items⟩ := before.deliveries 0
  change x ∈ (Scan.between 0 .start (u ++ rest)).deliveries.filterMap strayOffset? at h
  rw [same, List.filterMap_append, filterMap_strayOffset? items, List.nil_append,
    Nat.zero_add] at h
  cases stops with
  | done =>
    rw [Scan.deliveries_nil] at h
    cases h
  | stray lead =>
    rw [Scan.deliveries_stray lead] at h
    exact ⟨u, _, _, tokens, rfl, (List.mem_singleton.1 h).symm, before, lead⟩
  | openString unclosed =>
    rw [Scan.deliveries_openString unclosed] at h
    cases h

/-- Sources that agree on their first `n` characters deliver the same tokens as far as the lookahead
of the tokens stays within these characters, and the same error for one of these characters. -/
theorem scanResults_lookahead {s t : Text} {n : Nat} (agree : s.take n = t.take n) :
    (∀ (k : Nat) (token : Token) (e : Nat),
      (Scan.start s).deliveries[k]? = some (.token token, e) →
      e + lookahead (some token.kind) token.lexeme ≤ n →
        (scanResults t)[k]? = some (.token token)) ∧
    (∀ x ∈ (Scan.start s).deliveries.filterMap strayOffset?, x < n →
      scanResults t = scanResults s) := by
  constructor
  · intro k token e delivered le
    obtain ⟨u, tokens, rest, rfl, cut⟩ := exists_cut (scanResults_of_deliveries delivered)
    obtain rfl : e = (u ++ token.lexeme).length := by
      have known := (cut.deliveries 0).symm.trans delivered
      simpa using (congrArg Prod.snd (Option.some.inj known)).symm
    rw [cut.split, ← List.append_assoc] at agree
    obtain ⟨rest', rfl, ahead⟩ := exists_append_of_take agree (by omega)
    rw [List.append_assoc]
    exact (cut.of_take (take_eq_of_le ahead (by omega))).scanResults
  · intro x stray lt
    obtain ⟨u, c, cs, tokens, rfl, rfl, before, lead⟩ := exists_stray stray
    have unexpected := unexpected_stray before lead
    have extended := unexpected.extensions (t.drop (u.length + 1))
    rw [take_eq_of_le agree lt, List.take_append_drop] at extended
    rw [extended, unexpected.delivered]

theorem scanResults_lookahead_number :
    let s : Text := "=12.x\"".toList
    let t : Text := "=12.x1 //".toList
    let stray : Text := "a@\"".toList
    let number : Token := ⟨.number, "12".toList, Literal.parse? "12".toList, ⟨0, 3⟩⟩
    (s.take 5 = t.take 5 ∧ (Scan.start s).deliveries[1]? = some (.token number, 3) ∧
        3 + lookahead (some number.kind) number.lexeme ≤ 5 ∧
        (scanResults t)[1]? = some (.token number)) ∧
      stray.take 2 = "a@b".toList.take 2 ∧
        1 ∈ (Scan.start stray).deliveries.filterMap strayOffset? ∧ 1 < 2 ∧
        scanResults "a@b".toList = scanResults stray := by
  intro s t stray number
  have agree : s.take 5 = t.take 5 := by decide
  have agree' : stray.take 2 = "a@b".toList.take 2 := by decide
  have delivered : (Scan.start s).deliveries[1]? = some (.token number, 3) := by decide +kernel
  have reported : 1 ∈ (Scan.start stray).deliveries.filterMap strayOffset? := by decide +kernel
  exact ⟨⟨agree, delivered, by decide, (scanResults_lookahead agree).1 1 number 3 delivered
      (by decide)⟩, agree', reported, by decide,
    (scanResults_lookahead agree').2 1 reported (by decide)⟩

end LoxLexer
