import LoxLexer.Proofs.Bookkeeping
import LoxLexer.Proofs.LineEnds

namespace LoxLexer

def Position.plus (p q : Position) : Position :=
  if q.line = 0 then ⟨p.line, p.column + q.column⟩ else ⟨p.line + q.line, q.column⟩

theorem Position.plus_advance (p q : Position) (c : Char) :
    p.plus (q.advance c) = (p.plus q).advance c := by
  by_cases feed : c = '\n' <;> by_cases first : q.line = 0 <;>
    simp [plus, advance, feed, first, down, right, Nat.add_assoc]

variable {rest u w : Text} {p : Position} {tokens : List Token} {t : Token} {n k : Nat}

namespace Scan

theorem deliveries_eq (s : Scan) : s.deliveries = match s.pull with
    | (none, _) => []
    | (some (.error e), s') => [(.error e, s'.consumed)]
    | (some (.token t), s') => (.token t, s'.consumed) :: s'.deliveries := by
  rw [deliveries]
  split <;> rename_i h <;> rw [h]

theorem deliveries_skip (lexeme : Lexeme none w) (ends : Ends none w rest) :
    (between n p (w ++ rest)).deliveries =
      (between (n + w.length) (p.after w) rest).deliveries := by
  rw [deliveries_eq, pull_skip lexeme ends, ← deliveries_eq]

theorem deliveries_token {kind : Kind} (lexeme : Lexeme (some kind) w)
    (ends : Ends (some kind) w rest) :
    (between n p (w ++ rest)).deliveries =
      (.token ⟨kind, w, Literal.parse? w, p.after w⟩, n + w.length) ::
        (between (n + w.length) (p.after w) rest).deliveries := by
  rw [deliveries_eq, pull_token lexeme ends]
  rfl

theorem deliveries_nil : (between n p []).deliveries = [] := by
  rw [deliveries_eq, pull_nil]

theorem deliveries_stray {c : Char} (h : Lead.of c = .stray) :
    (between n p (c :: rest)).deliveries =
      [(.error ⟨p, [c], .unexpectedCharacter⟩, n + 1)] := by
  rw [deliveries_eq, pull_stray h]
  rfl

theorem deliveries_openString {payload : Text} (h : '"' ∉ payload) :
    (between n p ('"' :: payload)).deliveries =
      [(.error ⟨p.after ('"' :: payload), '"' :: payload, .unterminatedString⟩,
        n + (payload.length + 1))] := by
  rw [deliveries_eq, pull_openString h]
  rfl

end Scan

theorem Stretch.deliveries (h : Stretch rest p u tokens) (n : Nat) :
    ∃ passed, (Scan.between n p (u ++ rest)).deliveries =
        passed ++ (Scan.between (n + u.length) (p.after u) rest).deliveries ∧
      passed.map Prod.fst = tokens.map .token := by
  induction h generalizing n with
  | done => exact ⟨[], rfl, rfl⟩
  | @skip p w v tokens lexeme ends _ ih =>
    obtain ⟨passed, same, items⟩ := ih (n + w.length)
    refine ⟨passed, ?_, items⟩
    rw [List.append_assoc, Scan.deliveries_skip lexeme ends, same, Position.after_append,
      List.length_append, Nat.add_assoc]
  | @token p w v kind tokens lexeme ends _ ih =>
    obtain ⟨passed, same, items⟩ := ih (n + w.length)
    refine ⟨(.token ⟨kind, w, Literal.parse? w, p.after w⟩, n + w.length) :: passed, ?_, ?_⟩
    · rw [List.append_assoc, Scan.deliveries_token lexeme ends, same, Position.after_append,
        List.length_append, Nat.add_assoc]
      rfl
    · rw [List.map_cons, items, List.map_cons]

/-- A token of a text that begins at `p`: it stands behind `u`, which has some tokens, and before
`rest`. -/
structure Cut (p : Position) (source u : Text) (tokens : List Token) (t : Token) (rest : Text) :
    Prop where
  split : source = u ++ (t.lexeme ++ rest)
  before : Stretch (t.lexeme ++ rest) p u tokens
  lexeme : Lexeme (some t.kind) t.lexeme
  ends : Ends (some t.kind) t.lexeme rest
  literal : t.literal? = Literal.parse? t.lexeme
  position : t.position = (p.after u).after t.lexeme

namespace Cut

variable {source : Text}

theorem skip (h : Cut (p.after w) source u tokens t rest) (lexeme : Lexeme none w)
    (ends : Ends none w source) : Cut p (w ++ source) (w ++ u) tokens t rest where
  split := by rw [h.split, List.append_assoc]
  before := .skip lexeme (h.split ▸ ends) h.before
  lexeme := h.lexeme
  ends := h.ends
  literal := h.literal
  position := by rw [Position.after_append, h.position]

theorem token {kind : Kind} (h : Cut (p.after w) source u tokens t rest)
    (lexeme : Lexeme (some kind) w) (ends : Ends (some kind) w source) :
    Cut p (w ++ source) (w ++ u) (⟨kind, w, Literal.parse? w, p.after w⟩ :: tokens) t rest where
  split := by rw [h.split, List.append_assoc]
  before := .token lexeme (h.split ▸ ends) h.before
  lexeme := h.lexeme
  ends := h.ends
  literal := h.literal
  position := by rw [Position.after_append, h.position]

theorem token_eq (h : Cut p source u tokens t rest) :
    t = ⟨t.kind, t.lexeme, Literal.parse? t.lexeme, (p.after u).after t.lexeme⟩ := by
  rw [← h.literal, ← h.position]

theorem stretch (h : Cut p source u tokens t rest) :
    Stretch rest p (u ++ t.lexeme) (tokens ++ [t]) := by
  have last : Stretch rest (p.after u) (t.lexeme ++ []) [t] := by
    rw [h.token_eq]
    exact .token h.lexeme h.ends .done
  rw [List.append_nil] at last
  exact h.before.append last

theorem deliveries (h : Cut p source u tokens t rest) (n : Nat) :
    (Scan.between n p source).deliveries[tokens.length]? =
      some (.token t, n + (u ++ t.lexeme).length) := by
  obtain ⟨passed, same, items⟩ := h.before.deliveries n
  have index : passed.length = tokens.length := by simpa using congrArg List.length items
  rw [h.split, same, Scan.deliveries_token h.lexeme h.ends, ← h.token_eq, ← index,
    List.getElem?_append_right le_rfl, Nat.sub_self, List.getElem?_cons_zero, List.length_append,
    Nat.add_assoc]

end Cut

theorem Stretch.exists_cut (h : Stretch rest p u tokens) (ht : tokens[k]? = some t) :
    ∃ v rest', Cut p (u ++ rest) v (tokens.take k) t rest' := by
  induction h generalizing k with
  | done => cases ht
  | @skip p w u tokens lexeme ends _ ih =>
    obtain ⟨v, rest', cut⟩ := ih ht
    rw [List.append_assoc]
    exact ⟨w ++ v, rest', cut.skip lexeme ends⟩
  | @token p w u kind tokens lexeme ends others ih =>
    rw [List.append_assoc]
    cases k with
    | zero =>
      cases ht
      exact ⟨[], u ++ rest, rfl, .done, lexeme, ends, rfl, rfl⟩
    | succ k =>
      obtain ⟨v, rest', cut⟩ := ih ht
      exact ⟨w ++ v, rest', cut.token lexeme ends⟩

theorem exists_stretch_scanResults (source : Text) :
    ∃ u rest tokens error?, source = u ++ rest ∧ Stretch rest .start u tokens ∧ Stops rest ∧
      scanResults source = tokens.map .token ++ (Option.map Item.error error?).toList := by
  obtain ⟨u, rest, tokens, rfl, before, stops⟩ := exists_stretch .start source
  cases stops with
  | done =>
    refine ⟨u, [], tokens, none, rfl, before, .done, ?_⟩
    rw [scanResults_stretch before, Scan.drain_nil]
    rfl
  | stray lead =>
    exact ⟨u, _, tokens, some _, rfl, before, .stray lead, (Fault.stray before lead).scanResults_eq⟩
  | openString unclosed =>
    exact ⟨u, _, tokens, some _, rfl, before, .openString unclosed,
      (Fault.openString before unclosed).scanResults_eq⟩

theorem getElem?_tokens {error? : Option ScanError}
    (h : (tokens.map Item.token ++ (error?.map .error).toList)[k]? = some (.token t)) :
    tokens[k]? = some t := by
  rcases Nat.lt_or_ge k tokens.length with inside | behind
  · rw [List.getElem?_append_left (by simpa using inside), List.getElem?_map] at h
    obtain ⟨u, found, same⟩ := Option.map_eq_some_iff.1 h
    rw [found, Item.token.inj same]
  · rw [List.getElem?_append_right (by simpa using behind)] at h
    have member := List.mem_of_getElem? h
    simp at member

theorem scanResults_of_deliveries {source : Text} {item : Item} {e : Nat}
    (h : (Scan.start source).deliveries[k]? = some (item, e)) :
    (scanResults source)[k]? = some item := by
  rw [scanResults, ← Scan.map_fst_deliveries, List.getElem?_map, h]
  rfl

theorem exists_cut {source : Text} (h : (scanResults source)[k]? = some (.token t)) :
    ∃ u tokens rest, tokens.length = k ∧ Cut .start source u tokens t rest := by
  obtain ⟨u, rest, tokens, error?, rfl, stretch, -, items⟩ := exists_stretch_scanResults source
  rw [items] at h
  have found := getElem?_tokens h
  obtain ⟨v, rest', cut⟩ := stretch.exists_cut found
  have before : k < tokens.length := (List.getElem?_eq_some_iff.1 found).1
  exact ⟨v, tokens.take k, rest', List.length_take_of_le before.le, cut⟩

/-- A source can be cut behind a token: its parts deliver the items up to the token and the others,
with positions that count on from the token. -/
theorem scanResults_cut {source : Text} {k : Nat} {t : Token}
    (h : (scanResults source)[k]? = some (.token t)) :
    ∃ e tokens, (Scan.start source).deliveries[k]? = some (.token t, e) ∧ tokens.length = k + 1 ∧
      scan (source.take e) = .ok tokens ∧
      scanResults source = tokens.map .token ++
        (scanResults (source.drop e)).map (Item.mapPosition t.position.plus) := by
  obtain ⟨u, tokens, rest, rfl, cut⟩ := exists_cut h
  have whole : source = (u ++ t.lexeme) ++ rest := by rw [cut.split, List.append_assoc]
  have position : Position.behind (u ++ t.lexeme) = t.position.plus .start := by
    rw [← Position.after_start, Position.after_append, ← cut.position]
    rfl
  refine ⟨(u ++ t.lexeme).length, tokens ++ [t], ?_, List.length_append, ?_, ?_⟩
  · have delivered := cut.deliveries 0
    rwa [Nat.zero_add] at delivered
  · rw [whole, List.take_left]
    exact scan_eq_ok_iff_reads.2 cut.stretch.truncate
  · rw [whole, List.drop_left, scanResults_stretch cut.stretch, position,
      items_drain_moved t.position.plus_advance]

theorem scanResults_cut_string :
    let source : Text := "a//\n\"b\nc\" 1.\n@".toList
    let t : Token := ⟨.string, "\"b\nc\"".toList, some (.string "b\nc".toList), ⟨2, 2⟩⟩
    (scanResults source)[1]? = some (.token t) ∧
      ∃ e tokens, (Scan.start source).deliveries[1]? = some (.token t, e) ∧ tokens.length = 2 ∧
        scan (source.take e) = .ok tokens ∧
        scanResults source = tokens.map .token ++
          (scanResults (source.drop e)).map (Item.mapPosition t.position.plus) :=
  ⟨by decide +kernel, scanResults_cut (by decide +kernel)⟩

end LoxLexer
