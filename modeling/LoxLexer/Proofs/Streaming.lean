import LoxLexer.Proofs.Cuts
import LoxLexer.Proofs.Ordering

namespace LoxLexer

namespace Scan

theorem pulls_eq_take (s : Scan) (limit : Nat) : s.pulls limit = s.drain.items.take limit := by
  induction limit generalizing s with
  | zero => rfl
  | succ limit ih =>
    rw [pulls, drain_eq]
    rcases s.pull with ⟨_ | t | e, s'⟩
    · rfl
    · simp only [ih, Drained.items, List.map_cons, List.cons_append, List.take_succ_cons]
    · simp [Drained.items]

end Scan

namespace Session

variable {s : Session} {reader n k : Nat}

def asks (n : Nat) : List Step := .openReader :: .replicate n (.next 0)

theorem run_replicate_of_finished (h : s.isFinished reader = true) (n : Nat) :
    s.run (.replicate n (.next reader)) = .replicate n (.item none, s) := by
  induction n with
  | zero => rfl
  | succ n ih =>
    have step : s.step (.next reader) = (.item none, s) := by
      rw [Session.step, next_of_finished h]
    rw [List.replicate_succ, List.replicate_succ, run, step, ih]

theorem getElem?_run_finish (h : s.isFinished reader = false) (scan : Scan) (lt : k < n) :
    ((s.finish reader scan).run (.replicate n (.next reader)))[k]? =
      some (.item none, s.finish reader scan) := by
  have finished : (s.finish reader scan).isFinished reader = true :=
    (isFinished_finish reader h).2 (.inr rfl)
  rw [run_replicate_of_finished finished, List.getElem?_replicate_of_lt lt]

theorem exists_answer (h : s.isFinished reader = false) (lt : k < n) :
    ∃ s', (s.run (.replicate n (.next reader)))[k]? =
        some (.item (s.scan.deliveries[k]?.map Prod.fst), s') ∧
      ∀ d ∈ s.scan.deliveries[k]?, s'.scan.consumed = d.2 := by
  induction n generalizing s k with
  | zero => exact absurd lt (Nat.not_lt_zero k)
  | succ n ih =>
    have step : s.step (.next reader) = (.item (s.next reader).1, (s.next reader).2) := rfl
    rw [List.replicate_succ, run, step, next_eq h, Scan.deliveries_eq]
    cases k with
    | zero =>
      rcases s.scan.pull with ⟨_ | t | e, scan⟩
      · exact ⟨_, rfl, by simp⟩
      · exact ⟨_, rfl, by simp⟩
      · exact ⟨_, rfl, by simp [finish]⟩
    | succ k =>
      have lt' : k < n := Nat.lt_of_succ_lt_succ lt
      rcases s.scan.pull with ⟨_ | t | e, scan⟩
      · exact ⟨_, getElem?_run_finish h scan lt', by simp⟩
      · exact ih (s := { s with scan }) h lt'
      · exact ⟨_, getElem?_run_finish h scan lt', by simp⟩

theorem exists_answer_start (source : Text) (lt : k < n) :
    ∃ s, ((start source).run (asks n))[k + 1]? = some (.item (scanResults source)[k]?, s) ∧
      ∀ d ∈ (Scan.start source).deliveries[k]?, s.scan.consumed = d.2 := by
  obtain ⟨s, answer, consumed⟩ := exists_answer (isFinished_openReader (start source)) lt
  refine ⟨s, ?_, consumed⟩
  change ((start source).openReader.2.run _)[k]? = _
  have items : (scanResults source)[k]? = (Scan.start source).deliveries[k]?.map Prod.fst := by
    rw [scanResults, ← Scan.map_fst_deliveries, List.getElem?_map]
  rw [items]
  exact answer

theorem run_drain (source : Text) :
    ((start source).run [.openReader, .drain 0]).map Prod.fst =
      [.reader 0, .items (Scan.start source).drain.tokens (Scan.start source).drain.error?] := rfl

end Session

theorem Cut.covers {source u rest : Text} {tokens : List Token} {t : Token}
    (h : Cut .start source u tokens t rest) :
    Covers source t (u.length, (u ++ t.lexeme).length) := by
  have position : t.position = .behind (u ++ t.lexeme) := by
    rw [h.position, Position.after_start, Position.behind_append]
  rw [h.split]
  exact covers_append rfl h.lexeme.ne_nil position

structure EndsAt (source : Text) (t : Token) (n : Nat) : Prop where
  covers : ∃ start, Covers source t (start, n)
  le : n ≤ source.length

theorem Position.behind_take_lt {source : Text} {m n : Nat} (lt : m < n) (le : n ≤ source.length) :
    behind (source.take m) < behind (source.take n) := by
  have nonempty : (source.take n).drop m ≠ [] := by
    apply List.ne_nil_of_length_pos
    rw [List.length_drop, List.length_take]
    omega
  have split : source.take n = source.take m ++ (source.take n).drop m := by
    rw [← List.take_append_drop m (source.take n), List.take_take, Nat.min_eq_left lt.le,
      List.drop_left' (by rw [List.length_take]; omega)]
  rw [split, ← behind_append]
  exact lt_after _ nonempty

theorem EndsAt.unique {source : Text} {t : Token} {m n : Nat} (h : EndsAt source t m)
    (h' : EndsAt source t n) : m = n := by
  obtain ⟨⟨_, covers⟩, le⟩ := h
  obtain ⟨⟨_, covers'⟩, le'⟩ := h'
  have same := covers.position.symm.trans covers'.position
  rcases Nat.lt_trichotomy m n with lt | same | gt
  · exact absurd same (Position.ne_of_lt (Position.behind_take_lt lt le'))
  · exact same
  · exact absurd same.symm (Position.ne_of_lt (Position.behind_take_lt gt le))

theorem exists_delivery {source : Text} {k : Nat} {t : Token}
    (h : (scanResults source)[k]? = some (.token t)) :
    ∃ e, (Scan.start source).deliveries[k]? = some (.token t, e) ∧ EndsAt source t e := by
  obtain ⟨u, tokens, rest, rfl, cut⟩ := exists_cut h
  have delivered := cut.deliveries 0
  rw [Nat.zero_add] at delivered
  refine ⟨_, delivered, ⟨u.length, cut.covers⟩, ?_⟩
  rw [cut.split, ← List.append_assoc]
  exact (List.prefix_append (u ++ t.lexeme) rest).length_le

theorem exists_scan_eq_ok_iff {source : Text} :
    (∃ tokens, scan source = .ok tokens) ↔ ∀ e, .error e ∉ scanResults source := by
  constructor
  · rintro ⟨tokens, scans⟩ e
    rw [scan_eq_ok_iff.1 scans]
    simp
  · intro none
    cases h : scan source with
    | ok tokens => exact ⟨tokens, rfl⟩
    | error e =>
      obtain ⟨tokens, items⟩ := scan_eq_error_iff.1 h
      exact absurd (items ▸ List.mem_append_right _ List.mem_cons_self) (none e)

theorem scan_eq_error_iff_getLast? {source : Text} {e : ScanError} :
    scan source = .error e ↔ (scanResults source).getLast? = some (.error e) := by
  constructor
  · intro failed
    obtain ⟨tokens, items⟩ := scan_eq_error_iff.1 failed
    rw [items, List.getLast?_concat]
  · intro last
    cases h : scan source with
    | ok tokens =>
      rw [scan_eq_ok_iff.1 h] at last
      have member := List.mem_of_getLast? last
      simp at member
    | error e' =>
      obtain ⟨tokens, items⟩ := scan_eq_error_iff.1 h
      rw [items, List.getLast?_concat] at last
      cases last
      rfl

theorem drain_eq_of_scan_eq_error {source : Text} {e : ScanError} (h : scan source = .error e) :
    ∃ tokens : List Token, scanResults source = tokens.map .token ++ [.error e] ∧
      ((Session.start source).run [.openReader, .drain 0]).map Prod.fst =
        [.reader 0, .items tokens (some e)] := by
  obtain ⟨tokens, items⟩ := scan_eq_error_iff.1 h
  refine ⟨tokens, items, ?_⟩
  have same : (Scan.start source).drain.items =
      tokens.map .token ++ ((some e).map Item.error).toList := items
  obtain ⟨rfl, error⟩ := map_append_error_inj same
  rw [Session.run_drain, error]

/-- A source has one stream of items, whether it is scanned as a whole, up to a limit or item by
item. -/
theorem scans_agree (source : Text) :
    (∀ tokens, scan source = .ok tokens ↔ scanResults source = tokens.map .token) ∧
    ((∃ tokens, scan source = .ok tokens) ↔ ∀ e, .error e ∉ scanResults source) ∧
    (∀ e, scan source = .error e ↔ (scanResults source).getLast? = some (.error e)) ∧
    (∀ e, scan source = .error e → ∃ tokens : List Token,
      scanResults source = tokens.map .token ++ [.error e] ∧
        ((Session.start source).run [.openReader, .drain 0]).map Prod.fst =
          [.reader 0, .items tokens (some e)]) ∧
    ∀ limit, scanResultsUpTo source limit = (scanResults source).take limit ∧
      ∀ k < limit, ∃ s,
        ((Session.start source).run (Session.asks limit))[k + 1]? =
          some (.item (scanResults source)[k]?, s) ∧
        ∀ t, (scanResults source)[k]? = some (.token t) →
          ∀ n, EndsAt source t n ↔ n = s.scan.consumed := by
  refine ⟨fun tokens => scan_eq_ok_iff, exists_scan_eq_ok_iff, fun e => scan_eq_error_iff_getLast?,
    fun e => drain_eq_of_scan_eq_error, ?_⟩
  intro limit
  refine ⟨Scan.pulls_eq_take _ limit, ?_⟩
  intro k lt
  obtain ⟨s, answer, consumed⟩ := Session.exists_answer_start source lt
  refine ⟨s, answer, ?_⟩
  intro t delivered n
  obtain ⟨e, delivery, ends⟩ := exists_delivery delivered
  rw [consumed _ delivery]
  constructor
  · intro ends'
    exact ends'.unique ends
  · rintro rfl
    exact ends

theorem scans_agree_error :
    let source : Text := "ab\n1.5\"c\"@d".toList
    let e : ScanError := ⟨⟨1, 6⟩, ['@'], .unexpectedCharacter⟩
    let t : Token := ⟨.number, "1.5".toList, Literal.parse? "1.5".toList, ⟨1, 3⟩⟩
    (scan source = .error e ∧ ∃ tokens : List Token,
      scanResults source = tokens.map .token ++ [.error e] ∧
        ((Session.start source).run [.openReader, .drain 0]).map Prod.fst =
          [.reader 0, .items tokens (some e)]) ∧
      1 < 2 ∧ (scanResults source)[1]? = some (.token t) ∧ ∃ s,
        ((Session.start source).run (Session.asks 2))[2]? =
          some (.item (scanResults source)[1]?, s) ∧
        ∀ n, EndsAt source t n ↔ n = s.scan.consumed := by
  intro source e t
  obtain ⟨-, -, -, failed, limits⟩ := scans_agree source
  have fails : scan source = .error e := by decide +kernel
  have delivered : (scanResults source)[1]? = some (.token t) := by decide +kernel
  obtain ⟨s, answer, ends⟩ := (limits 2).2 1 (by decide)
  exact ⟨⟨fails, failed e fails⟩, by decide, delivered, s, answer, ends t delivered⟩

end LoxLexer
