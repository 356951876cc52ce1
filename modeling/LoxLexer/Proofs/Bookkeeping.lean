import LoxLexer.Proofs.Sharing
import LoxLexer.Proofs.Spans
import LoxLexer.Proofs.Stretch

/-!
# Bookkeeping

Over a whole session the cursor, the position and the lexeme of a scan stay in step with the source.
The position alone falls behind: by one column for every stray character that was reported on the
line where the cursor stands.
-/

namespace LoxLexer

/-! ## Deliveries -/

namespace Scan

def deliveries (s : Scan) : List (Item × Nat) :=
  match _pull : s.pull with
  | (none, _) => []
  | (some (.error e), s') => [(.error e, s'.consumed)]
  | (some (.token t), s') => (.token t, s'.consumed) :: s'.deliveries
termination_by s.rest.length
decreasing_by exact length_pull _pull

theorem map_fst_deliveries (s : Scan) : s.deliveries.map Prod.fst = s.drain.items := by
  fun_induction deliveries s with
  | case1 s s' pull =>
    rw [drain_eq, pull]
    rfl
  | case2 s e s' pull =>
    rw [drain_eq, pull]
    rfl
  | case3 s t s' pull ih =>
    rw [drain_eq, pull, List.map_cons, ih]
    rfl

end Scan

namespace Session

def deliveriesOf (s : Session) : Step → List (Item × Nat)
  | .next reader =>
    (s.next reader).1.toList.map fun item => (item, (s.next reader).2.scan.consumed)
  | .drain reader => if s.isFinished reader then [] else s.scan.deliveries
  | _ => []

def deliveries (s : Session) : List Step → List (Item × Nat)
  | [] => []
  | step :: steps => s.deliveriesOf step ++ (s.step step).2.deliveries steps

end Session

/-! ## What the items and the scan say about the source -/

/-- What an item says about the source when `n` characters are consumed right after it. -/
inductive Reported (source : Text) : Item → Nat → Prop
  | token {t : Token} {n : Nat} (le : t.lexeme.length ≤ n)
      (lexeme : t.lexeme = source.extract (n - t.lexeme.length) n) : Reported source (.token t) n
  | stray {p : Position} {c : Char} {k : Nat} (h : source[k]? = some c) :
      Reported source (.error ⟨p, [c], .unexpectedCharacter⟩) (k + 1)
  | openString {p : Position} {text : Text} :
      Reported source (.error ⟨p, text, .unterminatedString⟩) source.length

def strayOffset? : Item × Nat → Option Nat
  | (.error ⟨_, _, .unexpectedCharacter⟩, n) => some (n - 1)
  | _ => none

/-- A scan of a source that has reported the stray characters at some offsets. -/
structure Bookkeeping (source : Text) (strays : List Nat) (s : Scan) : Prop where
  le : s.consumed ≤ source.length
  line : s.position.line = (Position.behind (source.take s.consumed)).line
  column : s.position.column +
      strays.countP (fun k => '\n' ∉ (source.take s.consumed).drop k) =
    (Position.behind (source.take s.consumed)).column

/-! ## Positions that fall behind -/

structure Lags (strays : List Nat) (passed : Text) (p : Position) : Prop where
  line : p.line = (Position.behind passed).line
  column : p.column + strays.countP (fun k => '\n' ∉ passed.drop k) =
    (Position.behind passed).column
  bound : ∀ k ∈ strays, k ≤ passed.length

namespace Lags

variable {strays : List Nat} {passed : Text} {p : Position} {c : Char}

theorem countP_append (h : Lags strays passed p) (w : Text) :
    strays.countP (fun k => '\n' ∉ (passed ++ w).drop k) =
      if '\n' ∈ w then 0 else strays.countP fun k => '\n' ∉ passed.drop k := by
  split
  · rename_i member
    rw [List.countP_eq_zero]
    intro k hk
    simp [List.drop_append_of_le_length (h.bound k hk), member]
  · rename_i absent
    apply List.countP_congr
    intro k hk
    simp [List.drop_append_of_le_length (h.bound k hk), absent]

theorem advance (h : Lags strays passed p) (c : Char) :
    Lags strays (passed ++ [c]) (p.advance c) := by
  have behind : Position.behind (passed ++ [c]) = (Position.behind passed).advance c :=
    (Position.behind_append passed [c]).symm
  have bound : ∀ k ∈ strays, k ≤ (passed ++ [c]).length := by
    intro k hk
    rw [List.length_append]
    exact Nat.le_add_right_of_le (h.bound k hk)
  by_cases hc : c = '\n'
  · refine ⟨?_, ?_, bound⟩
    · rw [behind]
      simp [hc, Position.advance, Position.down, h.line]
    · rw [h.countP_append, behind]
      simp [hc, Position.advance, Position.down]
  · refine ⟨?_, ?_, bound⟩
    · rw [behind]
      simp [hc, Position.advance, Position.right, h.line]
    · rw [h.countP_append, behind]
      simp [hc, Ne.symm hc, Position.advance, Position.right, ← h.column, Nat.add_right_comm]

theorem after (h : Lags strays passed p) (w : Text) : Lags strays (passed ++ w) (p.after w) := by
  induction w generalizing passed p with
  | nil => rwa [List.append_nil]
  | cons c w ih =>
    rw [← List.singleton_append, ← List.append_assoc]
    exact ih (h.advance c)

theorem stray (h : Lags strays passed p) (hc : c ≠ '\n') :
    Lags (strays ++ [passed.length]) (passed ++ [c]) p := by
  have behind : Position.behind (passed ++ [c]) = (Position.behind passed).right := by
    rw [← Position.behind_append]
    simp [Position.advance, hc]
  refine ⟨?_, ?_, ?_⟩
  · rw [behind, h.line]
    rfl
  · rw [List.countP_append, h.countP_append, behind]
    simp [Ne.symm hc, Position.right, ← h.column, Nat.add_assoc]
  · intro k hk
    rw [List.length_append]
    rcases List.mem_append.1 hk with hk | hk
    · exact Nat.le_add_right_of_le (h.bound k hk)
    · rw [List.mem_singleton.1 hk]
      exact Nat.le_add_right _ _

end Lags

/-! ## What a scan keeps -/

structure Tracks (source : Text) (strays : List Nat) (s : Scan) : Prop where
  ready : s.Ready
  passed : ∃ passed, source = passed ++ s.rest ∧ passed.length = s.consumed ∧
    Lags strays passed s.position

def Keeps (source : Text) (s : Scan) (delivered : List (Item × Nat)) (s' : Scan) : Prop :=
  ∀ strays, Tracks source strays s →
    Tracks source (strays ++ delivered.filterMap strayOffset?) s' ∧
      ∀ d ∈ delivered, Reported source d.1 d.2

variable {source : Text}

theorem Tracks.consumed_eq {strays : List Nat} {s : Scan} (h : Tracks source strays s)
    (last : s.rest = []) : s.consumed = source.length := by
  obtain ⟨passed, split, length, -⟩ := h.passed
  rw [← length, split, last, List.append_nil]

theorem Tracks.bookkeeping {strays : List Nat} {s : Scan} (h : Tracks source strays s) :
    Bookkeeping source strays s := by
  obtain ⟨passed, split, length, lags⟩ := h.passed
  have beginning : source.take s.consumed = passed := by rw [split, ← length, List.take_left]
  refine ⟨?_, ?_, ?_⟩
  · rw [← length, split, List.length_append]
    exact Nat.le_add_right _ _
  · rw [beginning]
    exact lags.line
  · rw [beginning]
    exact lags.column

theorem Keeps.refl (s : Scan) : Keeps source s [] s := by
  intro strays tracks
  simpa using tracks

theorem Keeps.trans {s s' s'' : Scan} {ds ds' : List (Item × Nat)} (h : Keeps source s ds s')
    (h' : Keeps source s' ds' s'') : Keeps source s (ds ++ ds') s'' := by
  intro strays tracks
  obtain ⟨tracks', first⟩ := h strays tracks
  obtain ⟨tracks'', second⟩ := h' _ tracks'
  rw [List.filterMap_append, ← List.append_assoc]
  refine ⟨tracks'', ?_⟩
  intro d hd
  rcases List.mem_append.1 hd with hd | hd
  · exact first d hd
  · exact second d hd

namespace Scan

def delivery (pulled : Option Item × Scan) : List (Item × Nat) :=
  pulled.1.toList.map fun item => (item, pulled.2.consumed)

variable {strays : List Nat} {n : Nat} {p : Position} {c : Char} {cs : Text}

theorem tracks_pass (tracks : Tracks source strays (between n p (c :: cs)))
    (h : (Element.next c cs).1.positionBehind p = p.after (Element.next c cs).1.text) :
    Tracks source strays (pass n p (Element.next c cs)).2 := by
  obtain ⟨-, passed, split, length, lags⟩ := tracks
  refine ⟨leftover_next, passed ++ (Element.next c cs).1.text, ?_, ?_, ?_⟩
  · rw [List.append_assoc]
    exact split.trans (congrArg _ (Element.next_text c cs).symm)
  · rw [List.length_append, length]
    rfl
  · change Lags strays _ ((Element.next c cs).1.positionBehind p)
    rw [h]
    exact lags.after _

theorem reported_token {t : Token} (tracks : Tracks source strays (between n p (c :: cs)))
    (h : (Element.next c cs).1.text = t.lexeme) :
    Reported source (.token t) (n + t.lexeme.length) := by
  obtain ⟨-, passed, split, rfl, -⟩ := tracks
  refine .token (Nat.le_add_left _ _) ?_
  have whole : source = passed ++ (t.lexeme ++ (Element.next c cs).2) := by
    rw [← h, Element.next_text]
    exact split
  have start : passed.length + t.lexeme.length - t.lexeme.length = passed.length :=
    Nat.add_sub_cancel _ _
  change t.lexeme = source.extract (passed.length + t.lexeme.length - t.lexeme.length)
    (passed.length + t.lexeme.length)
  rw [start, whole, List.extract_eq_take_drop, List.drop_left, Nat.add_sub_cancel_left,
    List.take_left]

theorem keeps_lexeme {k : Option Kind} (h : (Element.next c cs).1.language? = some k) :
    Keeps source (between n p (c :: cs)) (delivery (pass n p (Element.next c cs)))
      (pass n p (Element.next c cs)).2 := by
  intro strays tracks
  have behind := tracks_pass tracks (Element.positionBehind_eq h p)
  rw [← List.append_nil strays] at behind
  cases k with
  | none =>
    have nothing : delivery (pass n p (Element.next c cs)) = [] := by
      rw [delivery, pass, Element.item?_eq_none h]
      rfl
    rw [nothing]
    exact ⟨behind, by simp⟩
  | some kind =>
    let t : Token := ⟨kind, (Element.next c cs).1.text, Literal.parse? (Element.next c cs).1.text,
      (Element.next c cs).1.positionBehind p⟩
    have one : delivery (pass n p (Element.next c cs)) = [(.token t, n + t.lexeme.length)] := by
      rw [delivery, pass, Element.item?_eq_some h]
      rfl
    rw [one]
    refine ⟨behind, ?_⟩
    intro d hd
    obtain rfl := List.mem_singleton.1 hd
    exact reported_token tracks rfl

theorem keeps_openString (next : Element.next '"' cs = (.openString ('"' :: cs), [])) :
    Keeps source (between n p ('"' :: cs)) (delivery (pass n p (Element.next '"' cs)))
      (pass n p (Element.next '"' cs)).2 := by
  intro strays tracks
  have behind := tracks_pass tracks (by rw [next]; rfl)
  rw [next] at behind ⊢
  rw [← List.append_nil strays] at behind
  refine ⟨behind, ?_⟩
  intro d hd
  obtain rfl := List.mem_singleton.1 hd
  have last : n + ('"' :: cs).length = source.length := behind.consumed_eq rfl
  change Reported source _ (n + ('"' :: cs).length)
  rw [last]
  exact .openString

theorem keeps_stray (lead : Lead.of c = .stray) (next : Element.next c cs = (.stray c, cs)) :
    Keeps source (between n p (c :: cs)) (delivery (pass n p (Element.next c cs)))
      (pass n p (Element.next c cs)).2 := by
  rintro strays ⟨-, passed, split, rfl, lags⟩
  have split : source = passed ++ c :: cs := split
  have noLineFeed : c ≠ '\n' := by
    rintro rfl
    exact absurd lead (by decide)
  rw [next]
  refine ⟨⟨fun _ => rfl, passed ++ [c], ?_, List.length_append, lags.stray noLineFeed⟩, ?_⟩
  · rw [List.append_assoc]
    exact split
  · rintro d hd
    obtain rfl := List.mem_singleton.1 hd
    refine .stray ?_
    rw [split]
    simp

theorem keeps_pass : Keeps source (between n p (c :: cs)) (delivery (pass n p (Element.next c cs)))
    (pass n p (Element.next c cs)).2 := by
  cases language : (Element.next c cs).1.language? with
  | some k => exact keeps_lexeme language
  | none =>
    rcases next_fault language with ⟨rfl, -, next⟩ | ⟨lead, next⟩
    · exact keeps_openString next
    · exact keeps_stray lead next

theorem keeps_step (source : Text) {s : Scan} (more : s.rest ≠ []) :
    Keeps source s (delivery s.step) s.step.2 := by
  intro strays tracks
  obtain ⟨c, cs, n, p, rfl⟩ := tracks.ready.exists_cons more
  rw [step_eq]
  exact keeps_pass strays tracks

theorem keeps_pull (source : Text) (s : Scan) : Keeps source s (delivery s.pull) s.pull.2 := by
  fun_induction pull s with
  | case1 s => exact .refl s
  | case2 s more next step ih =>
    have passes := keeps_step source (mt atEnd_iff.2 more)
    rw [step] at passes
    exact passes.trans ih
  | case3 s more item next step =>
    have passes := keeps_step source (mt atEnd_iff.2 more)
    rwa [step] at passes

theorem keeps_deliveries (s : Scan) : Keeps source s s.deliveries s.drain.scan := by
  fun_induction deliveries s with
  | case1 s s' pull =>
    have passes := keeps_pull source s
    rw [pull] at passes
    rw [drain_eq, pull]
    exact passes
  | case2 s e s' pull =>
    have passes := keeps_pull source s
    rw [pull] at passes
    rw [drain_eq, pull]
    exact passes
  | case3 s t s' pull ih =>
    have passes := keeps_pull source s
    rw [pull] at passes
    rw [drain_eq, pull]
    exact passes.trans ih

end Scan

/-! ## Sessions -/

namespace Session

theorem keeps_deliveriesOf (s : Session) (step : Step) :
    Keeps source s.scan (s.deliveriesOf step) (s.step step).2.scan := by
  cases step with
  | next reader =>
    cases h : s.isFinished reader with
    | true =>
      rw [deliveriesOf, Session.step, next_of_finished h]
      exact .refl _
    | false =>
      have item : (s.next reader).1 = s.scan.pull.1 := by rw [next_eq h]
      change Keeps source s.scan ((s.next reader).1.toList.map _) (s.next reader).2.scan
      rw [item, scan_next h]
      exact Scan.keeps_pull source s.scan
  | drain reader =>
    cases h : s.isFinished reader with
    | true =>
      rw [deliveriesOf, if_pos h, Session.step, drain_of_finished h]
      exact .refl _
    | false =>
      rw [deliveriesOf, h, if_neg Bool.false_ne_true, Session.step, drain_eq h]
      exact Scan.keeps_deliveries s.scan
  | _ => exact .refl _

theorem keeps_run (s : Session) (steps : List Step) :
    Keeps source s.scan (s.deliveries steps) (s.after steps).scan := by
  induction steps generalizing s with
  | nil => exact .refl _
  | cons step steps ih =>
    rw [deliveries, after_cons]
    exact (keeps_deliveriesOf s step).trans (ih _)

theorem map_fst_deliveriesOf (s : Session) (step : Step) :
    (s.deliveriesOf step).map Prod.fst = (s.step step).1.delivered := by
  cases step with
  | next reader =>
    change ((s.next reader).1.toList.map _).map Prod.fst = (s.next reader).1.toList
    rw [List.map_map]
    exact List.map_id _
  | drain reader =>
    cases h : s.isFinished reader with
    | true =>
      rw [deliveriesOf, if_pos h, Session.step, drain_of_finished h]
      rfl
    | false =>
      rw [deliveriesOf, h, if_neg Bool.false_ne_true, Session.step, drain_eq h,
        Scan.map_fst_deliveries]
      rfl
  | _ => rfl

theorem map_fst_deliveries (s : Session) (steps : List Step) :
    (s.deliveries steps).map Prod.fst =
      (s.run steps).flatMap fun answered => answered.1.delivered := by
  induction steps generalizing s with
  | nil => rfl
  | cons step steps ih =>
    rw [deliveries, List.map_append, map_fst_deliveriesOf, ih, run, List.flatMap_cons]

theorem tracks_start (source : Text) : Tracks source [] (start source).scan :=
  ⟨Scan.ready_start source, [], rfl, rfl, rfl, rfl, by simp⟩

/-- Where the scan of a session stands, and what its items say about the source. -/
theorem run_bookkeeping (source : Text) (steps : List Step) :
    let s := (start source).after steps
    let deliveries := (start source).deliveries steps
    deliveries.map Prod.fst =
        ((start source).run steps).flatMap (fun answered => answered.1.delivered) ∧
      (∀ d ∈ deliveries, Reported source d.1 d.2) ∧
      Bookkeeping source (deliveries.filterMap strayOffset?) s.scan ∧
      ∀ reader, s.isFinished reader = false →
        ((s.next reader).1 = none → (s.next reader).2.scan.consumed = source.length) ∧
        ((s.drain reader).2.1 = none → (s.drain reader).2.2.scan.consumed = source.length) := by
  intro s deliveries
  obtain ⟨tracks, reported⟩ := keeps_run (start source) steps [] (tracks_start source)
  refine ⟨map_fst_deliveries _ steps, reported, tracks.bookkeeping, ?_⟩
  intro reader unfinished
  constructor
  · intro stops
    obtain ⟨tracks', -⟩ := keeps_deliveriesOf s (.next reader) _ tracks
    apply tracks'.consumed_eq
    change (s.next reader).2.scan.rest = []
    rw [scan_next unfinished]
    exact Scan.rest_eq_nil_of_pull (by rw [← stops, next_eq unfinished])
  · intro stops
    obtain ⟨tracks', -⟩ := keeps_deliveriesOf s (.drain reader) _ tracks
    apply tracks'.consumed_eq
    change (s.drain reader).2.2.scan.rest = []
    rw [drain_eq unfinished] at stops ⊢
    exact Scan.rest_eq_nil_of_drain stops

theorem run_bookkeeping_strays :
    let source : Text := "@a\n #b //".toList
    let steps : List Step :=
      [.openReader, .next 0, .openReader, .next 1, .drain 1, .openReader, .next 2]
    let s := (start source).after steps
    let deliveries := (start source).deliveries steps
    let a : Token := ⟨.identifier, ['a'], none, ⟨0, 1⟩⟩
    (.token a, 2) ∈ deliveries ∧ Reported source (.token a) 2 ∧
      deliveries.filterMap strayOffset? = [0, 4] ∧ Bookkeeping source [0, 4] s.scan ∧
      s.isFinished 2 = false ∧
      ((s.next 2).1 = none ∧ (s.next 2).2.scan.consumed = source.length) ∧
      (s.drain 2).2.1 = none ∧ (s.drain 2).2.2.scan.consumed = source.length := by
  obtain ⟨-, reported, bookkeeping, ends⟩ := run_bookkeeping "@a\n #b //".toList
    [.openReader, .next 0, .openReader, .next 1, .drain 1, .openReader, .next 2]
  have strays : ((start "@a\n #b //".toList).deliveries
      [.openReader, .next 0, .openReader, .next 1, .drain 1, .openReader, .next 2]).filterMap
      strayOffset? = [0, 4] := by decide +kernel
  rw [strays] at bookkeeping
  obtain ⟨atStop, atDrain⟩ := ends 2 (by decide +kernel)
  exact ⟨by decide +kernel, reported (.token ⟨.identifier, ['a'], none, ⟨0, 1⟩⟩, 2)
      (by decide +kernel), strays, bookkeeping, by decide +kernel,
    ⟨by decide +kernel, atStop (by decide +kernel)⟩, by decide +kernel,
    atDrain (by decide +kernel)⟩

end Session
end LoxLexer
