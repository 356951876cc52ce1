import LoxLexer.Proofs.Events
import LoxLexer.Session

namespace LoxLexer

namespace Session

def after (s : Session) (steps : List Step) : Session :=
  ((s.run steps).getLast?.map Prod.snd).getD s

def Answer.delivered : Answer → List Item
  | .item item? => item?.toList
  | .items tokens error? => tokens.map .token ++ (error?.map .error).toList
  | _ => []

def Answer.ends : Answer → Prop
  | .item (some (.token _)) => False
  | .item _ => True
  | .items _ _ => True
  | _ => False

def Step.reader? : Step → Option Nat
  | .next reader => some reader
  | .drain reader => some reader
  | _ => none

theorem isFinished_openReader (s : Session) :
    s.openReader.2.isFinished s.openReader.1 = false := by
  simp [openReader, isFinished]

theorem drain_openReader (s : Session) :
    s.openReader.2.drain s.openReader.1 =
      (s.scan.drain.tokens, s.scan.drain.error?,
        s.openReader.2.finish s.openReader.1 s.scan.drain.scan) := by
  rw [drain, isFinished_openReader, if_neg Bool.false_ne_true]
  rfl

theorem of_drain_openReader {s s' : Session} {tokens : List Token}
    {error? : Option ScanError}
    (h : s.openReader.2.drain s.openReader.1 = (tokens, error?, s')) :
    s.scan.drain.tokens = tokens ∧ s.scan.drain.error? = error? ∧ s.scan.drain.scan = s'.scan := by
  rw [drain_openReader] at h
  cases h
  exact ⟨rfl, rfl, rfl⟩

/-- All items of a session: a reader is drained, and after each error another one. -/
def outcome (s : Session) : List Item :=
  match _drain : s.openReader.2.drain s.openReader.1 with
  | (tokens, none, _) => tokens.map .token
  | (tokens, some e, s') => tokens.map .token ++ .error e :: s'.outcome
termination_by s.scan.rest.length
decreasing_by
  rw [drain_openReader] at _drain
  obtain ⟨-, behind⟩ := Prod.mk.inj _drain
  obtain ⟨failed, rfl⟩ := Prod.mk.inj behind
  exact Scan.length_drain failed

inductive Exhausts (reader : Nat) : Session → List Item → Session → Prop
  | stop {s s' : Session} (h : s.next reader = (none, s')) : Exhausts reader s [] s'
  | error {s s' : Session} {e : ScanError} (h : s.next reader = (some (.error e), s')) :
      Exhausts reader s [.error e] s'
  | token {s s' s'' : Session} {t : Token} {items : List Item}
      (h : s.next reader = (some (.token t), s')) (rest : Exhausts reader s' items s'') :
      Exhausts reader s (.token t :: items) s''

theorem isFinished_finish {s : Session} {reader : Nat} {scan : Scan} (other : Nat)
    (h : s.isFinished reader = false) :
    (s.finish reader scan).isFinished other = true ↔ s.isFinished other = true ∨ reader = other := by
  have opened : reader < s.finished.length := by
    by_contra beyond
    simp [isFinished, List.getD_eq_getElem?_getD, List.getElem?_eq_none (not_lt.1 beyond)] at h
  by_cases same : reader = other
  · subst same
    simp [isFinished, finish, opened]
  · simp [isFinished, finish, same, List.getElem?_set_ne same]

theorem next_eq {s : Session} {reader : Nat} (h : s.isFinished reader = false) :
    s.next reader = (s.scan.pull.1,
      match s.scan.pull.1 with
      | some (.token _) => { s with scan := s.scan.pull.2 }
      | _ => s.finish reader s.scan.pull.2) := by
  rw [next, h, if_neg Bool.false_ne_true]
  rcases s.scan.pull with ⟨_ | t | e, scan⟩ <;> rfl

theorem scan_next {s : Session} {reader : Nat} (h : s.isFinished reader = false) :
    (s.next reader).2.scan = s.scan.pull.2 := by
  rw [next_eq h]
  dsimp only
  split <;> rfl

theorem drain_eq {s : Session} {reader : Nat} (h : s.isFinished reader = false) :
    s.drain reader = (s.scan.drain.tokens, s.scan.drain.error?,
      s.finish reader s.scan.drain.scan) := by
  rw [drain, h, if_neg Bool.false_ne_true]

theorem step_cases (s : Session) (step : Step) :
    (s.step step).1.delivered = [] ∧ (s.step step).2.scan = s.scan ∨
    (s.step step).1.delivered = s.scan.pull.1.toList ∧ (s.step step).2.scan = s.scan.pull.2 ∨
    (s.step step).1.delivered = s.scan.drain.items ∧ (s.step step).2.scan = s.scan.drain.scan := by
  cases step with
  | next reader =>
    cases h : s.isFinished reader with
    | true =>
      rw [Session.step, next_of_finished h]
      exact .inl ⟨rfl, rfl⟩
    | false =>
      have item : (s.next reader).1 = s.scan.pull.1 := by rw [next_eq h]
      exact .inr (.inl ⟨congrArg Option.toList item, scan_next h⟩)
  | drain reader =>
    cases h : s.isFinished reader with
    | true =>
      rw [Session.step, drain_of_finished h]
      exact .inl ⟨rfl, rfl⟩
    | false =>
      rw [Session.step, drain_eq h]
      exact .inr (.inr ⟨rfl, rfl⟩)
  | _ => exact .inl ⟨rfl, rfl⟩

theorem events_step {s : Session} (ready : s.scan.Ready) (step : Step) :
    s.scan.events = (s.step step).1.delivered ++ (s.step step).2.scan.events ∧
      (s.step step).2.scan.Ready := by
  rcases s.step_cases step with ⟨delivered, scan⟩ | ⟨delivered, scan⟩ | ⟨delivered, scan⟩
  · rw [delivered, scan]
    exact ⟨rfl, ready⟩
  · rw [delivered, scan]
    exact ⟨Scan.events_pull ready, Scan.ready_pull ready⟩
  · rw [delivered, scan]
    exact ⟨Scan.events_drain ready, Scan.ready_drain ready⟩

theorem isFinished_iff_or {s : Session} {asked reader : Nat} (h : s.isFinished asked = true)
    (p : Prop) : s.isFinished reader = true ↔ s.isFinished reader = true ∨ asked = reader ∧ p := by
  constructor
  · exact .inl
  · rintro (finished | ⟨rfl, -⟩)
    · exact finished
    · exact h

theorem isFinished_step {s : Session} {reader : Nat} (opened : reader < s.finished.length)
    (step : Step) :
    (s.step step).2.isFinished reader = true ↔
      s.isFinished reader = true ∨ step.reader? = some reader ∧ (s.step step).1.ends := by
  cases step with
  | openReader =>
    simp [Session.step, openReader, isFinished, Step.reader?, opened,
      List.getElem?_append_left opened]
  | look => simp [Session.step, Step.reader?]
  | next asked =>
    cases h : s.isFinished asked with
    | true =>
      simp only [Session.step, next_of_finished h, Step.reader?, Option.some.injEq]
      exact isFinished_iff_or h _
    | false =>
      simp only [Session.step, next_eq h, Step.reader?, Option.some.injEq]
      rcases s.scan.pull.1 with _ | t | e
      · simp [isFinished_finish reader h, Answer.ends]
      · simp [isFinished, Answer.ends]
      · simp [isFinished_finish reader h, Answer.ends]
  | drain asked =>
    cases h : s.isFinished asked with
    | true =>
      simp only [Session.step, drain_of_finished h, Step.reader?, Option.some.injEq]
      exact isFinished_iff_or h _
    | false =>
      simp [Session.step, drain_eq h, Step.reader?, isFinished_finish reader h, Answer.ends]

theorem after_cons (s : Session) (step : Step) (steps : List Step) :
    s.after (step :: steps) = (s.step step).2.after steps := by
  unfold after
  rw [run, List.getLast?_cons]
  cases ((s.step step).2.run steps).getLast? <;> rfl

theorem events_run {s : Session} (ready : s.scan.Ready) (steps : List Step) :
    s.scan.events = (s.run steps).flatMap (fun answered => answered.1.delivered) ++
        (s.after steps).scan.events ∧ (s.after steps).scan.Ready := by
  induction steps generalizing s with
  | nil => exact ⟨rfl, ready⟩
  | cons step steps ih =>
    obtain ⟨events, ready'⟩ := events_step ready step
    obtain ⟨rest, ready''⟩ := ih ready'
    rw [after_cons]
    refine ⟨?_, ready''⟩
    rw [events, rest, run, List.flatMap_cons, List.append_assoc]

theorem outcome_eq_events {s : Session} (ready : s.scan.Ready) : s.outcome = s.scan.events := by
  fun_induction outcome s with
  | case1 s tokens s' drain =>
    obtain ⟨rfl, ended, -⟩ := of_drain_openReader drain
    rw [Scan.events_drain ready, Scan.Drained.items, ended,
      Scan.events_of_rest_eq_nil (Scan.rest_eq_nil_of_drain ended)]
    simp
  | case2 s tokens e s' drain ih =>
    obtain ⟨rfl, failed, behind⟩ := of_drain_openReader drain
    rw [← behind] at ih
    rw [ih (Scan.ready_drain ready), Scan.events_drain ready, Scan.Drained.items, failed]
    simp

theorem exhausts_iff_next {s s' : Session} {reader : Nat} {items : List Item} :
    Exhausts reader s items s' ↔
      match s.next reader with
      | (none, behind) => items = [] ∧ s' = behind
      | (some (.error e), behind) => items = [.error e] ∧ s' = behind
      | (some (.token t), behind) =>
        ∃ others, items = .token t :: others ∧ Exhausts reader behind others s' := by
  constructor
  · intro exhausts
    cases exhausts with
    | stop next =>
      rw [next]
      exact ⟨rfl, rfl⟩
    | error next =>
      rw [next]
      exact ⟨rfl, rfl⟩
    | token next others =>
      rw [next]
      exact ⟨_, rfl, others⟩
  · split <;> rename_i next
    · rintro ⟨rfl, rfl⟩
      exact .stop next
    · rintro ⟨rfl, rfl⟩
      exact .error next
    · rintro ⟨others, rfl, exhausts⟩
      exact .token next exhausts

theorem exhausts_iff_of_unfinished {scan : Scan} {finished : List Bool} {reader : Nat}
    {items : List Item} {s' : Session}
    (h : (Session.mk scan finished).isFinished reader = false) :
    Exhausts reader ⟨scan, finished⟩ items s' ↔
      items = scan.drain.items ∧ s' = ⟨scan.drain.scan, finished.set reader true⟩ := by
  fun_induction Scan.drain scan generalizing items with
  | case1 scan scan' pull =>
    rw [exhausts_iff_next, next_eq h, pull]
    rfl
  | case2 scan e scan' pull =>
    rw [exhausts_iff_next, next_eq h, pull]
    rfl
  | case3 scan t scan' pull after =>
    rename_i ih
    rw [exhausts_iff_next, next_eq h, pull]
    constructor
    · rintro ⟨items, rfl, exhausts⟩
      obtain ⟨rfl, rfl⟩ := (ih h).1 exhausts
      exact ⟨rfl, rfl⟩
    · rintro ⟨rfl, rfl⟩
      exact ⟨_, rfl, (ih h).2 ⟨rfl, rfl⟩⟩

theorem exhausts_iff {s s' : Session} {reader : Nat} {items : List Item} :
    Exhausts reader s items s' ↔
      items = (s.drain reader).1.map .token ++ ((s.drain reader).2.1.map .error).toList ∧
        s' = (s.drain reader).2.2 := by
  cases h : s.isFinished reader with
  | true =>
    rw [exhausts_iff_next, next_of_finished h, drain_of_finished h]
    rfl
  | false =>
    rw [drain_eq h]
    exact exhausts_iff_of_unfinished h

structure Delivers (source : Text) (delivered pending : List Item) (s : Session) : Prop where
  outcome : (start source).outcome = delivered ++ pending
  next : ∀ reader, s.isFinished reader = false → (s.next reader).1 = pending.head?
  opens : s.openReader.2.isFinished s.openReader.1 = false
  finishes : ∀ reader step, reader < s.finished.length →
    ((s.step step).2.isFinished reader = true ↔
      s.isFinished reader = true ∨ step.reader? = some reader ∧ (s.step step).1.ends)
  finished : ∀ reader, s.isFinished reader = true →
    s.next reader = (none, s) ∧ s.drain reader = ([], none, s)
  drain : ∀ reader items s', Exhausts reader s items s' ↔
    items = (s.drain reader).1.map .token ++ ((s.drain reader).2.1.map .error).toList ∧
      s' = (s.drain reader).2.2

/-- Whichever readers are opened and asked, the items come in the order of the outcome. -/
theorem run_delivers_outcome (source : Text) (steps : List Step) :
    ∃ pending, Delivers source
      (((start source).run steps).flatMap fun answered => answered.1.delivered) pending
      ((start source).after steps) := by
  have ready := Scan.ready_start source
  obtain ⟨events, ready'⟩ := events_run (s := start source) ready steps
  refine ⟨((start source).after steps).scan.events, ?_, ?_, isFinished_openReader _, ?_, ?_, ?_⟩
  · rw [outcome_eq_events ready, events]
  · intro reader h
    rw [next_eq h]
    exact Scan.pull_fst ready'
  · intro reader step opened
    exact isFinished_step opened step
  · intro reader h
    exact ⟨next_of_finished h, drain_of_finished h⟩
  · intro reader items s'
    exact exhausts_iff

end Session
end LoxLexer
