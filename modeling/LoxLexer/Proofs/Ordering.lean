import LoxLexer.Proofs.Sharing
import Mathlib.Logic.Relation

namespace LoxLexer

namespace Position

variable {p q r : Position}

theorem le_refl (p : Position) : p ≤ p := le_def.2 (.inr ⟨rfl, Nat.le_refl _⟩)

theorem le_of_lt (h : p < q) : p ≤ q := by
  rw [lt_def] at h
  rw [le_def]
  omega

theorem lt_of_le_of_lt (h : p ≤ q) (h' : q < r) : p < r := by
  rw [le_def] at h
  rw [lt_def] at h' ⊢
  omega

theorem lt_of_lt_of_le (h : p < q) (h' : q ≤ r) : p < r := by
  rw [lt_def] at h ⊢
  rw [le_def] at h'
  omega

theorem le_trans (h : p ≤ q) (h' : q ≤ r) : p ≤ r := by
  rw [le_def] at h h' ⊢
  omega

theorem lt_asymm (h : p < q) : ¬ q < p := by
  rw [lt_def] at h ⊢
  omega

theorem ne_of_lt (h : p < q) : p ≠ q := by
  rintro rfl
  exact lt_asymm h h

theorem lt_advance (p : Position) (c : Char) : p < p.advance c := by
  unfold advance
  split
  · exact down_lt p
  · exact right_lt p

theorem le_after (p : Position) (t : Text) : p ≤ p.after t := by
  induction t generalizing p with
  | nil => exact le_refl p
  | cons c t ih => exact le_trans (le_of_lt (lt_advance p c)) (ih _)

theorem lt_after (p : Position) {t : Text} (h : t ≠ []) : p < p.after t := by
  cases t with
  | nil => exact absurd rfl h
  | cons c t => exact lt_of_lt_of_le (lt_advance p c) (le_after _ t)

end Position

def Item.position : Item → Position
  | .token t => t.position
  | .error e => e.position

structure Item.Behind (p : Position) (item : Item) : Prop where
  le : p ≤ item.position
  lt : ∀ t, item = .token t → p < item.position

theorem Item.Behind.trans {p q : Position} {item : Item} (h : Behind q item) (le : p ≤ q) :
    Behind p item :=
  ⟨Position.le_trans le h.le, fun t token => Position.lt_of_le_of_lt le (h.lt t token)⟩

namespace Element

theorem le_positionBehind (e : Element) (p : Position) : p ≤ e.positionBehind p := by
  cases e with
  | stray c => exact Position.le_refl p
  | _ => exact Position.le_after p _

theorem position_item? {e : Element} {p : Position} {item : Item} (h : e.item? p = some item) :
    item.position = p := by
  cases e <;> cases h <;> rfl

theorem behind_item? {e : Element} {p : Position} {item : Item} (h : e.text ≠ [])
    (hi : e.item? (e.positionBehind p) = some item) : item.Behind p := by
  have position := position_item? hi
  refine ⟨position ▸ e.le_positionBehind p, ?_⟩
  rintro t rfl
  rw [position]
  cases e <;> cases hi
  exact Position.lt_after p h

end Element

theorem items_ordered (p : Position) (source : Text) :
    (∀ item ∈ Element.items p (elements source), item.Behind p) ∧
      (Element.items p (elements source)).Pairwise fun a b => b.Behind a.position := by
  fun_induction elements source generalizing p with
  | case1 => exact ⟨by simp [Element.items], .nil⟩
  | case2 c cs ih =>
    obtain ⟨behind, ordered⟩ := ih ((Element.next c cs).1.positionBehind p)
    have le := (Element.next c cs).1.le_positionBehind p
    rw [Element.items]
    cases here : (Element.next c cs).1.item? ((Element.next c cs).1.positionBehind p) with
    | none => exact ⟨fun item member => (behind item member).trans le, ordered⟩
    | some first =>
      have position := Element.position_item? here
      constructor
      · intro item member
        rcases List.mem_cons.1 member with rfl | member
        · exact Element.behind_item? (Element.text_next_ne_nil c cs) here
        · exact (behind item member).trans le
      · exact .cons (fun item member => position ▸ behind item member) ordered

theorem events_ordered (s : Scan) : s.events.Pairwise fun a b => b.Behind a.position :=
  (items_ordered s.position s.rest).2

namespace Scan

def Reaches : Scan → Scan → Prop := Relation.ReflTransGen fun s s' => s.step.2 = s'

variable {s s' : Scan} {e : ScanError} {item : Item}

theorem dispatch_unexpected {c : Char} (h : s.dispatch c = (some (.error e), s'))
    (cause : e.cause = .unexpectedCharacter) : e.position = s.position ∧ s'.position = s.position := by
  unfold dispatch at h
  split at h
  · cases h
  · cases h
  · unfold slash at h
    split at h <;> cases h
  · unfold string at h
    dsimp only at h
    split at h
    · cases h
      cases cause
    · cases h
  · cases h
  · cases h
  · cases h
  · cases h
    exact ⟨rfl, rfl⟩

theorem step_unexpected (h : s.step = (some (.error e), s')) (cause : e.cause = .unexpectedCharacter) :
    e.position = s.position ∧ s'.position = s.position := by
  unfold step at h
  split at h
  · cases h
  · obtain ⟨before, after⟩ := dispatch_unexpected h cause
    exact ⟨before, after⟩

theorem exists_step_of_pull (h : s.pull = (some item, s')) :
    ∃ d, s.Reaches d ∧ d.step = (some item, s') := by
  fun_induction pull s with
  | case1 => cases h
  | case2 s more next step ih =>
    obtain ⟨d, reaches, delivers⟩ := ih h
    exact ⟨d, .head (by rw [step]) reaches, delivers⟩
  | case3 s more item next step =>
    cases h
    exact ⟨s, .refl, step⟩

theorem exists_step_of_drain (h : s.drain.error? = some e) :
    ∃ d, s.Reaches d ∧ d.step = (some (.error e), s.drain.scan) := by
  fun_induction drain s with
  | case1 => cases h
  | case2 s e' s' pull =>
    cases h
    exact exists_step_of_pull pull
  | case3 s t s' pull after ih =>
    obtain ⟨d, reaches, delivers⟩ := exists_step_of_pull pull
    obtain ⟨d', reaches', raises⟩ := ih h
    exact ⟨d', reaches.trans (.head (by rw [delivers]) reaches'), raises⟩

end Scan

namespace Session

theorem exists_step_of_delivered {s : Session} {step : Step} {e : ScanError}
    (h : .error e ∈ (s.step step).1.delivered) :
    ∃ d, s.scan.Reaches d ∧ d.step = (some (.error e), (s.step step).2.scan) := by
  rcases s.step_cases step with ⟨delivered, scan⟩ | ⟨delivered, scan⟩ | ⟨delivered, scan⟩
  · rw [delivered] at h
    cases h
  · rw [delivered, Option.mem_toList] at h
    rw [scan]
    exact Scan.exists_step_of_pull (Prod.ext h rfl)
  · rw [delivered] at h
    rw [scan]
    apply Scan.exists_step_of_drain
    simpa [Scan.Drained.items] using h

theorem items_run_ordered (source : Text) (steps : List Step) :
    (((start source).run steps).flatMap fun answered => answered.1.delivered).Pairwise
      fun a b => b.Behind a.position := by
  obtain ⟨events, -⟩ := events_run (s := start source) (Scan.ready_start source) steps
  have ordered := events_ordered (start source).scan
  rw [events] at ordered
  exact (List.pairwise_append.1 ordered).1

theorem lt_of_pairwise {items : List Item} {i j : Nat} {item : Item} {u : Token}
    (ordered : items.Pairwise fun a b => b.Behind a.position) (hi : items[i]? = some item)
    (hj : items[j]? = some (.token u)) (lt : i < j) : item.position < u.position := by
  obtain ⟨hi', rfl⟩ := List.getElem?_eq_some_iff.1 hi
  obtain ⟨hj', token⟩ := List.getElem?_eq_some_iff.1 hj
  have behind := List.pairwise_iff_getElem.1 ordered i j hi' hj' lt
  rw [token] at behind
  exact behind.lt u rfl

/-- The items of a session are delivered in the order of their positions, and an unexpected character
leaves the position as it was when the character was met. -/
theorem run_ordered (source : Text) (steps : List Step) :
    let items := ((start source).run steps).flatMap fun answered => answered.1.delivered
    let s := (start source).after steps
    items.Pairwise (fun a b => b.Behind a.position) ∧
      (∀ (i j : Nat) (t u : Token), items[i]? = some (.token t) → items[j]? = some (.token u) →
        (t.position < u.position ↔ i < j) ∧ (t.position = u.position ↔ i = j)) ∧
      ∀ step e, .error e ∈ (s.step step).1.delivered → e.cause = .unexpectedCharacter →
        ∃ d, s.scan.Reaches d ∧ d.step = (some (.error e), (s.step step).2.scan) ∧
          e.position = d.position ∧ (s.step step).2.scan.position = d.position := by
  intro items s
  have ordered : items.Pairwise fun a b => b.Behind a.position := items_run_ordered source steps
  refine ⟨ordered, ?_, ?_⟩
  · intro i j t u hi hj
    rcases Nat.lt_trichotomy i j with lt | rfl | gt
    · have before : t.position < u.position := lt_of_pairwise ordered hi hj lt
      exact ⟨iff_of_true before lt, iff_of_false (Position.ne_of_lt before) lt.ne⟩
    · obtain rfl : t = u := Item.token.inj (Option.some.inj (hi.symm.trans hj))
      exact ⟨iff_of_false (fun lt => Position.lt_asymm lt lt) (Nat.lt_irrefl i), by simp⟩
    · have behind : u.position < t.position := lt_of_pairwise ordered hj hi gt
      exact ⟨iff_of_false (Position.lt_asymm behind) gt.le.not_gt,
        iff_of_false (Position.ne_of_lt behind).symm gt.ne'⟩
  · intro step e raised cause
    obtain ⟨d, reaches, raises⟩ := exists_step_of_delivered raised
    obtain ⟨before, after⟩ := Scan.step_unexpected raises cause
    exact ⟨d, reaches, raises, before, after⟩

theorem run_ordered_strays :
    let source : Text := "\"a\n\" @#b".toList
    let string : Token := ⟨.string, "\"a\n\"".toList, some (.string "a\n".toList), ⟨1, 1⟩⟩
    let word : Token := ⟨.identifier, ['b'], none, ⟨1, 3⟩⟩
    let e : ScanError := ⟨⟨1, 2⟩, ['#'], .unexpectedCharacter⟩
    let steps : List Step := [.openReader, .openReader, .next 1, .drain 0]
    let items := ((start source).run (steps ++ [.next 1, .openReader, .next 2])).flatMap
      fun answered => answered.1.delivered
    let s := (start source).after steps
    (items[0]? = some (.token string) ∧ items[3]? = some (.token word) ∧
        (string.position < word.position ↔ 0 < 3) ∧ (string.position = word.position ↔ 0 = 3)) ∧
      .error e ∈ (s.step (.next 1)).1.delivered ∧ e.cause = .unexpectedCharacter ∧
        ∃ d, s.scan.Reaches d ∧ d.step = (some (.error e), (s.step (.next 1)).2.scan) ∧
          e.position = d.position ∧ (s.step (.next 1)).2.scan.position = d.position := by
  intro source string word e steps items s
  have first : items[0]? = some (.token string) := by decide +kernel
  have last : items[3]? = some (.token word) := by decide +kernel
  have raised : .error e ∈ (s.step (.next 1)).1.delivered := by decide +kernel
  obtain ⟨-, tokens, -⟩ := run_ordered source (steps ++ [.next 1, .openReader, .next 2])
  obtain ⟨-, -, unexpected⟩ := run_ordered source steps
  obtain ⟨lt, eq⟩ := tokens 0 3 string word first last
  exact ⟨⟨first, last, lt, eq⟩, raised, rfl, unexpected (.next 1) e raised rfl⟩

end Session
end LoxLexer
