import LoxLexer.Proofs.RoundTrips

namespace LoxLexer.Literal

inductive Form
  | boolean
  | number
  | string
deriving DecidableEq, Repr

namespace Form

def all : List Form := [boolean, number, string]

def read : Form → Text → Except LiteralError Literal
  | boolean => parseBoolean
  | number => parseNumber
  | string => parseString

def refusal : Form → LiteralError.Reason
  | boolean => .notBoolean
  | number => .notNumber
  | string => .notString

/-- The texts of a form, and the literal that each of them spells. Double quotes inside a string
belong to its payload. -/
inductive Spells : Form → Text → Literal → Prop
  | isTrue : Spells boolean "true".toList (.boolean true)
  | isFalse : Spells boolean "false".toList (.boolean false)
  | number {n : Numeral} {t : Text} (h : n.Writes t) : Spells number t (.number n.number)
  | string {t : Text} (quotes : 2 ≤ t.length) (opening : t.head? = some '"')
      (closing : t.getLast? = some '"') : Spells string t (.string t.tail.dropLast)

variable {f g : Form} {t : Text} {l m : Literal} {forms : List Form}

theorem mem_all (f : Form) : f ∈ all := by cases f <;> decide

theorem quoted_iff {u : Text} {c : Char} :
    2 ≤ (c :: u).length ∧ (c :: u).getLast? = some '"' ↔ u.getLast? = some '"' := by
  cases u with
  | nil => simp
  | cons d u => simp [List.getLast?_cons_cons]

theorem parseString_eq_ok_iff : parseString t = .ok l ↔ Spells string t l := by
  constructor
  · intro read
    unfold parseString at read
    split at read
    · rename_i u
      split at read
      · rename_i last
        cases read
        obtain ⟨quotes, closing⟩ := quoted_iff.2 last
        exact .string quotes rfl closing
      · cases read
    · cases read
  · intro spells
    cases spells with
    | string quotes opening closing =>
      obtain ⟨u, rfl⟩ := List.head?_eq_some_iff.1 opening
      exact if_pos (quoted_iff.1 ⟨quotes, closing⟩)

theorem read_eq_ok_iff : f.read t = .ok l ↔ f.Spells t l := by
  cases f with
  | boolean =>
    constructor
    · intro read
      simp only [Form.read, parseBoolean] at read
      split_ifs at read with isTrue isFalse
      · cases read
        rw [isTrue]
        exact .isTrue
      · cases read
        rw [isFalse]
        exact .isFalse
    · rintro (_ | _) <;> rfl
  | number =>
    constructor
    · intro read
      simp only [Form.read, parseNumber] at read
      split at read
      · rename_i n numeral
        cases read
        exact .number (Numeral.parse?_eq_some_iff.1 numeral)
      · cases read
    · intro spells
      cases spells with
      | number writes => simp only [Form.read, parseNumber, Numeral.parse?_eq_some_iff.2 writes]
  | string => exact parseString_eq_ok_iff

theorem read_cases (f : Form) (t : Text) :
    (∃ l, f.read t = .ok l) ∨ f.read t = .error ⟨t, f.refusal⟩ := by
  cases f with
  | boolean =>
    dsimp only [read]
    unfold parseBoolean
    split_ifs
    · exact .inl ⟨_, rfl⟩
    · exact .inl ⟨_, rfl⟩
    · exact .inr rfl
  | number =>
    dsimp only [read]
    unfold parseNumber
    split
    · exact .inl ⟨_, rfl⟩
    · exact .inr rfl
  | string =>
    dsimp only [read]
    unfold parseString
    split
    · split
      · exact .inl ⟨_, rfl⟩
      · exact .inr rfl
    · exact .inr rfl

theorem read_eq_error (h : ∀ l, ¬f.Spells t l) : f.read t = .error ⟨t, f.refusal⟩ := by
  refine (f.read_cases t).resolve_left ?_
  rintro ⟨l, read⟩
  exact h l (read_eq_ok_iff.1 read)

def ofFirst (c : Char) : Form := if c = '"' then string else if isLetter c then boolean else number

theorem Spells.exists_cons (h : f.Spells t l) : ∃ c u, t = c :: u ∧ ofFirst c = f := by
  cases h with
  | isTrue => exact ⟨_, _, rfl, by decide⟩
  | isFalse => exact ⟨_, _, rfl, by decide⟩
  | number writes =>
    obtain ⟨c, u, rfl, first⟩ := writes.exists_cons
    have noQuote : c ≠ '"' := by
      rintro rfl
      simp at first
    refine ⟨c, u, rfl, ?_⟩
    rw [ofFirst, if_neg noQuote, not_isLetter_of_first first]
    rfl
  | string _ opening =>
    obtain ⟨u, rfl⟩ := List.head?_eq_some_iff.1 opening
    exact ⟨_, u, rfl, rfl⟩

theorem Spells.form_eq (h : f.Spells t l) (h' : g.Spells t m) : f = g := by
  obtain ⟨c, u, rfl, rfl⟩ := h.exists_cons
  obtain ⟨d, v, same, rfl⟩ := h'.exists_cons
  rw [(List.cons.inj same).1]

theorem findSome?_read (member : f ∈ forms) (spells : f.Spells t l) :
    forms.findSome? (fun g => (g.read t).toOption) = some l := by
  induction forms with
  | nil => cases member
  | cons g forms ih =>
    rw [List.findSome?_cons]
    rcases g.read_cases t with ⟨m, read⟩ | refused
    · obtain rfl : g = f := (read_eq_ok_iff.1 read).form_eq spells
      rw [read_eq_ok_iff.2 spells]
      rfl
    · have later : f ∈ forms := by
        refine (List.mem_cons.1 member).resolve_left ?_
        rintro rfl
        cases refused.symm.trans (read_eq_ok_iff.2 spells)
      rw [refused]
      exact ih later

theorem findSome?_eq_none (h : ∀ f l, ¬Spells f t l) :
    forms.findSome? (fun g => (g.read t).toOption) = none := by
  rw [List.findSome?_eq_none_iff]
  intro g _
  rw [read_eq_error (h g)]
  rfl

end Form

variable {t : Text} {l : Literal}

theorem parse?_eq_findSome? (t : Text) :
    parse? t = Form.all.findSome? fun f => (f.read t).toOption := by
  simp only [parse?_eq, Form.all, Form.read, List.findSome?]
  cases parseBoolean t <;> cases parseNumber t <;> cases parseString t <;> rfl

theorem parse_of_parse? (h : parse? t = some l) : parse t = .ok l := by
  unfold parse? at h
  cases read : parse t with
  | ok m =>
    rw [read] at h
    exact congrArg Except.ok (Option.some.inj h)
  | error e =>
    rw [read] at h
    cases h

theorem parse_of_forall_not_spells (h : ∀ f l, ¬Form.Spells f t l) :
    parse t = .error ⟨t, .notString⟩ := by
  rw [parse, show parseBoolean t = _ from Form.read_eq_error (h .boolean),
    show parseNumber t = _ from Form.read_eq_error (h .number),
    show parseString t = _ from Form.read_eq_error (h .string)]
  rfl

theorem parse_of_spells {f : Form} (h : f.Spells t l) : parse t = .ok l := by
  apply parse_of_parse?
  rw [parse?_eq_findSome?, Form.findSome?_read f.mem_all h]

theorem parse_eq_ok_iff : parse t = .ok l ↔ ∃ f, Form.Spells f t l := by
  refine ⟨fun read => ?_, fun ⟨f, spells⟩ => parse_of_spells spells⟩
  by_contra none
  have refused : ∀ f m, ¬Form.Spells f t m := by
    intro f m spells
    cases read.symm.trans (parse_of_spells spells)
    exact none ⟨f, spells⟩
  cases read.symm.trans (parse_of_forall_not_spells refused)

theorem findSome?_perm {forms : List Form} (h : forms.Perm Form.all) :
    forms.findSome? (fun f => (f.read t).toOption) = parse? t := by
  rw [parse?_eq_findSome?]
  by_cases spelled : ∃ f l, Form.Spells f t l
  · obtain ⟨f, l, spells⟩ := spelled
    rw [Form.findSome?_read (h.mem_iff.2 f.mem_all) spells, Form.findSome?_read f.mem_all spells]
  · have none : ∀ f l, ¬Form.Spells f t l := fun f l spells => spelled ⟨f, l, spells⟩
    rw [Form.findSome?_eq_none none, Form.findSome?_eq_none none]

/-- Each reader takes the texts of its form, which have no other form. So the readers find the same
literal in any order. A text of no form is refused as the last reader refuses it. -/
theorem parse_forms (t : Text) :
    (∀ (f : Form) (l : Literal), f.read t = .ok l ↔ f.Spells t l) ∧
    (∀ (f g : Form) (l m : Literal), f.read t = .ok l → g.read t = .ok m → f = g) ∧
    (∀ forms : List Form, forms.Perm Form.all →
      forms.findSome? (fun f => (f.read t).toOption) = parse? t) ∧
    (∀ l : Literal, parse t = .ok l ↔ ∃ f, Form.Spells f t l) ∧
    ((∀ f l, ¬Form.Spells f t l) → ∃ e, parse t = .error e ∧ parseString t = .error e ∧
      e.text = t ∧ e.detail = "Incorrectly formatted string!".toList) := by
  refine ⟨fun _ _ => Form.read_eq_ok_iff, ?_, fun _ => findSome?_perm, fun _ => parse_eq_ok_iff, ?_⟩
  · intro f g l m readF readG
    exact (Form.read_eq_ok_iff.1 readF).form_eq (Form.read_eq_ok_iff.1 readG)
  · intro none
    exact ⟨⟨t, .notString⟩, parse_of_forall_not_spells none, Form.read_eq_error (none .string), rfl,
      rfl⟩

theorem parse_forms_feed :
    let quoted : Text := "\"1\"\"".toList
    let feed : Text := "1.\n".toList
    ([.string, .number, .boolean] : List Form).findSome? (fun f => (f.read quoted).toOption) =
        parse? quoted ∧ parse? quoted = some (.string "1\"".toList) ∧
      (∀ f l, ¬Form.Spells f feed l) ∧
      ∃ e, parse feed = .error e ∧ parseString feed = .error e ∧ e.text = feed ∧
        e.detail = "Incorrectly formatted string!".toList := by
  intro quoted feed
  have refused : ∀ f : Form, f.read feed = .error ⟨feed, f.refusal⟩ := by
    intro f
    cases f <;> decide
  have none : ∀ f l, ¬Form.Spells f feed l := by
    intro f l spells
    cases (refused f).symm.trans (Form.read_eq_ok_iff.2 spells)
  exact ⟨(parse_forms quoted).2.2.1 _ (by decide), by decide, none,
    (parse_forms feed).2.2.2.2 none⟩

end LoxLexer.Literal
