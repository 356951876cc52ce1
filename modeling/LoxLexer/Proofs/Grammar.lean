import LoxLexer.Proofs.Element
import Mathlib.Data.List.TakeWhile

/-!
# The lexical grammar

The lexical languages, said without any scanning, and where a text of one of them ends inside a
source.
-/

namespace LoxLexer

/-! ## The lexical languages -/

/-- The texts of each kind; those without a kind are the blanks and the comments. -/
inductive Lexeme : Option Kind → Text → Prop
  | blank {c : Char} (h : isBlank c = true) : Lexeme none [c]
  | comment {body : Text} (h : '\n' ∉ body) : Lexeme none ('/' :: '/' :: body)
  | lineComment {body : Text} (h : '\n' ∉ body) : Lexeme none ('/' :: '/' :: (body ++ ['\n']))
  | punctuator (p : Punctuator) : Lexeme (some (.punctuator p)) [p.symbol]
  | operator (o : Operator) : Lexeme (some (.operator o false)) [o.symbol]
  | operatorEqual (o : Operator) : Lexeme (some (.operator o true)) [o.symbol, '=']
  | string {payload : Text} (h : '"' ∉ payload) : Lexeme (some .string) ('"' :: (payload ++ ['"']))
  | whole {digits : Text} (h : digits ≠ []) (hd : ∀ d ∈ digits, d.isDigit = true) :
      Lexeme (some .number) digits
  | decimal {digits fraction : Text} (h : digits ≠ []) (hd : ∀ d ∈ digits, d.isDigit = true)
      (h' : fraction ≠ []) (hd' : ∀ d ∈ fraction, d.isDigit = true) :
      Lexeme (some .number) (digits ++ '.' :: fraction)
  | keyword (k : Keyword) : Lexeme (some (.keyword k)) k.spelling
  | identifier {c : Char} {cs : Text} (h : isLetter c = true)
      (hs : ∀ d ∈ cs, isAlphanumeric d = true) (h' : ∀ k : Keyword, k.spelling ≠ c :: cs) :
      Lexeme (some .identifier) (c :: cs)

def Ends : Option Kind → Text → Text → Prop
  | some .number, w, rest => (∀ c ∈ rest.head?, c.isDigit = false) ∧
      ('.' ∉ w → ∀ d t, rest = '.' :: d :: t → d.isDigit = false)
  | some .identifier, _, rest | some (.keyword _), _, rest =>
      ∀ c ∈ rest.head?, isAlphanumeric c = false
  | some (.operator _ false), _, rest => rest.head? ≠ some '='
  | some (.punctuator .slash), _, rest => rest.head? ≠ some '/'
  | none, w, rest => w.head? = some '/' → w.getLast? = some '\n' ∨ rest = []
  | _, _, _ => True

/-- No text of any language at the start of `source` is longer than `w`. -/
structure LongestMatch (source : Text) (k : Option Kind) (w rest : Text) : Prop where
  lexeme : Lexeme k w
  split : source = w ++ rest
  longest : ∀ k' w', Lexeme k' w' → w' <+: source → w'.length ≤ w.length

/-! ## The languages by their leads -/

def Lead.Spells : Lead → Option Kind → Char → Text → Prop
  | blank, k, _, t => k = none ∧ t = []
  | slash, k, _, t => k = some (.punctuator .slash) ∧ t = [] ∨
      k = none ∧ ∃ body, '\n' ∉ body ∧ (t = '/' :: body ∨ t = '/' :: (body ++ ['\n']))
  | punctuator p, k, _, t => k = some (.punctuator p) ∧ t = []
  | operator o, k, _, t =>
      k = some (.operator o false) ∧ t = [] ∨ k = some (.operator o true) ∧ t = ['=']
  | quote, k, _, t => k = some .string ∧ ∃ payload, '"' ∉ payload ∧ t = payload ++ ['"']
  | digit, k, _, t => k = some .number ∧ ((∀ d ∈ t, d.isDigit = true) ∨
      ∃ digits fraction, (∀ d ∈ digits, d.isDigit = true) ∧ fraction ≠ [] ∧
        (∀ d ∈ fraction, d.isDigit = true) ∧ t = digits ++ '.' :: fraction)
  | letter, k, c, t => k = some (.ofWord (c :: t)) ∧ ∀ d ∈ t, isAlphanumeric d = true
  | stray, _, _, _ => False

theorem ofWord_spelling (k : Keyword) : Kind.ofWord k.spelling = .keyword k := by
  rw [Kind.ofWord, Keyword.ofSpelling?_spelling]
  rfl

theorem ofWord_of_ne {w : Text} (h : ∀ k : Keyword, k.spelling ≠ w) : Kind.ofWord w = .identifier := by
  have none : Keyword.ofSpelling? w = none := by
    rw [Keyword.ofSpelling?, List.find?_eq_none]
    intro k _
    simpa using h k
  rw [Kind.ofWord, none]
  rfl

theorem exists_spelling_eq_cons (k : Keyword) :
    ∃ c t, k.spelling = c :: t ∧ isLetter c = true ∧ ∀ d ∈ t, isAlphanumeric d = true := by
  cases k <;> exact ⟨_, _, rfl, by decide, List.all_eq_true.1 (by decide)⟩

theorem Lexeme.spells {k : Option Kind} {c : Char} {t : Text} (h : Lexeme k (c :: t)) :
    (Lead.of c).Spells k c t := by
  generalize hw : c :: t = w at h
  cases h with
  | blank h =>
    cases hw
    rw [Lead.of_eq_of_begins .blank h]
    exact ⟨rfl, rfl⟩
  | comment h =>
    cases hw
    exact .inr ⟨rfl, _, h, .inl rfl⟩
  | lineComment h =>
    cases hw
    exact .inr ⟨rfl, _, h, .inr rfl⟩
  | punctuator p =>
    cases hw
    by_cases hp : p = .slash
    · subst hp
      exact .inl ⟨rfl, rfl⟩
    · rw [Lead.of_eq_of_begins (.punctuator p) ⟨hp, rfl⟩]
      exact ⟨rfl, rfl⟩
  | operator o =>
    cases hw
    rw [Lead.of_eq_of_begins (.operator o) rfl]
    exact .inl ⟨rfl, rfl⟩
  | operatorEqual o =>
    cases hw
    rw [Lead.of_eq_of_begins (.operator o) rfl]
    exact .inr ⟨rfl, rfl⟩
  | string h =>
    cases hw
    exact ⟨rfl, _, h, rfl⟩
  | whole h hd =>
    subst hw
    rw [Lead.of_eq_of_begins .digit (hd c List.mem_cons_self)]
    exact ⟨rfl, .inl fun d member => hd d (List.mem_cons_of_mem _ member)⟩
  | @decimal digits fraction h hd h' hd' =>
    cases digits with
    | nil => exact absurd rfl h
    | cons d digits =>
      cases hw
      rw [Lead.of_eq_of_begins .digit (hd c List.mem_cons_self)]
      exact ⟨rfl, .inr ⟨digits, fraction, fun d member => hd d (List.mem_cons_of_mem _ member),
        h', hd', rfl⟩⟩
  | keyword k =>
    obtain ⟨d, u, same, letter, others⟩ := exists_spelling_eq_cons k
    rw [same] at hw
    cases hw
    rw [Lead.of_eq_of_begins .letter letter]
    exact ⟨by rw [← same, ofWord_spelling], others⟩
  | identifier h hs h' =>
    cases hw
    rw [Lead.of_eq_of_begins .letter h]
    exact ⟨by rw [ofWord_of_ne h'], hs⟩

theorem Lexeme.ne_nil {k : Option Kind} {w : Text} (h : Lexeme k w) : w ≠ [] := by
  rintro rfl
  generalize hw : ([] : Text) = w at h
  cases h with
  | whole h => exact h hw.symm
  | decimal => simp at hw
  | keyword k =>
    obtain ⟨c, t, same, -⟩ := exists_spelling_eq_cons k
    rw [same] at hw
    cases hw
  | _ => cases hw

theorem Lexeme.exists_cons {k : Option Kind} {w : Text} (h : Lexeme k w) :
    ∃ c t, w = c :: t ∧ (Lead.of c).Spells k c t := by
  obtain ⟨c, t, rfl⟩ := List.exists_cons_of_ne_nil h.ne_nil
  exact ⟨c, t, rfl, h.spells⟩

theorem Lead.Spells.kind_eq {l : Lead} {k k' : Option Kind} {c : Char} {t : Text}
    (h : l.Spells k c t) (h' : l.Spells k' c t) : k = k' := by
  cases l with
  | slash =>
    rcases h with ⟨rfl, rfl⟩ | ⟨rfl, body, -, rfl | rfl⟩ <;>
      rcases h' with ⟨rfl, same⟩ | ⟨rfl, body', -, same | same⟩ <;> simp_all
  | operator o =>
    rcases h with ⟨rfl, rfl⟩ | ⟨rfl, rfl⟩ <;> rcases h' with ⟨rfl, same⟩ | ⟨rfl, same⟩ <;>
      simp_all
  | stray => exact h.elim
  | _ => exact h.1.trans h'.1.symm

theorem Lexeme.kind_eq {k k' : Option Kind} {w : Text} (h : Lexeme k w) (h' : Lexeme k' w) :
    k = k' := by
  obtain ⟨c, t, rfl, spells⟩ := h.exists_cons
  exact spells.kind_eq h'.spells

/-! ## Ends of lexemes -/

theorem append_cons_inj {p : Char → Bool} {t u v w : Text} {d e : Char} (ht : ∀ c ∈ t, p c = true)
    (hd : p d = false) (hv : ∀ c ∈ v, p c = true) (he : p e = false)
    (h : t ++ d :: u = v ++ e :: w) : t = v ∧ d = e ∧ u = w := by
  have same : t = v := by
    have := congrArg (List.takeWhile p) h
    rwa [List.takeWhile_append_of_pos ht, List.takeWhile_append_of_pos hv,
      List.takeWhile_cons_of_neg (by simp [hd]), List.takeWhile_cons_of_neg (by simp [he]),
      List.append_nil, List.append_nil] at this
  subst same
  have tails := List.append_cancel_left h
  exact ⟨rfl, (List.cons.inj tails).1, (List.cons.inj tails).2⟩

theorem append_delimiter_inj {d : Char} {t u v w : Text} (ht : d ∉ t) (hv : d ∉ v)
    (h : t ++ d :: u = v ++ d :: w) : t = v ∧ u = w := by
  have differs : ∀ {s : Text}, d ∉ s → ∀ c ∈ s, (c != d) = true := by
    intro s hs c hc
    rw [bne_iff_ne]
    rintro rfl
    exact hs hc
  obtain ⟨same, -, rest⟩ :=
    append_cons_inj (p := (· != d)) (differs ht) (by simp) (differs hv) (by simp) h
  exact ⟨same, rest⟩

theorem Lexeme.number_inv {w : Text} (h : Lexeme (some .number) w) :
    (∃ c ∈ w.head?, c.isDigit = true) ∧ ((∀ d ∈ w, d.isDigit = true) ∨
      ∃ digits fraction, (∀ d ∈ digits, d.isDigit = true) ∧ fraction ≠ [] ∧
        (∀ d ∈ fraction, d.isDigit = true) ∧ w = digits ++ '.' :: fraction) := by
  cases h with
  | whole h hd =>
    obtain ⟨c, t, rfl⟩ := List.exists_cons_of_ne_nil h
    exact ⟨⟨c, rfl, hd c List.mem_cons_self⟩, .inl hd⟩
  | @decimal digits fraction h hd h' hd' =>
    obtain ⟨c, t, rfl⟩ := List.exists_cons_of_ne_nil h
    exact ⟨⟨c, rfl, hd c List.mem_cons_self⟩, .inr ⟨_, fraction, hd, h', hd', rfl⟩⟩

theorem Lexeme.number_of_digit {k : Option Kind} {w : Text} (h : Lexeme k w)
    (hd : ∃ c ∈ w.head?, c.isDigit = true) : k = some .number := by
  obtain ⟨c, t, rfl, spells⟩ := h.exists_cons
  obtain ⟨d, hc, digit⟩ := hd
  cases hc
  rw [Lead.of_eq_of_begins .digit digit] at spells
  exact spells.1

theorem Lexeme.number_iff {kind : Kind} {w : Text} (h : Lexeme (some kind) w) :
    kind = .number ↔ ∃ c ∈ w.head?, c.isDigit = true := by
  constructor
  · rintro rfl
    exact h.number_inv.1
  · intro digit
    exact Option.some.inj (h.number_of_digit digit)

theorem Lexeme.not_number_extension {k : Option Kind} {w u v : Text} {d : Char}
    (h : Lexeme (some .number) w) (ends : Ends (some .number) w (d :: u ++ v)) :
    ¬ Lexeme k (w ++ d :: u) := by
  intro h'
  obtain ⟨stop, point⟩ := ends
  have hd : d.isDigit = false := stop d rfl
  have notPoint : Char.isDigit '.' = false := rfl
  obtain ⟨⟨c, hc, first⟩, forms⟩ := h.number_inv
  obtain rfl : k = some .number := by
    refine h'.number_of_digit ⟨c, ?_, first⟩
    rw [List.head?_append, Option.mem_def.1 hc]
    rfl
  obtain ⟨-, forms'⟩ := h'.number_inv
  rcases forms with digits | ⟨digits, fraction, hds, -, hfs, rfl⟩
  · rcases forms' with others | ⟨digits', fraction', hds', nonempty, hfs', same⟩
    · exact Bool.false_ne_true (hd.symm.trans (others d (by simp)))
    · obtain ⟨-, rfl, rfl⟩ := append_cons_inj digits hd hds' notPoint same
      obtain ⟨e, fs, rfl⟩ := List.exists_cons_of_ne_nil nonempty
      have noPoint : '.' ∉ w := fun member =>
        Bool.false_ne_true (notPoint.symm.trans (digits '.' member))
      have he := point noPoint e (fs ++ v) rfl
      exact Bool.false_ne_true (he.symm.trans (hfs' e List.mem_cons_self))
  · rcases forms' with others | ⟨digits', fraction', hds', nonempty, hfs', same⟩
    · exact Bool.false_ne_true (notPoint.symm.trans (others '.' (by simp)))
    · rw [List.append_assoc, List.cons_append] at same
      obtain ⟨-, -, rfl⟩ := append_cons_inj hds notPoint hds' notPoint same
      exact Bool.false_ne_true (hd.symm.trans (hfs' d (by simp)))

theorem Lexeme.not_word_extension {k : Option Kind} {c d : Char} {t u : Text}
    (letter : isLetter c = true) (stop : isAlphanumeric d = false) :
    ¬ Lexeme k (c :: (t ++ d :: u)) := by
  intro h
  have spells := h.spells
  rw [Lead.of_eq_of_begins .letter letter] at spells
  exact Bool.false_ne_true (stop.symm.trans (spells.2 d (by simp)))

theorem Lexeme.not_extension {k k' : Option Kind} {w u v : Text} {d : Char} (h : Lexeme k w)
    (ends : Ends k w (d :: u ++ v)) : ¬ Lexeme k' (w ++ d :: u) := by
  intro h'
  cases h with
  | blank h =>
    have spells := h'.spells
    rw [Lead.of_eq_of_begins .blank h] at spells
    cases spells.2
  | @comment body h =>
    rcases ends rfl with last | none
    · have member := List.mem_of_getLast? last
      simp [h] at member
    · cases none
  | @lineComment body h =>
    rcases (h'.spells : Lead.slash.Spells k' '/' _) with ⟨-, none⟩ | ⟨-, body', hb, same | same⟩
    · cases none
    · apply hb
      rw [← (List.cons.inj same).2]
      simp
    · have tails : body ++ '\n' :: d :: u = body' ++ ['\n'] := by simpa using same
      cases (append_delimiter_inj h hb tails).2
  | punctuator p =>
    by_cases hp : p = .slash
    · subst hp
      rcases (h'.spells : Lead.slash.Spells k' '/' _) with ⟨-, none⟩ | ⟨-, body', -, same | same⟩
      · cases none
      · cases same
        exact ends rfl
      · cases same
        exact ends rfl
    · have spells := h'.spells
      rw [Lead.of_eq_of_begins (.punctuator p) ⟨hp, rfl⟩] at spells
      cases spells.2
  | operator o =>
    have spells := h'.spells
    rw [Lead.of_eq_of_begins (.operator o) rfl] at spells
    rcases spells with ⟨-, none⟩ | ⟨-, equal⟩
    · cases none
    · cases equal
      exact ends rfl
  | operatorEqual o =>
    have spells := h'.spells
    rw [Lead.of_eq_of_begins (.operator o) rfl] at spells
    rcases spells with ⟨-, none⟩ | ⟨-, equal⟩
    · cases none
    · cases equal
  | @string payload h =>
    obtain ⟨-, payload', hp, same⟩ : Lead.quote.Spells k' '"' _ := h'.spells
    have tails : payload ++ '"' :: d :: u = payload' ++ ['"'] := by simpa using same
    cases (append_delimiter_inj h hp tails).2
  | whole h hd => exact (Lexeme.whole h hd).not_number_extension ends h'
  | decimal h hd hf hd' => exact (Lexeme.decimal h hd hf hd').not_number_extension ends h'
  | keyword k =>
    obtain ⟨c, t, same, letter, -⟩ := exists_spelling_eq_cons k
    rw [same] at h'
    exact Lexeme.not_word_extension letter (ends d rfl) h'
  | identifier letter => exact Lexeme.not_word_extension letter (ends d rfl) h'

theorem Lexeme.longestMatch {k : Option Kind} {w rest : Text} (h : Lexeme k w)
    (ends : Ends k w rest) : LongestMatch (w ++ rest) k w rest := by
  refine ⟨h, rfl, ?_⟩
  intro k' w' h' pre
  rcases List.prefix_or_prefix_of_prefix pre (List.prefix_append w rest) with shorter | ⟨u, rfl⟩
  · exact shorter.length_le
  · cases u with
    | nil => simp
    | cons d u =>
      obtain ⟨v, rfl⟩ := (List.prefix_append_right_inj w).1 pre
      exact absurd h' (h.not_extension ends)

theorem LongestMatch.unique {source : Text} {k k' : Option Kind} {w w' rest rest' : Text}
    (h : LongestMatch source k w rest) (h' : LongestMatch source k' w' rest') :
    k = k' ∧ w = w' ∧ rest = rest' := by
  have le := h.longest k' w' h'.lexeme ⟨rest', h'.split.symm⟩
  have ge := h'.longest k w h.lexeme ⟨rest, h.split.symm⟩
  obtain ⟨rfl, rfl⟩ := List.append_inj (h.split.symm.trans h'.split) (by omega)
  exact ⟨h.lexeme.kind_eq h'.lexeme, rfl, rfl⟩

/-! ## Elements and lexemes -/

def Element.language? : Element → Option (Option Kind)
  | .blank _ | .comment _ => some none
  | .token kind _ => some (some kind)
  | .stray _ | .openString _ => none

theorem splitLine_cases (t : Text) :
    '\n' ∉ (Text.splitLine t).1 ∧ (Text.splitLine t).2 = [] ∨
      ∃ body, '\n' ∉ body ∧ (Text.splitLine t).1 = body ++ ['\n'] := by
  induction t with
  | nil => exact .inl ⟨by simp [Text.splitLine], rfl⟩
  | cons c t ih =>
    rw [Text.splitLine]
    by_cases hc : c = '\n'
    · rw [if_pos hc]
      exact .inr ⟨[], by simp, by simp [hc]⟩
    · rw [if_neg hc]
      rcases ih with ⟨noEnd, rest⟩ | ⟨body, hb, first⟩
      · exact .inl ⟨by simp [noEnd, Ne.symm hc], rest⟩
      · exact .inr ⟨c :: body, by simp [hb, Ne.symm hc], by simp [first]⟩

theorem head_dropWhile {p : Char → Bool} {t : Text} : ∀ c ∈ (t.dropWhile p).head?, p c = false := by
  intro c hc
  have := List.head?_dropWhile_not p t
  rwa [Option.mem_def.1 hc] at this

theorem splitFraction_cases (t : Text) :
    Element.splitFraction t = ([], t) ∧ (∀ d u, t = '.' :: d :: u → d.isDigit = false) ∨
      ∃ fraction rest, fraction ≠ [] ∧ (∀ d ∈ fraction, d.isDigit = true) ∧
        (∀ c ∈ rest.head?, c.isDigit = false) ∧ Element.splitFraction t = ('.' :: fraction, rest) := by
  unfold Element.splitFraction
  split
  · rename_i d t
    split
    · rename_i digit
      refine .inr ⟨_, _, ?_, ?_, head_dropWhile, rfl⟩
      · rw [List.takeWhile_cons_of_pos digit]
        exact List.cons_ne_nil _ _
      · exact fun e he => List.all_eq_true.1 List.all_takeWhile e he
    · rename_i digit
      refine .inl ⟨rfl, ?_⟩
      rintro e u ⟨⟩
      simpa using digit
  · rename_i other
    exact .inl ⟨rfl, fun d u same => (other d u same).elim⟩

def Complete (next : Element × Text) : Prop :=
  ∀ k, next.1.language? = some k → Lexeme k next.1.text ∧ Ends k next.1.text next.2

theorem complete_number {c : Char} (cs : Text) (digit : c.isDigit = true) :
    Complete (Element.number c cs) := by
  rintro k ⟨⟩
  have whole : ∀ d ∈ c :: cs.takeWhile Char.isDigit, d.isDigit = true := by
    intro d hd
    rcases List.mem_cons.1 hd with rfl | hd
    · exact digit
    · exact List.all_eq_true.1 List.all_takeWhile d hd
  simp only [Element.number, Element.text]
  rcases splitFraction_cases (cs.dropWhile Char.isDigit) with
    ⟨eq, point⟩ | ⟨fraction, rest, nonempty, digits, stop, eq⟩
  · rw [eq, List.append_nil]
    exact ⟨.whole (List.cons_ne_nil _ _) whole, head_dropWhile, fun _ => point⟩
  · rw [eq]
    refine ⟨.decimal (List.cons_ne_nil _ _) whole nonempty digits, stop, ?_⟩
    intro noPoint
    simp at noPoint

theorem lexeme_word {c : Char} {cs : Text} (letter : isLetter c = true)
    (word : ∀ d ∈ cs, isAlphanumeric d = true) : Lexeme (some (.ofWord (c :: cs))) (c :: cs) := by
  by_cases h : ∃ k : Keyword, k.spelling = c :: cs
  · obtain ⟨k, spelling⟩ := h
    rw [← spelling, ofWord_spelling]
    exact .keyword k
  · rw [ofWord_of_ne fun k spelling => h ⟨k, spelling⟩]
    exact .identifier letter word fun k spelling => h ⟨k, spelling⟩

theorem ends_word {w rest : Text} (h : ∀ c ∈ rest.head?, isAlphanumeric c = false) :
    Ends (some (.ofWord w)) w rest := by
  unfold Kind.ofWord
  cases Keyword.ofSpelling? w <;> exact h

theorem complete_word {c : Char} (cs : Text) (letter : isLetter c = true) :
    Complete (Element.word c cs) := by
  rintro k ⟨⟩
  exact ⟨lexeme_word letter fun d hd => List.all_eq_true.1 List.all_takeWhile d hd,
    ends_word head_dropWhile⟩

theorem complete_string (cs : Text) : Complete (Element.string '"' cs) := by
  intro k h
  unfold Element.string at h ⊢
  dsimp only at h ⊢
  split at h
  · cases h
  · rename_i close rest eq
    have := head_dropWhile close (by rw [eq]; rfl)
    obtain rfl : close = '"' := by simpa using this
    cases h
    refine ⟨.string ?_, trivial⟩
    intro member
    have := List.all_eq_true.1 List.all_takeWhile '"' member
    simp at this

theorem complete_slash (cs : Text) : Complete (Element.slash '/' cs) := by
  intro k h
  unfold Element.slash at h ⊢
  split at h
  · rename_i t
    cases h
    rcases splitLine_cases t with ⟨noEnd, rest⟩ | ⟨body, hb, first⟩
    · exact ⟨.comment noEnd, fun _ => .inr rest⟩
    · dsimp only [Element.text]
      rw [first]
      refine ⟨.lineComment hb, fun _ => .inl ?_⟩
      rw [← List.cons_append, ← List.cons_append, List.getLast?_concat]
  · rename_i other
    cases h
    refine ⟨.punctuator .slash, ?_⟩
    intro head
    obtain ⟨t, rfl⟩ := List.head?_eq_some_iff.1 head
    exact other t rfl

theorem complete_operator (o : Operator) (cs : Text) :
    Complete (Element.operator o o.symbol cs) := by
  intro k h
  unfold Element.operator at h ⊢
  split at h
  · cases h
    exact ⟨.operatorEqual o, trivial⟩
  · rename_i other
    cases h
    refine ⟨.operator o, ?_⟩
    intro head
    obtain ⟨t, rfl⟩ := List.head?_eq_some_iff.1 head
    exact other t rfl

theorem complete_next (c : Char) (cs : Text) : Complete (Element.next c cs) := by
  unfold Element.next
  cases lead : Lead.of c with
  | stray => rintro k ⟨⟩
  | digit => exact complete_number cs ((Lead.of_eq_iff (by simp)).1 lead)
  | letter => exact complete_word cs ((Lead.of_eq_iff (by simp)).1 lead)
  | blank =>
    have blank : isBlank c = true := (Lead.of_eq_iff (by simp)).1 lead
    rintro k ⟨⟩
    refine ⟨.blank blank, ?_⟩
    rintro ⟨⟩
    exact absurd blank (by decide)
  | quote =>
    obtain rfl : c = '"' := (Lead.of_eq_iff (by simp)).1 lead
    exact complete_string cs
  | slash =>
    obtain rfl : c = '/' := (Lead.of_eq_iff (by simp)).1 lead
    exact complete_slash cs
  | punctuator p =>
    obtain ⟨hp, rfl⟩ := (Lead.of_eq_iff (by simp)).1 lead
    rintro k ⟨⟩
    refine ⟨.punctuator p, ?_⟩
    cases p <;> first | exact absurd rfl hp | trivial
  | operator o =>
    obtain rfl : c = o.symbol := (Lead.of_eq_iff (by simp)).1 lead
    exact complete_operator o cs

theorem next_fault {c : Char} {cs : Text} (h : (Element.next c cs).1.language? = none) :
    c = '"' ∧ '"' ∉ cs ∧ Element.next c cs = (.openString (c :: cs), []) ∨
      Lead.of c = .stray ∧ Element.next c cs = (.stray c, cs) := by
  cases lead : Lead.of c with
  | quote =>
    obtain rfl : c = '"' := (Lead.of_eq_iff (by simp)).1 lead
    rw [Element.next, lead] at h ⊢
    unfold Element.string at h ⊢
    dsimp only at h ⊢
    split at h
    · rename_i unclosed
      have absent := List.dropWhile_eq_nil_iff.1 unclosed
      refine .inl ⟨rfl, fun quote => by simpa using absent '"' quote, ?_⟩
      rw [List.takeWhile_eq_self_iff.2 absent]
    · cases h
  | stray =>
    rw [Element.next, lead]
    exact .inr ⟨rfl, rfl⟩
  | slash =>
    rw [Element.next, lead] at h
    unfold Element.slash at h
    dsimp only at h
    split at h <;> cases h
  | operator o =>
    rw [Element.next, lead] at h
    unfold Element.operator at h
    dsimp only at h
    split at h <;> cases h
  | _ =>
    rw [Element.next, lead] at h
    cases h

theorem not_lexeme_next {k : Option Kind} {c : Char} {cs w : Text}
    (h : (Element.next c cs).1.language? = none) (hw : Lexeme k w) : ¬ w <+: c :: cs := by
  intro pre
  obtain ⟨d, t, rfl, spells⟩ := hw.exists_cons
  obtain ⟨rfl, tail⟩ := List.cons_prefix_cons.1 pre
  rcases next_fault h with ⟨rfl, unclosed, -⟩ | ⟨lead, -⟩
  · obtain ⟨-, payload, -, rfl⟩ : Lead.quote.Spells k '"' t := spells
    exact unclosed (tail.subset (by simp))
  · rw [lead] at spells
    exact spells

theorem longestMatch_next {k : Option Kind} {c : Char} {cs : Text}
    (h : (Element.next c cs).1.language? = some k) :
    LongestMatch (c :: cs) k (Element.next c cs).1.text (Element.next c cs).2 := by
  obtain ⟨lexeme, ends⟩ := complete_next c cs k h
  rw [← Element.next_text c cs]
  exact lexeme.longestMatch ends

theorem next_of_longestMatch {k : Option Kind} {c : Char} {cs w rest : Text}
    (h : LongestMatch (c :: cs) k w rest) :
    (Element.next c cs).1.language? = some k ∧ (Element.next c cs).1.text = w ∧
      (Element.next c cs).2 = rest := by
  cases hk : (Element.next c cs).1.language? with
  | none => exact absurd ⟨rest, h.split.symm⟩ (not_lexeme_next hk h.lexeme)
  | some k' =>
    obtain ⟨rfl, texts⟩ := (longestMatch_next hk).unique h
    exact ⟨rfl, texts⟩

theorem elements_of_longestMatch {k : Option Kind} {source w rest : Text}
    (h : LongestMatch source k w rest) :
    ∃ e, elements source = e :: elements rest ∧ e.language? = some k ∧ e.text = w := by
  obtain ⟨c, t, same⟩ := List.exists_cons_of_ne_nil h.lexeme.ne_nil
  obtain ⟨cs, rfl⟩ : ∃ cs, source = c :: cs := ⟨t ++ rest, by rw [h.split, same, List.cons_append]⟩
  obtain ⟨language, text, rfl⟩ := next_of_longestMatch h
  exact ⟨_, elements_cons c cs, language, text⟩

theorem Element.eq_token_of_language? {e : Element} {kind : Kind}
    (h : e.language? = some (some kind)) : e = .token kind e.text := by
  cases e <;> cases h
  rfl

end LoxLexer
