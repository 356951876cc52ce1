import LoxLexer.Proofs.Comments
import LoxLexer.Proofs.Consistency

namespace LoxLexer

def Text.crlf (t : Text) : Text := t.flatMap fun c => if c = '\n' then ['\r', '\n'] else [c]

namespace Text

theorem crlf_append (t u : Text) : crlf (t ++ u) = crlf t ++ crlf u := List.flatMap_append

theorem crlf_feed (t : Text) : crlf ('\n' :: t) = '\r' :: '\n' :: crlf t := rfl

theorem crlf_cons {c : Char} (h : c ≠ '\n') (t : Text) : crlf (c :: t) = c :: crlf t := by
  simp [crlf, h]

theorem crlf_eq_self {t : Text} (h : '\n' ∉ t) : crlf t = t := by
  induction t with
  | nil => rfl
  | cons c t ih =>
    obtain ⟨first, others⟩ := not_or.1 (mt List.mem_cons.2 h)
    rw [crlf_cons (Ne.symm first), ih others]

theorem not_mem_crlf {c : Char} {t : Text} (other : c ≠ '\r') (h : c ∉ t) : c ∉ crlf t := by
  intro member
  obtain ⟨d, hd, hc⟩ := List.mem_flatMap.1 member
  split at hc
  · rename_i feed
    rw [feed] at hd
    rcases List.mem_cons.1 hc with rfl | hc
    · exact other rfl
    · rw [List.mem_singleton.1 hc] at h
      exact h hd
  · rw [List.mem_singleton.1 hc] at h
    exact h hd

end Text

theorem Position.after_crlf (p : Position) (t : Text) : p.after t.crlf = p.after t := by
  induction t generalizing p with
  | nil => rfl
  | cons c t ih =>
    by_cases feed : c = '\n'
    · subst feed
      rw [Text.crlf_feed, after_cons, after_cons, ih]
      rfl
    · rw [Text.crlf_cons feed, after_cons, ih, after_cons]

theorem agreeAhead_crlf (t : Text) : AgreeAhead t t.crlf := by
  induction t with
  | nil => exact .refl []
  | cons c t ih =>
    by_cases feed : c = '\n'
    · subst feed
      apply AgreeAhead.of_inert
      rintro c ⟨⟩
      exact inert_of_isBlank (by decide)
    · rw [Text.crlf_cons feed]
      exact ih.append [c]

def Literal.mapText (f : Text → Text) : Literal → Literal
  | .string payload => .string (f payload)
  | l => l

def Token.mapText (f : Text → Text) (t : Token) : Token :=
  { t with lexeme := f t.lexeme, literal? := t.literal?.map (Literal.mapText f) }

def Item.mapText (f : Text → Text) : Item → Item
  | .token t => .token (t.mapText f)
  | .error e => .error { e with text := f e.text }

variable {rest u w : Text} {p : Position} {kind : Kind} {tokens : List Token}

theorem Lexeme.visible (h : Lexeme (some kind) w) (other : kind ≠ .string) :
    ∀ c ∈ w, 0x20 < c.toNat := by
  have digit {c : Char} (hc : c.isDigit = true) : 0x20 < c.toNat := by
    simp only [Char.isDigit, Bool.and_eq_true, decide_eq_true_eq, ge_iff_le,
      UInt32.le_iff_toNat_le] at hc
    exact Nat.lt_of_lt_of_le (by decide) hc.1
  have letter {c : Char} (hc : isLetter c = true) : 0x20 < c.toNat := by
    by_contra low
    exact Bool.false_ne_true ((not_isLetter_of_lt (by omega)).symm.trans hc)
  have word {c : Char} {t : Text} (first : isLetter c = true)
      (others : ∀ d ∈ t, isAlphanumeric d = true) : ∀ d ∈ c :: t, 0x20 < d.toNat := by
    intro d hd
    rcases List.mem_cons.1 hd with rfl | hd
    · exact letter first
    · exact (Bool.or_eq_true_iff.1 (others d hd)).elim letter digit
  cases h with
  | punctuator p => cases p <;> simp [Punctuator.symbol]
  | operator o => cases o <;> simp [Operator.symbol]
  | operatorEqual o => cases o <;> simp [Operator.symbol]
  | string => exact absurd rfl other
  | whole _ digits => exact fun c hc => digit (digits c hc)
  | decimal _ digits _ digits' =>
    intro c hc
    rcases List.mem_append.1 hc with hc | hc
    · exact digit (digits c hc)
    · rcases List.mem_cons.1 hc with rfl | hc
      · decide
      · exact digit (digits' c hc)
  | keyword k =>
    obtain ⟨c, t, spelling, first, others⟩ := exists_spelling_eq_cons k
    exact spelling ▸ word first others
  | identifier first others => exact word first others

theorem Lexeme.feed_not_mem (h : Lexeme (some kind) w) (other : kind ≠ .string) : '\n' ∉ w :=
  fun feed => absurd (h.visible other _ feed) (by decide)

theorem Lexeme.map_mapText_literal (h : Lexeme (some kind) w) (other : kind ≠ .string)
    (f : Text → Text) : (Literal.parse? w).map (Literal.mapText f) = Literal.parse? w := by
  have consistent : (Token.mk kind w (Literal.parse? w) .start).Consistent := Lexeme.consistent h rfl
  by_cases number : kind = .number
  · subst number
    obtain ⟨x, -, literal, -⟩ := Literal.parse?_number h
    rw [literal]
    rfl
  by_cases isTrue : kind = .keyword .true
  · have literal : Literal.parse? w = some (.boolean true) := consistent.trueLiteral isTrue
    rw [literal]
    rfl
  by_cases isFalse : kind = .keyword .false
  · have literal : Literal.parse? w = some (.boolean false) := consistent.falseLiteral isFalse
    rw [literal]
    rfl
  rw [h.literal_eq_none other number isTrue isFalse]
  rfl

theorem Lexeme.crlf (h : Lexeme (some kind) w) : Lexeme (some kind) w.crlf ∧
    Literal.parse? w.crlf = (Literal.parse? w).map (Literal.mapText Text.crlf) := by
  by_cases string : kind = .string
  · subst string
    cases h with
    | @string payload unquoted =>
      have same : Text.crlf ('"' :: (payload ++ ['"'])) = '"' :: (payload.crlf ++ ['"']) := by
        rw [Text.crlf_cons (by decide), Text.crlf_append]
        rfl
      rw [same, Literal.parse?_string, Literal.parse?_string]
      exact ⟨.string (Text.not_mem_crlf (by decide) unquoted), rfl⟩
  · rw [Text.crlf_eq_self (h.feed_not_mem string), h.map_mapText_literal string]
    exact ⟨h, rfl⟩

theorem Ends.crlf {t : Text} (h : Ends (some kind) w t) (lexeme : Lexeme (some kind) w) :
    Ends (some kind) w.crlf t.crlf := by
  by_cases string : kind = .string
  · subst string
    trivial
  · rw [Text.crlf_eq_self (lexeme.feed_not_mem string)]
    exact h.agree (agreeAhead_crlf t)

namespace Stretch

theorem skip_crlf (lexeme : Lexeme none w) (ends : Ends none w (u ++ rest))
    (others : Stretch rest.crlf (p.after w) u.crlf tokens) :
    Stretch rest.crlf p (w.crlf ++ u.crlf) tokens := by
  rw [← Position.after_crlf] at others
  cases lexeme with
  | @blank c h =>
    apply others.blanks
    intro d hd
    by_cases feed : c = '\n'
    · rw [feed] at hd
      rcases List.mem_cons.1 hd with rfl | hd
      · decide
      · rw [List.mem_singleton.1 hd]
        decide
    · rw [Text.crlf_cons feed] at hd
      rw [List.mem_singleton.1 hd]
      exact h
  | @comment body h =>
    have same : Text.crlf ('/' :: '/' :: body) = '/' :: '/' :: body :=
      Text.crlf_eq_self (by simp [h])
    rw [same] at others ⊢
    refine .skip (.comment h) ?_ others
    intro slash
    rcases ends slash with closed | last
    · exact .inl closed
    · right
      rw [← Text.crlf_append, last]
      rfl
  | @lineComment body h =>
    have same : Text.crlf ('/' :: '/' :: (body ++ ['\n'])) =
        '/' :: '/' :: ((body ++ ['\r']) ++ ['\n']) := by
      rw [Text.crlf_cons (by decide), Text.crlf_cons (by decide), Text.crlf_append,
        Text.crlf_eq_self h, List.append_assoc]
      rfl
    rw [same] at others ⊢
    refine .skip (.lineComment (by simp [h])) (fun _ => .inl ?_) others
    rw [← List.cons_append, ← List.cons_append, List.getLast?_concat]

theorem crlf (h : Stretch rest p u tokens) :
    Stretch rest.crlf p u.crlf (tokens.map (Token.mapText Text.crlf)) := by
  induction h with
  | done => exact .done
  | skip lexeme ends _ ih =>
    rw [Text.crlf_append]
    exact skip_crlf lexeme ends ih
  | @token p w u kind tokens lexeme ends _ ih =>
    obtain ⟨lexeme', literal⟩ := lexeme.crlf
    have ends' := ends.crlf lexeme
    rw [Text.crlf_append] at ends'
    rw [← Position.after_crlf] at ih
    rw [Text.crlf_append, List.map_cons]
    have token : Token.mapText Text.crlf ⟨kind, w, Literal.parse? w, p.after w⟩ =
        ⟨kind, w.crlf, Literal.parse? w.crlf, p.after w.crlf⟩ := by
      rw [literal, Position.after_crlf]
      rfl
    rw [token]
    exact .token lexeme' ends' ih

end Stretch

theorem Stops.items_crlf (stops : Stops rest) (m n : Nat) (p : Position) :
    (Scan.between m p rest.crlf).drain.items =
      (Scan.between n p rest).drain.items.map (Item.mapText Text.crlf) := by
  cases stops with
  | done =>
    change (Scan.between m p []).drain.items = _
    rw [Scan.drain_nil, Scan.drain_nil]
    rfl
  | @stray c cs lead =>
    have noFeed : c ≠ '\n' := by
      rintro rfl
      exact absurd lead (by decide)
    rw [Text.crlf_cons noFeed, Scan.drain_stray lead, Scan.drain_stray lead]
    simp [Scan.Drained.items, Item.mapText, Text.crlf, noFeed]
  | @openString payload unclosed =>
    have unclosed' := Text.not_mem_crlf (by decide) unclosed
    have text : Text.crlf ('"' :: payload) = '"' :: payload.crlf := Text.crlf_cons (by decide) _
    rw [text, Scan.drain_openString unclosed', Scan.drain_openString unclosed, ← text,
      Position.after_crlf]
    rfl

/-- A carriage return before each line feed shows in the texts of the items and nowhere else. -/
theorem scanResults_crlf (source : Text) :
    scanResults source.crlf = (scanResults source).map (Item.mapText Text.crlf) := by
  obtain ⟨u, rest, tokens, rfl, before, stops⟩ := exists_stretch .start source
  have position : Position.behind u.crlf = .behind u := by
    rw [← Position.after_start, Position.after_crlf, Position.after_start]
  rw [Text.crlf_append, scanResults_stretch before.crlf, scanResults_stretch before, position,
    stops.items_crlf _ u.length, List.map_append, List.map_map, List.map_map]
  rfl

end LoxLexer
