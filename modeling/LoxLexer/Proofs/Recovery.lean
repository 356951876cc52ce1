import LoxLexer.Proofs.FirstError
import LoxLexer.Proofs.Sharing
import LoxLexer.Proofs.Spacing

/-!
# Carrying on after unexpected characters

A session that opens another reader after each unexpected character delivers what the source would
deliver with spaces in place of these characters: none of them shows in a token before or behind it.
-/

namespace LoxLexer

structure Recovery where
  tokens : List Token
  errors : List ScanError
  strays : List Nat
  error? : Option ScanError
deriving DecidableEq

/-- Opens and drains a reader, and after each unexpected character another one. -/
def Session.recover (s : Session) : Recovery :=
  match _drain : s.openReader.2.drain s.openReader.1 with
  | (tokens, none, _) => ⟨tokens, [], [], none⟩
  | (tokens, some e, s') =>
    if e.cause = .unexpectedCharacter then
      let others := s'.recover
      ⟨tokens ++ others.tokens, e :: others.errors, (s'.scan.consumed - 1) :: others.strays,
        others.error?⟩
    else ⟨tokens, [], [], some e⟩
termination_by s.scan.rest.length
decreasing_by
  obtain ⟨-, failed, behind⟩ := of_drain_openReader _drain
  rw [← behind]
  exact Scan.length_drain failed

def blanked (strays : List Nat) (n : Nat) (t : Text) : Text :=
  t.mapIdx fun i c => if n + i ∈ strays then ' ' else c

variable {strays : List Nat} {n k : Nat} {t : Text}

theorem blanked_cons (strays : List Nat) (n : Nat) (c : Char) (t : Text) :
    blanked strays n (c :: t) = (if n ∈ strays then ' ' else c) :: blanked strays (n + 1) t := by
  have shifted : (fun i d => if n + (i + 1) ∈ strays then ' ' else d) =
      fun i d => if n + 1 + i ∈ strays then ' ' else d := by
    funext i d
    rw [Nat.add_right_comm, Nat.add_assoc]
  rw [blanked, List.mapIdx_cons, shifted]
  rfl

theorem blanked_append (strays : List Nat) (n : Nat) (t u : Text) :
    blanked strays n (t ++ u) = blanked strays n t ++ blanked strays (n + t.length) u := by
  induction t generalizing n with
  | nil => rfl
  | cons c t ih =>
    rw [List.cons_append, blanked_cons, blanked_cons, ih, List.length_cons, Nat.add_right_comm]
    rfl

theorem blanked_eq_self (h : ∀ k ∈ strays, n + t.length ≤ k) : blanked strays n t = t := by
  induction t generalizing n with
  | nil => rfl
  | cons c t ih =>
    have absent : n ∉ strays := by
      intro member
      have := h n member
      rw [List.length_cons] at this
      omega
    rw [blanked_cons, if_neg absent, ih]
    intro k hk
    have := h k hk
    rw [List.length_cons] at this
    omega

theorem blanked_cons_of_lt (h : k < n) : blanked (k :: strays) n t = blanked strays n t := by
  induction t generalizing n with
  | nil => rfl
  | cons c t ih =>
    have same : n ∈ k :: strays ↔ n ∈ strays := by
      rw [List.mem_cons, or_iff_right h.ne']
    rw [blanked_cons, blanked_cons, ih (Nat.lt_succ_of_lt h)]
    simp only [same]

theorem blanked_stray {u cs : Text} {c : Char} (h : ∀ k ∈ strays, n + u.length + 1 ≤ k) :
    blanked ((n + u.length) :: strays) n (u ++ c :: cs) =
      u ++ ' ' :: blanked strays (n + u.length + 1) cs := by
  have before : ∀ k ∈ (n + u.length) :: strays, n + u.length ≤ k := by
    intro k hk
    rcases List.mem_cons.1 hk with rfl | hk
    · exact le_rfl
    · exact Nat.le_of_succ_le (h k hk)
  rw [blanked_append, blanked_eq_self before, blanked_cons, if_pos List.mem_cons_self,
    blanked_cons_of_lt (Nat.lt_succ_self _)]

inductive Drains (s : Scan) : Prop
  | done {tokens : List Token} (before : Stretch [] s.position s.rest tokens)
      (delivered : s.drain.tokens = tokens) (ended : s.drain.error? = none)
  | stray {u cs : Text} {c : Char} {tokens : List Token} (split : s.rest = u ++ c :: cs)
      (before : Stretch (c :: cs) s.position u tokens) (lead : Lead.of c = .stray)
      (drain : s.drain = ⟨tokens, some ⟨s.position.after u, [c], .unexpectedCharacter⟩,
        .between (s.consumed + u.length + 1) (s.position.after u) cs⟩)
  | openString {u payload : Text} {tokens : List Token} (split : s.rest = u ++ '"' :: payload)
      (before : Stretch ('"' :: payload) s.position u tokens) (unclosed : '"' ∉ payload)
      (delivered : s.drain.tokens = tokens)
      (failed : s.drain.error? =
        some ⟨s.position.after s.rest, '"' :: payload, .unterminatedString⟩)

theorem drains_between (n : Nat) (p : Position) (t : Text) : Drains (.between n p t) := by
  obtain ⟨u, rest, tokens, rfl, before, stops⟩ := exists_stretch p t
  cases stops with
  | done =>
    have whole : Stretch [] p (u ++ []) tokens := by rwa [List.append_nil]
    refine .done whole ?_ ?_
    · rw [before.drain, Scan.drain_nil, List.append_nil]
    · rw [before.drain, Scan.drain_nil]
  | stray lead =>
    refine .stray rfl before lead ?_
    rw [before.drain, Scan.drain_stray lead, List.append_nil]
    rfl
  | @openString payload unclosed =>
    refine .openString rfl before unclosed ?_ ?_
    · rw [before.drain, Scan.drain_openString unclosed, List.append_nil]
    · rw [before.drain, Scan.drain_openString unclosed]
      simp [Scan.between, Position.after_append]

theorem drains {s : Scan} (ready : s.Ready) : Drains s := by
  obtain ⟨⟨rest, n⟩, p, lexeme⟩ := s
  cases rest with
  | nil =>
    have pull : (Scan.mk ⟨[], n⟩ p lexeme).pull = (none, ⟨⟨[], n⟩, p, lexeme⟩) := by
      rw [Scan.pull]
      rfl
    exact .done .done (by rw [Scan.drain_eq, pull]) (by rw [Scan.drain_eq, pull])
  | cons c cs =>
    obtain rfl : lexeme = #[] := ready (List.cons_ne_nil c cs)
    exact drains_between n p (c :: cs)

theorem Stretch.moved {rest u : Text} {p : Position} {tokens : List Token}
    (h : Stretch rest p u tokens) (q : Position) : ∃ tokens', Stretch rest q u tokens' ∧
      tokens'.map Token.content = tokens.map Token.content := by
  induction h generalizing q with
  | done => exact ⟨[], .done, rfl⟩
  | @skip _ w _ _ lexeme ends _ ih =>
    obtain ⟨tokens', stretch, same⟩ := ih (q.after w)
    exact ⟨tokens', .skip lexeme ends stretch, same⟩
  | @token _ w _ _ _ lexeme ends _ ih =>
    obtain ⟨tokens', stretch, same⟩ := ih (q.after w)
    exact ⟨_, .token lexeme ends stretch, congrArg (List.cons _) same⟩

inductive Left : Option ScanError → Text → Prop
  | done : Left none []
  | openString {p : Position} {payload : Text} (unclosed : '"' ∉ payload) :
      Left (some ⟨p, '"' :: payload, .unterminatedString⟩) ('"' :: payload)

structure Recovery.Of (r : Recovery) (n : Nat) (t : Text) : Prop where
  le : ∀ k ∈ r.strays, n ≤ k
  texts : r.errors.map ScanError.text = r.strays.map fun k => t[k - n]?.toList
  stretch : ∀ p, ∃ u rest tokens, blanked r.strays n t = u ++ rest ∧ Stretch rest p u tokens ∧
    tokens.map Token.content = r.tokens.map Token.content ∧ Left r.error? rest

namespace Recovery

variable {u rest : Text} {p : Position} {tokens : List Token} {error? : Option ScanError}

theorem of_left (before : Stretch rest p u tokens) (left : Left error? rest) :
    Of ⟨tokens, [], [], error?⟩ n (u ++ rest) where
  le := by simp
  texts := rfl
  stretch := by
    intro q
    obtain ⟨tokens', stretch, same⟩ := before.moved q
    exact ⟨u, rest, tokens', blanked_eq_self (by simp), stretch, same, left⟩

theorem of_stray {r : Recovery} {c : Char} {cs : Text} {e : ScanError}
    (before : Stretch (c :: cs) p u tokens) (text : e.text = [c])
    (others : r.Of (n + u.length + 1) cs) :
    Of ⟨tokens ++ r.tokens, e :: r.errors, (n + u.length) :: r.strays, r.error?⟩ n
      (u ++ c :: cs) where
  le := by
    intro k hk
    rcases List.mem_cons.1 hk with rfl | hk
    · exact Nat.le_add_right _ _
    · have := others.le k hk
      omega
  texts := by
    have here : (u ++ c :: cs)[n + u.length - n]? = some c := by simp
    have behind : ∀ k ∈ r.strays,
        cs[k - (n + u.length + 1)]?.toList = (u ++ c :: cs)[k - n]?.toList := by
      intro k hk
      obtain ⟨d, rfl⟩ := Nat.exists_eq_add_of_le (others.le k hk)
      have offset : n + u.length + 1 + d - n = u.length + (d + 1) := by omega
      rw [offset, Nat.add_sub_cancel_left, List.getElem?_append_right (Nat.le_add_right _ _),
        Nat.add_sub_cancel_left, List.getElem?_cons_succ]
    rw [List.map_cons, List.map_cons, here, text, others.texts, List.map_congr_left behind]
    rfl
  stretch := by
    intro q
    obtain ⟨v, rest, tokens', split, stretch, same, left⟩ :=
      others.stretch ((q.after u).after [' '])
    obtain ⟨tokens'', first, same'⟩ := before.moved q
    -- A stray character and a space end the same tokens.
    have blank : Stretch rest (q.after u) ([' '] ++ v) tokens' :=
      .skip (.blank (by decide)) (by rintro ⟨⟩) stretch
    have inert : ∀ d ∈ ([' '] ++ v ++ rest).head?, Inert d := by
      rintro d ⟨⟩
      exact inert_of_isBlank (by decide)
    refine ⟨u ++ ([' '] ++ v), rest, tokens'' ++ tokens', ?_,
      (first.change inert (by simp)).append blank, ?_, left⟩
    · rw [blanked_stray others.le, split]
      simp
    · rw [List.map_append, List.map_append, same, same']

end Recovery

theorem recover_of {s : Session} (ready : s.scan.Ready) :
    s.recover.Of s.scan.consumed s.scan.rest := by
  fun_induction Session.recover s with
  | case1 s tokens s' drained =>
    obtain ⟨rfl, ended, -⟩ := Session.of_drain_openReader drained
    cases drains ready with
    | done before delivered =>
      rw [delivered, ← List.append_nil s.scan.rest]
      exact Recovery.of_left before .done
    | stray split before lead drain => cases ended.symm.trans (congrArg Scan.Drained.error? drain)
    | openString split before unclosed delivered failed => cases ended.symm.trans failed
  | case2 s tokens e s' drained cause others ih =>
    obtain ⟨rfl, failed, behind⟩ := Session.of_drain_openReader drained
    cases drains ready with
    | done before delivered ended => cases failed.symm.trans ended
    | @stray u cs c tokens split before lead drain =>
      rw [← behind] at ih ⊢
      have recovered := ih (Scan.ready_drain ready)
      cases failed.symm.trans (congrArg Scan.Drained.error? drain)
      rw [drain] at recovered ⊢
      rw [split]
      exact Recovery.of_stray before rfl recovered
    | openString split before unclosed delivered failed' =>
      cases failed.symm.trans failed'
      cases cause
  | case3 s tokens e s' drained cause =>
    obtain ⟨rfl, failed, -⟩ := Session.of_drain_openReader drained
    cases drains ready with
    | done before delivered ended => cases failed.symm.trans ended
    | stray split before lead drain =>
      cases failed.symm.trans (congrArg Scan.Drained.error? drain)
      exact absurd rfl cause
    | openString split before unclosed delivered failed' =>
      cases failed.symm.trans failed'
      rw [delivered, split]
      exact Recovery.of_left before (.openString unclosed)

/-- Carrying on after unexpected characters is the same as blanking them out. -/
theorem recover_eq_blanked (source : Text) :
    let r := (Session.start source).recover
    r.errors.map ScanError.text = r.strays.map (fun k => source[k]?.toList) ∧
      ∃ (tokens : List Token) (error? : Option ScanError),
        scanResults (blanked r.strays 0 source) =
          tokens.map .token ++ (error?.map .error).toList ∧
        tokens.map Token.content = r.tokens.map Token.content ∧
        error?.map ScanError.text = r.error?.map ScanError.text ∧
        (∀ e ∈ error?, e.cause = .unterminatedString) ∧
        ∀ e ∈ r.error?, e.cause = .unterminatedString := by
  intro r
  have recovery : r.Of 0 source := recover_of (Scan.ready_start source)
  refine ⟨recovery.texts, ?_⟩
  obtain ⟨u, rest, tokens, split, stretch, same, left⟩ := recovery.stretch .start
  rw [split]
  generalize r.error? = error? at left
  cases left with
  | done =>
    refine ⟨tokens, none, ?_, same, rfl, by simp, by simp⟩
    rw [scanResults_stretch stretch, Scan.drain_nil]
    rfl
  | @openString p payload unclosed =>
    have fault := Fault.openString stretch unclosed
    exact ⟨tokens, some _, fault.scanResults_eq, same, rfl, by simp, by simp⟩

example : (Session.start "a@=\"b\"#=\"".toList).recover =
    ⟨[⟨.identifier, ['a'], none, ⟨0, 1⟩⟩, ⟨.operator .equal false, ['='], none, ⟨0, 2⟩⟩,
      ⟨.string, "\"b\"".toList, some (.string ['b']), ⟨0, 5⟩⟩,
      ⟨.operator .equal false, ['='], none, ⟨0, 6⟩⟩],
      [⟨⟨0, 1⟩, ['@'], .unexpectedCharacter⟩, ⟨⟨0, 5⟩, ['#'], .unexpectedCharacter⟩], [1, 6],
      some ⟨⟨0, 7⟩, ['"'], .unterminatedString⟩⟩ := by decide +kernel

end LoxLexer
