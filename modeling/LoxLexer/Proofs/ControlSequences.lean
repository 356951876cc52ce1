import LoxLexer.Proofs.CarriageReturns
import LoxLexer.Proofs.Scripts

namespace LoxLexer

namespace Text

variable {t u v w : Text}

def HasControl (t : Text) : Prop := ∃ w, IsControl w ∧ w <:+: t

theorem HasControl.mono (h : HasControl t) (inside : t <:+: u) : HasControl u := by
  obtain ⟨w, control, within⟩ := h
  exact ⟨w, control, within.trans inside⟩

theorem HasControl.escape_mem (h : HasControl t) : '\x1b' ∈ t := by
  obtain ⟨_, ⟨-, -⟩, within⟩ := h
  exact within.subset List.mem_cons_self

theorem stripAnsi_eq_self_iff : stripAnsi t = t ↔ ¬ HasControl t := by
  induction t using stripAnsi_induction with
  | nil =>
    have none : ¬ HasControl [] := fun h => nomatch h.escape_mem
    simp [stripAnsi_nil, none]
  | control w t h ih =>
    have shorter : stripAnsi (w ++ t) ≠ w ++ t := by
      intro same
      have le := (stripAnsi_sublist t).length_le
      rw [← stripAnsi_control h, same, List.length_append] at le
      obtain ⟨-, -⟩ := h
      rw [List.length_cons] at le
      omega
    exact iff_of_false shorter (not_not_intro ⟨w, h, (List.prefix_append w t).isInfix⟩)
  | cons c t h ih =>
    rw [stripAnsi_cons h, List.cons_inj_right, ih, not_iff_not]
    constructor
    · exact fun later => later.mono (List.suffix_cons c t).isInfix
    · rintro ⟨w, control, within⟩
      rcases List.infix_cons_iff.1 within with here | later
      · exact absurd here (h w control)
      · exact ⟨w, control, later⟩

instance (t : Text) : Decidable (HasControl t) :=
  decidable_of_iff (stripAnsi t ≠ t) (by rw [ne_eq, stripAnsi_eq_self_iff, not_not])

example : HasControl "x\x1b[?1;31mx".toList ∧ ¬ HasControl "x\x1b[31 m".toList := by decide +kernel

theorem IsControl.escape_eq (h : IsControl w) : ∀ c ∈ w, escape c = [c] := by
  obtain @⟨params, c, parameters, letter⟩ := h
  have plain : ∀ d ∈ ['\\', '"', '\n', '\r', '\t'], isParameter d = false ∧ d.isAlpha = false := by
    simp [isParameter]
  intro d hd
  apply escape_eq_self
  intro escaped
  obtain ⟨noParameter, noLetter⟩ := plain d escaped
  simp only [List.mem_cons, List.mem_append, List.not_mem_nil, or_false] at hd
  rcases hd with rfl | rfl | hd | rfl
  · exact absurd escaped (by decide)
  · exact absurd escaped (by decide)
  · exact Bool.false_ne_true (noParameter.symm.trans (parameters d hd))
  · exact Bool.false_ne_true (noLetter.symm.trans letter)

theorem prefix_of_escaped (h : ∀ c ∈ u, escape c = [c]) (here : u <+: t.flatMap escape ++ '"' :: v) :
    u <+: t := by
  induction t generalizing u with
  | nil =>
    cases u with
    | nil => exact List.nil_prefix
    | cons c u =>
      obtain ⟨rfl, -⟩ := List.cons_prefix_cons.1 here
      exact absurd (h '"' List.mem_cons_self) (by decide)
  | cons d t ih =>
    cases u with
    | nil => exact List.nil_prefix
    | cons c u =>
      obtain ⟨first, others⟩ := List.forall_mem_cons.1 h
      rw [List.flatMap_cons, List.append_assoc] at here
      rcases escape_cases d with ⟨e, form, -⟩ | ⟨-, -, form⟩ <;> rw [form] at here
      · obtain ⟨rfl, -⟩ := List.cons_prefix_cons.1 here
        exact absurd first (by decide)
      · obtain ⟨rfl, later⟩ := List.cons_prefix_cons.1 here
        exact List.cons_prefix_cons.2 ⟨rfl, ih others later⟩

theorem not_mem_escape {c : Char} (h : c ≠ '\x1b') : '\x1b' ∉ escape c := by
  rcases escape_cases c with ⟨d, form, same⟩ | ⟨-, -, form⟩
  · rw [form]
    intro member
    obtain rfl : '\x1b' = d := by simpa using member
    exact h same.symm
  · rw [form, List.mem_singleton]
    exact h.symm

theorem stripAnsi_escaped (t v : Text) : stripAnsi (t.flatMap escape ++ '"' :: v) =
    (stripAnsi t).flatMap escape ++ '"' :: stripAnsi v := by
  induction t using stripAnsi_induction with
  | nil =>
    rw [stripAnsi_nil]
    exact stripAnsi_append (u := ['"']) (by decide) v
  | control w t h ih =>
    have same : w.flatMap escape = w := by
      rw [List.flatMap_congr h.escape_eq, List.flatMap_singleton']
    rw [List.flatMap_append, same, List.append_assoc, stripAnsi_control h, ih, stripAnsi_control h]
  | cons c t h ih =>
    rw [stripAnsi_cons h, List.flatMap_cons, List.flatMap_cons, List.append_assoc,
      List.append_assoc, ← ih]
    by_cases escapes : c = '\x1b'
    · -- A control sequence that begins here is one of the text that is quoted.
      subst escapes
      refine stripAnsi_cons fun w control here => h w control ?_
      exact prefix_of_escaped (t := '\x1b' :: t) control.escape_eq here
    · exact stripAnsi_append (not_mem_escape escapes) _

theorem stripAnsi_quoted (t v : Text) :
    stripAnsi (t.quoted ++ v) = (stripAnsi t).quoted ++ stripAnsi v := by
  have shape (t v : Text) : t.quoted ++ v = ['"'] ++ (t.flatMap escape ++ '"' :: v) := by
    simp [quoted]
  rw [shape, shape, stripAnsi_append (by decide), stripAnsi_escaped]

end Text

open Text

theorem Literal.stripAnsi_display (l : Literal) (v : Text) :
    stripAnsi (l.display ++ v) = (l.mapText stripAnsi).display ++ stripAnsi v := by
  cases l with
  | string payload =>
    rw [mapText, display_string, display_string, List.append_assoc, List.append_assoc,
      List.append_assoc, List.append_assoc, stripAnsi_append (by decide), stripAnsi_quoted,
      stripAnsi_append (by decide)]
  | number x =>
    refine stripAnsi_append ?_ v
    have digits := Layout.not_mem_number (c := '\x1b') rfl (by decide) x
    rw [display_number]
    simp [digits]
  | boolean b => exact stripAnsi_append (by cases b <;> decide) v

theorem Token.stripAnsi_ending (literal? : Option Literal) (p : Position) :
    stripAnsi (ending literal? p) = ending (literal?.map (Literal.mapText stripAnsi)) p := by
  have position : '\x1b' ∉ ", position: ".toList ++ (p.render ++ ['>']) := by
    have plain : '\x1b' ∉ p.render := p.not_mem_render rfl (by decide)
    simp [plain]
  cases literal? with
  | none => exact stripAnsi_eq_self position
  | some l =>
    simp only [ending, Option.map_some, Option.elim_some]
    rw [List.append_assoc, List.append_assoc, stripAnsi_append (by decide), l.stripAnsi_display,
      stripAnsi_eq_self position]

theorem Token.echo_render (t : Token) : echo t.render = (t.mapText stripAnsi).render := by
  rw [render_eq, render_eq, echo, stripAnsi_append (by decide),
    stripAnsi_append (t.kind.not_mem_name rfl), stripAnsi_append (by decide), stripAnsi_quoted,
    stripAnsi_ending]
  rfl

theorem Token.prefix_render (t : Token) :
    "<Token type: ".toList ++ (t.kind.name ++ ", lexeme: ".toList) <+: t.render := by
  rw [render_eq, List.prefix_append_right_inj, List.prefix_append_right_inj]
  exact List.prefix_append _ _

theorem Token.suffix_render (t : Token) :
    ", position: ".toList ++ (t.position.render ++ ['>']) <:+ t.render := by
  have behind : ", position: ".toList ++ (t.position.render ++ ['>']) <:+
      ending t.literal? t.position := List.suffix_append _ _
  rw [render_eq]
  iterate 4 apply List.suffix_append_of_suffix
  exact behind

/-- What a line tells of a token: all of it unless its lexeme has a control sequence, which only that
of a string has, and always its kind and its position. -/
structure Token.Shown (t : Token) (line : Text) : Prop where
  eq_render_iff : line = t.render ↔ ¬ HasControl t.lexeme
  string : line ≠ t.render → t.kind = .string
  stripped : line = (t.mapText stripAnsi).render
  type : "<Token type: ".toList ++ (t.kind.name ++ ", lexeme: ".toList) <+: line
  position : ", position: ".toList ++ (t.position.render ++ ['>']) <:+ line

namespace Token.WellFormed

variable {t u : Token}

theorem not_hasControl (h : t.WellFormed) (other : t.kind ≠ .string) : ¬ HasControl t.lexeme :=
  fun control => absurd (h.lexeme.visible other _ control.escape_mem) (by decide)

theorem mapText_stripAnsi (h : t.WellFormed) (plain : ¬ HasControl t.lexeme) :
    t.mapText stripAnsi = t := by
  have payload : t.literal?.map (Literal.mapText stripAnsi) = t.literal? := by
    obtain ⟨kind, w, literal?, p⟩ := t
    obtain ⟨lexeme, rfl⟩ : Lexeme (some kind) w ∧ literal? = Literal.parse? w := ⟨h.1, h.2⟩
    by_cases string : kind = .string
    · subst string
      cases lexeme with
      | @string payload =>
        have inside : payload <:+: '"' :: (payload ++ ['"']) := ⟨['"'], ['"'], rfl⟩
        have same := stripAnsi_eq_self_iff.2 fun control => plain (control.mono inside)
        simp only [Literal.parse?_string, Option.map_some, Literal.mapText, same]
    · exact lexeme.map_mapText_literal string _
  rw [mapText, payload, stripAnsi_eq_self_iff.2 plain]

theorem echo_render_eq_iff (h : t.WellFormed) :
    echo t.render = t.render ↔ ¬ HasControl t.lexeme := by
  rw [echo_render]
  constructor
  · exact fun same => stripAnsi_eq_self_iff.1 (render_eq_iff.1 same).lexeme
  · exact fun plain => by rw [h.mapText_stripAnsi plain]

theorem shown (h : t.WellFormed) : t.Shown (echo t.render) where
  eq_render_iff := h.echo_render_eq_iff
  string := by
    intro differs
    by_contra other
    exact differs (h.echo_render_eq_iff.2 (h.not_hasControl other))
  stripped := t.echo_render
  type := t.echo_render ▸ prefix_render (t.mapText stripAnsi)
  position := t.echo_render ▸ suffix_render (t.mapText stripAnsi)

theorem eq_of_render_eq (ht : t.WellFormed) (hu : u.WellFormed) (h : t.render = u.render) :
    t = u := by
  obtain ⟨kinds, lexemes, -, positions⟩ := render_eq_iff.1 h
  have literals : t.literal? = u.literal? := by rw [ht.literal, hu.literal, lexemes]
  cases t
  cases u
  exact Token.mk.injEq .. ▸ ⟨kinds, lexemes, literals, positions⟩

end Token.WellFormed

theorem map_render_inj {ts us : List Token} (ht : ∀ t ∈ ts, t.WellFormed)
    (hu : ∀ u ∈ us, u.WellFormed) (h : ts.map Token.render = us.map Token.render) : ts = us := by
  induction ts generalizing us with
  | nil => exact (List.map_eq_nil_iff.1 h.symm).symm
  | cons t ts ih =>
    obtain ⟨u, us, rfl, first, others⟩ := List.map_eq_cons_iff.1 h.symm
    obtain ⟨ht, hts⟩ := List.forall_mem_cons.1 ht
    obtain ⟨hu, hus⟩ := List.forall_mem_cons.1 hu
    rw [ht.eq_of_render_eq hu first.symm, ih hts hus others.symm]

namespace Command

def Lists (files : Files) (args : List Text) (tokens : List Token) : Prop :=
  ∃ verbose script t, Opens files args verbose script (Utf8.encode t) ∧
    scan t.withLineFeeds = .ok tokens

variable {files files' : Files} {args args' : List Text} {tokens tokens' : List Token}

theorem Lists.wellFormed (lists : Lists files args tokens) : ∀ t ∈ tokens, t.WellFormed := by
  obtain ⟨verbose, script, t, opens, scans⟩ := lists
  exact (scan_eq_ok_iff_reads.1 scans).wellFormed

theorem Lists.stdout_run (lists : Lists files args tokens) (input : Bytes) :
    (run files input args).output.stdout =
      (tokens.map fun t => echo t.render).flatMap (· ++ ['\n']) := by
  obtain ⟨verbose, script, t, opens, scans⟩ := lists
  rw [opens.stdout_run input, listed_of_ok scans, List.flatMap_map]
  rfl

theorem Lists.eq_of_echo (lists : Lists files args tokens) (lists' : Lists files' args' tokens')
    (plain : ∀ t ∈ tokens ++ tokens', t.kind = .string → ¬ HasControl t.lexeme)
    (h : (tokens.map fun t => echo t.render) = tokens'.map fun t => echo t.render) :
    tokens = tokens' := by
  have whole : ∀ t ∈ tokens ++ tokens', echo t.render = t.render := by
    intro t member
    have wellFormed := (List.mem_append.1 member).elim (lists.wellFormed t) (lists'.wellFormed t)
    rw [wellFormed.echo_render_eq_iff]
    by_cases string : t.kind = .string
    · exact plain t member string
    · exact wellFormed.not_hasControl string
  obtain ⟨left, right⟩ := List.forall_mem_append.1 whole
  rw [List.map_congr_left left, List.map_congr_left right] at h
  exact map_render_inj lists.wellFormed lists'.wellFormed h

/-- A script that scans is listed on one line for each token. The line is the rendering of the token
unless its lexeme has a control sequence; then the token is a string, and its kind and its position
are shown all the same. Scripts without control sequences in their strings are listed alike only if
they have the same tokens. -/
theorem run_lines (lists : Lists files args tokens) (input : Bytes) :
    (run files input args).output.stdout.count '\n' = tokens.length ∧
    (∃ shown : List Text,
      (run files input args).output.stdout.lines = shown.map (· ++ ['\n']) ∧
      List.Forall₂ Token.Shown tokens shown) ∧
    ∀ files' args' tokens' input', Lists files' args' tokens' →
      (∀ t ∈ tokens ++ tokens', t.kind = .string → ¬ HasControl t.lexeme) →
      (run files input args).output.stdout = (run files' input' args').output.stdout →
      tokens = tokens' := by
  have feeds (ts : List Token) : ∀ line ∈ ts.map fun t => echo t.render, '\n' ∉ line := by
    intro line member
    obtain ⟨t, -, rfl⟩ := List.mem_map.1 member
    exact t.echo_render ▸ (Token.oneLine_render _).1
  have lines := congrArg Text.lines (lists.stdout_run input)
  rw [lines_flatMap_feed (feeds tokens)] at lines
  refine ⟨?_, ⟨_, lines, ?_⟩, ?_⟩
  · rw [lists.stdout_run input, count_flatMap_feed (feeds tokens), List.length_map]
  · rw [List.forall₂_map_right_iff, List.forall₂_same]
    exact fun t member => (lists.wellFormed t member).shown
  · intro files' args' tokens' input' lists' plain same
    rw [same, lists'.stdout_run input', lines_flatMap_feed (feeds tokens')] at lines
    have appended : Function.Injective fun line : Text => line ++ ['\n'] :=
      fun _ _ => List.append_cancel_right
    exact lists.eq_of_echo lists' plain (List.map_injective_iff.2 appended lines).symm

theorem run_lines_colors :
    let string (payload : Text) : Token :=
      ⟨.string, '"' :: (payload ++ ['"']), some (.string payload), ⟨0, payload.length + 2⟩⟩
    let red := string "\x1b[31mx".toList
    let green := string "\x1b[32mx".toList
    let plain := string ['x']
    let files := (FileTree.ofList
      [("red".toList, some (Utf8.encode red.lexeme)),
        ("green".toList, some (Utf8.encode green.lexeme)),
        ("plain".toList, some (Utf8.encode plain.lexeme))]).files
    let stdout (args : List Text) : Text := (run files [] args).output.stdout
    (Lists files ["red".toList] [red] ∧ (stdout ["red".toList]).count '\n' = 1 ∧
      ∃ line, (stdout ["red".toList]).lines = [line ++ ['\n']] ∧ red.Shown line) ∧
    (Lists files ["green".toList] [green] ∧ red ≠ green ∧
      stdout ["red".toList] = stdout ["green".toList]) ∧
    (Lists files ["plain".toList] [plain] ∧ ¬ HasControl plain.lexeme ∧
      Lists files ["-v".toList, "plain".toList] [plain] ∧
      stdout ["plain".toList] = stdout ["-v".toList, "plain".toList]) ∧
    ∀ tokens, Lists files ["-v".toList, "plain".toList] tokens →
      (∀ t ∈ tokens, ¬ HasControl t.lexeme) → [plain] = tokens := by
  intro string red green plain files stdout
  have isRed : Lists files ["red".toList] [red] :=
    ⟨false, "red".toList, red.lexeme,
      ⟨⟨"> ".toList, by decide +kernel⟩, by decide +kernel, by decide +kernel⟩, by decide +kernel⟩
  have isGreen : Lists files ["green".toList] [green] :=
    ⟨false, "green".toList, green.lexeme,
      ⟨⟨"> ".toList, by decide +kernel⟩, by decide +kernel, by decide +kernel⟩, by decide +kernel⟩
  have isPlain : Lists files ["plain".toList] [plain] :=
    ⟨false, "plain".toList, plain.lexeme,
      ⟨⟨"> ".toList, by decide +kernel⟩, by decide +kernel, by decide +kernel⟩, by decide +kernel⟩
  have isVerbose : Lists files ["-v".toList, "plain".toList] [plain] :=
    ⟨true, "plain".toList, plain.lexeme,
      ⟨⟨"> ".toList, by decide +kernel⟩, by decide +kernel, by decide +kernel⟩, by decide +kernel⟩
  have noControl : ¬ HasControl plain.lexeme := by decide +kernel
  have colors : stdout ["red".toList] = stdout ["green".toList] := by
    have same : echo red.render = echo green.render := by decide +kernel
    change (run files [] _).output.stdout = (run files [] _).output.stdout
    rw [isRed.stdout_run, isGreen.stdout_run, List.map_singleton, List.map_singleton, same]
  have same : stdout ["plain".toList] = stdout ["-v".toList, "plain".toList] :=
    (isPlain.stdout_run []).trans (isVerbose.stdout_run []).symm
  obtain ⟨feeds, ⟨shown, lines, fields⟩, -⟩ := run_lines isRed []
  obtain _ | @⟨_, line, _, _, first, ⟨⟩⟩ := fields
  refine ⟨⟨isRed, feeds, line, lines, first⟩, ⟨isGreen, by decide, colors⟩,
    ⟨isPlain, noControl, isVerbose, same⟩, ?_⟩
  intro tokens lists others
  refine (run_lines isPlain []).2.2 files _ tokens [] lists ?_ same
  intro t member _
  rcases List.mem_cons.1 member with rfl | member
  · exact noControl
  · exact others t member

end Command

end LoxLexer
