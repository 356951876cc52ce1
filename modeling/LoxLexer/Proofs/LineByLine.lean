import LoxLexer.Proofs.Conversations
import LoxLexer.Proofs.LineEnds
import LoxLexer.Proofs.Scripts

/-!
# Line by line

No token but a string reaches over the end of a line. So a text whose lines scan one by one scans as
a whole, and what is left of the lines is only where a token stands: a line alone is the first one.
-/

namespace LoxLexer

theorem Position.after_of_not_mem {w : Text} (h : '\n' ∉ w) (p : Position) :
    p.after w = ⟨p.line, p.column + w.length⟩ := by
  induction w generalizing p with
  | nil => rfl
  | cons c w ih =>
    rw [List.mem_cons, not_or] at h
    rw [after_cons, ih h.2, advance, if_neg (Ne.symm h.1), right, List.length_cons]
    simp only [Nat.add_right_comm, Nat.add_assoc]

def Token.atLine (line : Nat) (t : Token) : Token :=
  { t with position := ⟨line, t.position.column⟩ }

section

variable {p : Position} {u rest : Text} {tokens : List Token}

theorem Stretch.atLine (h : Stretch rest p u tokens) (single : '\n' ∉ u) (line : Nat) :
    Stretch rest ⟨line, p.column⟩ u (tokens.map (Token.atLine line)) :=
  h.placed (f := fun p => ⟨line, p.column⟩) (fun _ => rfl) single

theorem Stretch.line_eq (h : Stretch rest p u tokens) (single : '\n' ∉ u) :
    ∀ t ∈ tokens, t.position.line = p.line := by
  induction h with
  | done => exact fun t ht => absurd ht List.not_mem_nil
  | skip lexeme ends others ih =>
    rw [List.mem_append, not_or] at single
    rw [Position.after_of_not_mem single.1] at ih
    exact ih single.2
  | token lexeme ends others ih =>
    rw [List.mem_append, not_or] at single
    rw [Position.after_of_not_mem single.1] at ih ⊢
    intro t ht
    rcases List.mem_cons.1 ht with rfl | ht
    · rfl
    · exact ih single.2 t ht

end

theorem scan_line_iff {u : Text} {tokens : List Token} :
    scan (u ++ ['\n']) = .ok tokens ↔ scan u = .ok tokens := by
  have line {tokens : List Token} (h : scan u = .ok tokens) : scan (u ++ ['\n']) = .ok tokens :=
    scan_eq_ok_iff_reads.2 (stretch_nil_iff.1 ((scan_eq_ok_iff_reads.1 h).line []))
  refine ⟨fun h => ?_, line⟩
  cases alone : scan u with
  | ok tokens' => rw [← h, line alone]
  | error e =>
    obtain ⟨tokens', fault⟩ := exists_fault alone
    cases fault with
    | stray before lead =>
      have failed := (unexpected_stray before lead).scanResults_append ['\n']
      rw [scan_eq_error_iff.2 ⟨_, failed⟩] at h
      cases h
    | openString before unclosed =>
      rw [(unterminated_openString before unclosed).extensions ['\n'] (by decide)] at h
      cases h

theorem reads_single {u : Text} {tokens : List Token} (h : scan u = .ok tokens) (single : '\n' ∉ u)
    (line : Nat) : Reads ⟨line, 0⟩ u (tokens.map (Token.atLine line)) :=
  ((stretch_nil_iff.2 (scan_eq_ok_iff_reads.1 h)).atLine single line).truncate

theorem Position.after_line {u : Text} (single : '\n' ∉ u) (p : Position) :
    p.after (u ++ ['\n']) = ⟨p.line + 1, 0⟩ := by
  rw [after_append, after_of_not_mem single]
  rfl

theorem splitLine_eq_or (t : Text) :
    '\n' ∉ t ∧ t.splitLine = (t, []) ∨
      ∃ u v, '\n' ∉ u ∧ t = u ++ '\n' :: v ∧ t.splitLine = (u ++ ['\n'], v) := by
  have whole := t.splitLine_append
  rcases splitLine_cases t with ⟨single, none⟩ | ⟨u, single, first⟩
  · rw [none, List.append_nil] at whole
    rw [whole] at single
    exact .inl ⟨single, Prod.ext whole none⟩
  · refine .inr ⟨u, t.splitLine.2, single, ?_, Prod.ext first rfl⟩
    rw [first, List.append_assoc] at whole
    exact whole.symm

def numbered (k : Nat) (lines : List (List Token)) : List Token :=
  (lines.zipIdx k).flatMap fun line => line.1.map (Token.atLine line.2)

theorem numbered_cons (k : Nat) (tokens : List Token) (lines : List (List Token)) :
    numbered k (tokens :: lines) = tokens.map (Token.atLine k) ++ numbered (k + 1) lines := by
  rw [numbered, List.zipIdx_cons, List.flatMap_cons]
  rfl

/-- Each line scans on its own, and these are its tokens. -/
def ScansAs (lines : List Text) (tokens : List (List Token)) : Prop :=
  List.Forall₂ (fun l ts => scan l = .ok ts) lines tokens

theorem exists_stretch_lines {before after : List Text} {tokens : List (List Token)}
    (scans : ScansAs before tokens) {t : Text} (split : t.lines = before ++ after) (k : Nat) :
    ∃ u rest, t = u ++ rest ∧ rest.lines = after ∧ Stretch rest ⟨k, 0⟩ u (numbered k tokens) ∧
      (after ≠ [] → (⟨k, 0⟩ : Position).after u = ⟨k + before.length, 0⟩) := by
  induction scans generalizing t k with
  | nil => exact ⟨[], t, rfl, split, .done, fun _ => rfl⟩
  | @cons l first before tokens scanned others ih =>
    obtain ⟨-, rfl, behind⟩ := Text.split_of_lines split
    rw [numbered_cons]
    -- Only the last line can lack its line feed, and then nothing is left to be read.
    rcases splitLine_eq_or t with ⟨single, last⟩ | ⟨u, v, single, rfl, next⟩
    · rw [last] at scanned behind
      obtain ⟨rfl, rfl⟩ := List.append_eq_nil_iff.1 behind.symm
      cases others
      refine ⟨t, [], (List.append_nil t).symm, rfl, ?_, fun more => absurd rfl more⟩
      rw [numbered, List.zipIdx_nil, List.flatMap_nil, List.append_nil]
      exact stretch_nil_iff.2 (reads_single scanned single k)
    · rw [next] at scanned behind
      obtain ⟨u', rest, rfl, rest_lines, stretch, place⟩ := ih behind (k + 1)
      have line := (reads_single (scan_line_iff.1 scanned) single k).line (u' ++ rest)
      have place' := Position.after_line single ⟨k, 0⟩
      refine ⟨u ++ ['\n'] ++ u', rest, by simp, rest_lines, line.append ?_, fun more => ?_⟩
      · rwa [place']
      · rw [Position.after_append, place', place more, List.length_cons, Nat.add_right_comm,
          Nat.add_assoc]

theorem ScansAs.scan_eq {t : Text} {tokens : List (List Token)} (scans : ScansAs t.lines tokens) :
    scan t = .ok (numbered 0 tokens) := by
  obtain ⟨u, rest, rfl, none, stretch, -⟩ :=
    exists_stretch_lines scans (List.append_nil _).symm 0
  rw [Text.eq_nil_of_lines none] at stretch ⊢
  rw [List.append_nil]
  exact scan_eq_ok_iff_reads.2 (stretch_nil_iff.1 stretch)

theorem not_mem_dropLast_splitLine (t : Text) : '\n' ∉ t.splitLine.1.dropLast := by
  rcases splitLine_cases t with ⟨single, -⟩ | ⟨u, single, first⟩
  · exact fun member => single (List.dropLast_subset _ member)
  · rwa [first, List.dropLast_concat]

theorem Fault.behind_lines {v l rest : Text} {tokens lineTokens : List Token} {e : ScanError}
    {line : Nat} (fault : Fault l lineTokens e) (cause : e.cause = .unexpectedCharacter)
    (single : '\n' ∉ l.dropLast) (before : Stretch (l ++ rest) .start v tokens)
    (place : Position.start.after v = ⟨line, 0⟩) :
    Fault (v ++ (l ++ rest)) (tokens ++ lineTokens.map (Token.atLine line))
      { e with position := ⟨line, e.position.column⟩ } := by
  cases fault with
  | openString => cases cause
  | @stray u cs c _ read lead =>
    rw [List.dropLast_append_of_ne_nil (List.cons_ne_nil c cs), List.mem_append, not_or] at single
    have inert : ∀ d ∈ (c :: (cs ++ rest)).head?, Inert d := by
      rintro d ⟨⟩
      exact inert_of_stray lead
    have column : Position.behind (v ++ u) = ⟨line, (Position.behind u).column⟩ := by
      rw [← Position.behind_append, ← Position.after_start v, ← Position.after_start u, place,
        Position.after_of_not_mem single.1, Position.after_of_not_mem single.1]
      rfl
    have moved := (read.change inert (by simp)).atLine single.1 line
    rw [List.append_assoc, List.cons_append] at before ⊢
    rw [← List.append_assoc, ← column]
    exact .stray (before.append (place ▸ moved)) lead

theorem ScansAs.scan_error {t l : Text} {before after : List Text} {tokens : List (List Token)}
    {e : ScanError} (scans : ScansAs before tokens) (split : t.lines = before ++ l :: after)
    (fails : scan l = .error e) (cause : e.cause = .unexpectedCharacter) :
    scan t = .error { e with position := ⟨before.length, e.position.column⟩ } := by
  obtain ⟨v, rest, rfl, behind, stretch, counted⟩ := exists_stretch_lines scans split 0
  have place : Position.start.after v = ⟨before.length, 0⟩ := by
    rw [← Nat.zero_add before.length]
    exact counted (List.cons_ne_nil l after)
  obtain ⟨-, rfl, -⟩ := Text.split_of_lines behind
  obtain ⟨lineTokens, fault⟩ := exists_fault fails
  rw [← rest.splitLine_append] at stretch ⊢
  exact (fault.behind_lines cause (not_mem_dropLast_splitLine rest) stretch place).scan_eq

theorem not_mem_dropLast_of_mem_lines {t l : Text} (h : l ∈ t.lines) : '\n' ∉ l.dropLast := by
  generalize split : t.lines = ls at h
  induction ls generalizing t with
  | nil => cases h
  | cons first ls ih =>
    obtain ⟨-, rfl, behind⟩ := Text.split_of_lines split
    rcases List.mem_cons.1 h with rfl | h
    · exact not_mem_dropLast_splitLine t
    · exact ih behind h

theorem line_eq_zero_of_scan {l : Text} {tokens : List Token} (h : scan l = .ok tokens)
    (single : '\n' ∉ l.dropLast) : ∀ t ∈ tokens, t.position.line = 0 := by
  have alone {u : Text} (h : scan u = .ok tokens) (single : '\n' ∉ u) :
      ∀ t ∈ tokens, t.position.line = 0 :=
    (stretch_nil_iff.2 (scan_eq_ok_iff_reads.1 h)).line_eq single
  rcases List.eq_nil_or_concat l with rfl | ⟨u, c, rfl⟩
  · exact alone h List.not_mem_nil
  · rw [List.concat_eq_append] at h single
    rw [List.dropLast_concat] at single
    by_cases lineFeed : c = '\n'
    · rw [lineFeed, scan_line_iff] at h
      exact alone h single
    · exact alone h (by simp [single, Ne.symm lineFeed])

namespace ScansAs

variable {lines : List Text} {tokens : List (List Token)}

theorem map_numbered (scans : ScansAs lines tokens) (single : ∀ l ∈ lines, '\n' ∉ l.dropLast)
    (k : Nat) : (numbered k tokens).map (Token.atLine 0) = tokens.flatten := by
  induction scans generalizing k with
  | nil => rfl
  | @cons l first lines tokens scanned others ih =>
    have unmoved : (first.map (Token.atLine k)).map (Token.atLine 0) = first := by
      rw [List.map_map]
      refine (List.map_congr_left fun t ht => ?_).trans (List.map_id _)
      have line := line_eq_zero_of_scan scanned (single l List.mem_cons_self) t ht
      obtain ⟨kind, lexeme, literal?, line, column⟩ := t
      cases line
      rfl
    rw [numbered_cons, List.map_append, unmoved, List.flatten_cons,
      ih fun l hl => single l (List.mem_cons_of_mem _ hl)]

theorem flatMap_listed (scans : ScansAs lines tokens) (prompt : Text) :
    lines.flatMap (fun l => echo prompt ++ listed l) =
      tokens.flatMap fun ts => echo prompt ++ ts.flatMap fun t => echoLine t.render := by
  induction scans with
  | nil => rfl
  | cons scanned others ih =>
    rw [List.flatMap_cons, List.flatMap_cons, ih, listed_of_ok scanned]

theorem flatMap_reported (scans : ScansAs lines tokens) : lines.flatMap reported = [] := by
  induction scans with
  | nil => rfl
  | cons scanned others ih => rw [List.flatMap_cons, ih, reported_of_ok scanned, List.append_nil]

end ScansAs

namespace Command

/-- A session and a script of lines that scan print the same tokens, at the first line and at their
own. Behind such lines a script reports the unexpected character of a line where it stands. -/
theorem session_agrees {files : Files} {args args' : List Text} {script prompt t : Text}
    (opens : Opens files args false script (Utf8.encode t))
    (asks : Settings.initial.parse args' = .ok ⟨[], prompt, false, none⟩) (input : Bytes) :
    (∀ tokens, ScansAs t.withLineFeeds.lines tokens →
      (run files input args).number? = some 0 ∧
      (run files input args).output =
        ⟨(numbered 0 tokens).flatMap fun t => t.render.stripAnsi ++ ['\n'], []⟩ ∧
      (run files (Utf8.encode t) args').number? = some 0 ∧
      (run files (Utf8.encode t) args').output =
        ⟨tokens.flatMap (fun ts => prompt.stripAnsi ++
            ts.flatMap fun t => t.render.stripAnsi ++ ['\n']) ++
          (prompt.stripAnsi ++ ['\n']), []⟩ ∧
      (numbered 0 tokens).map (Token.atLine 0) = tokens.flatten) ∧
    ∀ before l after tokens e, t.withLineFeeds.lines = before ++ l :: after →
      ScansAs before tokens → scan l = .error e → e.cause = .unexpectedCharacter →
      (run files input args).number? = some 65 ∧
      (run files input args).output = ⟨[], Text.stripAnsi ("Error: ".toList ++
        { e with position := ⟨before.length, e.position.column⟩ }.message) ++ ['\n']⟩ := by
  refine ⟨fun tokens scans => ?_, fun before l after tokens e split scans fails cause => ?_⟩
  · have session : run files (Utf8.encode t) args' = .exit .success
        ⟨tokens.flatMap (fun ts => echo prompt ++ ts.flatMap fun t => echoLine t.render) ++
          (echo prompt ++ ['\n']), []⟩ := by
      rw [run_session _ asks, Prompt.session_encode, scans.flatMap_listed]
      exact congrArg (fun err => Outcome.exit .success ⟨_, err⟩) scans.flatMap_reported
    rw [opens.run_of_ok input scans.scan_eq, session]
    exact ⟨rfl, rfl, rfl, rfl, scans.map_numbered (fun l => not_mem_dropLast_of_mem_lines) 0⟩
  · rw [opens.run_of_error input (scans.scan_error split fails cause)]
    exact ⟨rfl, rfl⟩

theorem session_agrees_two :
    let t : Text := "x //\r\ny".toList
    let stray : Text := "x\r @".toList
    let files := (FileTree.ofList [("ok".toList, some (Utf8.encode t)),
      ("bad".toList, some (Utf8.encode stray))]).files
    let x : Token := ⟨.identifier, ['x'], none, ⟨0, 1⟩⟩
    let y (line : Nat) : Token := ⟨.identifier, ['y'], none, ⟨line, 1⟩⟩
    let unexpected : ScanError := ⟨⟨1, 1⟩, ['@'], .unexpectedCharacter⟩
    (run files [] ["ok".toList]).output =
        ⟨[x, y 1].flatMap fun t => echoLine t.render, []⟩ ∧
      (run files (Utf8.encode t) []).output =
        ⟨[[x], [y 0]].flatMap (fun ts => echo "> ".toList ++ ts.flatMap fun t =>
          echoLine t.render) ++ (echo "> ".toList ++ ['\n']), []⟩ ∧
      (run files [] ["bad".toList]).output =
        ⟨[], echoLine ("Error: ".toList ++ unexpected.message)⟩ := by
  intro t stray files x y unexpected
  have ok : Opens files ["ok".toList] false "ok".toList (Utf8.encode t) :=
    ⟨⟨"> ".toList, by decide +kernel⟩, by decide +kernel, by decide +kernel⟩
  have bad : Opens files ["bad".toList] false "bad".toList (Utf8.encode stray) :=
    ⟨⟨"> ".toList, by decide +kernel⟩, by decide +kernel, by decide +kernel⟩
  have asks : Settings.initial.parse [] = .ok ⟨[], "> ".toList, false, none⟩ := rfl
  have lines : t.withLineFeeds.lines = ["x //\n".toList, ['y']] := by decide +kernel
  have scans : ScansAs t.withLineFeeds.lines [[x], [y 0]] := by
    rw [lines]
    exact .cons (by decide +kernel) (.cons (by decide +kernel) .nil)
  have first : ScansAs ["x\n".toList] [[x]] := .cons (by decide +kernel) .nil
  have split : stray.withLineFeeds.lines = ["x\n".toList] ++ " @".toList :: [] := by decide +kernel
  have fails : scan " @".toList = .error ⟨⟨0, 1⟩, ['@'], .unexpectedCharacter⟩ := by decide +kernel
  obtain ⟨-, file, -, session, -⟩ := (session_agrees ok asks []).1 _ scans
  exact ⟨file, session, ((session_agrees bad asks []).2 _ _ _ _ _ split first fails rfl).2⟩

end Command
end LoxLexer
