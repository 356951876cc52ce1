import LoxLexer.Console.Command
import LoxLexer.Proofs.FirstError
import LoxLexer.Proofs.Rendering

namespace LoxLexer

namespace Text

theorem stripAnsi_sublist (t : Text) : (stripAnsi t).Sublist t := by
  induction t using stripAnsi_induction with
  | nil => rw [stripAnsi_nil]
  | control w t h ih =>
    rw [stripAnsi_control h]
    exact ih.trans (List.suffix_append w t).sublist
  | cons c t h ih =>
    rw [stripAnsi_cons h]
    exact ih.cons_cons c

theorem OneLine.sublist {t u : Text} (h : t.OneLine) (sub : u.Sublist t) : u.OneLine :=
  ⟨fun member => h.1 (sub.subset member), fun member => h.2.1 (sub.subset member),
    fun member => h.2.2 (sub.subset member)⟩

def IsLine (t : Text) : Prop := ∃ u : Text, u.OneLine ∧ t = u ++ ['\n']

theorem OneLine.isLine_echoLine {t : Text} (h : t.OneLine) : IsLine (echoLine t) :=
  ⟨echo t, h.sublist (stripAnsi_sublist t), rfl⟩

end Text

def listed (source : Text) : Text :=
  match scan source with
  | .ok tokens => tokens.flatMap fun t => echoLine t.render
  | .error _ => []

def reported (source : Text) : Text :=
  match scan source with
  | .ok _ => []
  | .error e => echoLine ("Error: ".toList ++ e.message)

def diagnosis (source : Text) : Text :=
  match scan source with
  | .ok tokens => "Scanned ".toList ++ Text.ofNat tokens.length ++ " tokens from ".toList ++
      Text.ofNat source.length ++ " characters, ending at ".toList ++
      (Position.behind source).render
  | .error e => "Scan failed: ".toList ++ e.message

def logged (verbose : Bool) (source : Text) : Text :=
  if verbose then logLine (diagnosis source) else []

variable {source : Text} {tokens : List Token} {e : ScanError}

theorem listed_of_ok (h : scan source = .ok tokens) :
    listed source = tokens.flatMap fun t => echoLine t.render := by
  rw [listed, h]

theorem listed_of_error (h : scan source = .error e) : listed source = [] := by
  rw [listed, h]

theorem reported_of_ok (h : scan source = .ok tokens) : reported source = [] := by
  rw [reported, h]

theorem reported_of_error (h : scan source = .error e) :
    reported source = echoLine ("Error: ".toList ++ e.message) := by
  unfold reported
  rw [h]

theorem diagnosis_of_ok (h : scan source = .ok tokens) :
    diagnosis source = "Scanned ".toList ++ Text.ofNat tokens.length ++ " tokens from ".toList ++
      Text.ofNat source.length ++ " characters, ending at ".toList ++
      (Position.behind source).render := by
  unfold diagnosis
  rw [h]

theorem diagnosis_of_error (h : scan source = .error e) :
    diagnosis source = "Scan failed: ".toList ++ e.message := by
  unfold diagnosis
  rw [h]

theorem drain_of_ok (h : scan source = .ok tokens) :
    (Scan.start source).drain.error? = none ∧ (Scan.start source).drain.tokens = tokens := by
  rw [scan, Scan.Drained.result] at h
  split at h
  · cases h
  · rename_i none
    exact ⟨none, Except.ok.inj h⟩

theorem drain_of_error (h : scan source = .error e) :
    (Scan.start source).drain.error? = some e := by
  rw [scan, Scan.Drained.result] at h
  split at h
  · rename_i some
    rwa [Except.error.inj h] at some
  · cases h

theorem drain_summary (source : Text) : (Scan.start source).drain.summary = diagnosis source := by
  cases h : scan source with
  | ok tokens =>
    obtain ⟨none, delivered⟩ := drain_of_ok h
    obtain ⟨-, consumed, position⟩ := Scan.passes_source none
    have start : (Scan.start source).consumed = 0 := rfl
    rw [start, Nat.zero_add] at consumed
    rw [diagnosis_of_ok h]
    unfold Scan.Drained.summary
    rw [none, delivered, consumed, position, ← Position.after_start]
    rfl
  | error e =>
    rw [diagnosis_of_error h]
    unfold Scan.Drained.summary
    rw [drain_of_error h]

theorem drain_lines (source : Text) : (Scan.start source).drain.lines = listed source := by
  unfold Scan.Drained.lines
  cases h : scan source with
  | ok tokens =>
    obtain ⟨none, delivered⟩ := drain_of_ok h
    rw [none, delivered, listed_of_ok h]
  | error e => rw [drain_of_error h, listed_of_error h]

theorem log_append_out (verbose : Bool) (source : Text) :
    Output.log verbose (diagnosis source) ++ .out (listed source) =
      ⟨listed source, logged verbose source⟩ := by
  rw [Output.log_append]
  exact congrArg (Output.mk _) (List.append_nil _)

theorem listing_of_ok (verbose : Bool) (h : scan source = .ok tokens) :
    listing verbose source = (⟨listed source, logged verbose source⟩, none) := by
  rw [listing, drain_summary, drain_lines, log_append_out, (drain_of_ok h).1]

theorem listing_of_error (verbose : Bool) (h : scan source = .error e) :
    listing verbose source = (⟨listed source, logged verbose source⟩, some e) := by
  rw [listing, drain_summary, drain_lines, log_append_out, drain_of_error h]

theorem report_scan (verbose : Bool) (e : ScanError) :
    Failure.report verbose (.error (.scan e)) = echoLine ("Error: ".toList ++ e.message) :=
  if_neg ExitCode.noConfusion

theorem quotes_of_scan (h : scan source = .error e) : e.cause.quotes = true := by
  obtain ⟨tokens, fault⟩ := exists_fault h
  cases fault <;> rfl

theorem isLine_report (h : scan source = .error e) :
    Text.IsLine (echoLine ("Error: ".toList ++ e.message)) :=
  have oneLine : Text.OneLine ("Error: ".toList ++ e.message) :=
    Text.oneLine_append.2 ⟨by decide, ScanError.oneLine_message (quotes_of_scan h)⟩
  oneLine.isLine_echoLine

theorem answer_eq (verbose : Bool) (source : Text) :
    Prompt.answer verbose source = ⟨listed source, logged verbose source ++ reported source⟩ := by
  cases h : scan source with
  | ok tokens =>
    rw [Prompt.answer, listing_of_ok verbose h, reported_of_ok h, List.append_nil]
  | error e =>
    rw [Prompt.answer, listing_of_error verbose h, reported_of_error h]
    change Output.mk (listed source ++ [])
      (logged verbose source ++ Failure.report verbose (.error (.scan e))) = _
    rw [report_scan, List.append_nil]

theorem runSource_eq (verbose : Bool) (source : Text) :
    Command.runSource verbose source = .exit
      (match scan source with
        | .ok _ => .success
        | .error _ => .badData)
      (Prompt.answer verbose source) := by
  cases h : scan source with
  | ok tokens => rw [Command.runSource, Prompt.answer, listing_of_ok verbose h]
  | error e =>
    rw [Command.runSource, Prompt.answer, listing_of_error verbose h]
    rfl

end LoxLexer
