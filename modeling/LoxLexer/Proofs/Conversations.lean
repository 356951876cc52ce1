import LoxLexer.Proofs.Blocks
import LoxLexer.Proofs.Listings
import Mathlib.Data.List.ReduceOption

namespace LoxLexer

namespace Prompt

theorem stdout_apology : apology.stdout = "Sorry, i didn't catch that!\n".toList := by
  decide +kernel

theorem turn_some (prompt : Text) (verbose : Bool) (l : Text) :
    turn prompt verbose (some l) =
      ⟨echo prompt ++ listed l, logged verbose l ++ reported l⟩ := by
  rw [turn, answer_eq]
  rfl

theorem stdout_turn (prompt : Text) (verbose : Bool) (piece : Option Text) :
    (turn prompt verbose piece).stdout =
      echo prompt ++ piece.elim apology.stdout listed := by
  cases piece with
  | none => rfl
  | some l => rw [turn_some]; rfl

theorem flatMap_stderr_turn (prompt : Text) (verbose : Bool) (pieces : List (Option Text)) :
    pieces.flatMap (fun piece => (turn prompt verbose piece).stderr) =
      pieces.reduceOption.flatMap fun source => logged verbose source ++ reported source := by
  induction pieces with
  | nil => rfl
  | cons piece pieces ih =>
    rw [List.flatMap_cons, ih]
    cases piece with
    | none => rfl
    | some l => rw [turn_some, List.reduceOption_cons_of_some, List.flatMap_cons]

theorem join_turns (prompt : Text) (verbose : Bool) (pieces : List (Option Text)) :
    Output.join (pieces.map (turn prompt verbose)) =
      ⟨pieces.flatMap fun piece => echo prompt ++ piece.elim apology.stdout listed,
        pieces.reduceOption.flatMap fun source => logged verbose source ++ reported source⟩ := by
  rw [Output.join, List.flatMap_map, List.flatMap_map, flatMap_stderr_turn]
  simp only [stdout_turn]

theorem session_encode (prompt : Text) (verbose : Bool) (t : Text) :
    session prompt verbose (Utf8.encode t) = .exit .success
      ⟨t.withLineFeeds.lines.flatMap (fun l => echo prompt ++ listed l) ++ (echo prompt ++ ['\n']),
        t.withLineFeeds.lines.flatMap fun l => logged verbose l ++ reported l⟩ := by
  have all (ls : List Text) : (ls.map some).reduceOption = ls := by
    rw [List.reduceOption, List.filterMap_map]
    exact List.filterMap_some
  rw [session, Input.readings_of_holds (Input.holds_ofBytes t), join_turns, all, List.flatMap_map]
  exact congrArg (fun err => Outcome.exit .success ⟨_, err⟩) (List.append_nil _)

end Prompt

namespace Command

variable {files : Files} {args : List Text} {prompt : Text}

theorem parse_prompt (prompt : Text) :
    Settings.initial.parse ["--prompt".toList, prompt] = .ok ⟨[], prompt, false, none⟩ := rfl

theorem run_session {verbose : Bool} (input : Bytes)
    (h : Settings.initial.parse args = .ok ⟨[], prompt, verbose, none⟩) :
    run files input args = Prompt.session prompt verbose input := by
  rw [run, h]
  rfl

/-- A session answers the lines of its input one after the other. The answer to a line is its
listing or the one line of its report; no other line changes it, and it changes no other. -/
theorem run_conversation (h : Settings.initial.parse args = .ok ⟨[], prompt, false, none⟩) :
    (∀ t : Text,
      (run files (Utf8.encode t) args).number? = some 0 ∧
      (run files (Utf8.encode t) args).output =
        ⟨t.withLineFeeds.lines.flatMap (fun l => prompt.stripAnsi ++ listed l) ++
            (prompt.stripAnsi ++ ['\n']),
          t.withLineFeeds.lines.flatMap reported⟩) ∧
    (∀ l,
      (∀ tokens, scan l = .ok tokens →
        listed l = tokens.flatMap (fun t => t.render.stripAnsi ++ ['\n']) ∧ reported l = []) ∧
      ∀ e, scan l = .error e → listed l = [] ∧
        reported l = Text.stripAnsi ("Error: ".toList ++ e.message) ++ ['\n'] ∧
        Text.IsLine (reported l)) ∧
    ∀ before after : List Text, ∃ out out' err err' : Text, ∀ (t : Text) l,
      t.withLineFeeds.lines = before ++ l :: after →
      (run files (Utf8.encode t) args).output =
        ⟨out ++ (prompt.stripAnsi ++ listed l) ++ out', err ++ reported l ++ err'⟩ := by
  have whole (t : Text) : run files (Utf8.encode t) args = .exit .success
      ⟨t.withLineFeeds.lines.flatMap (fun l => echo prompt ++ listed l) ++ (echo prompt ++ ['\n']),
        t.withLineFeeds.lines.flatMap reported⟩ := by
    rw [run_session _ h, Prompt.session_encode]
    rfl
  refine ⟨fun t => ⟨?_, ?_⟩, fun l => ⟨?_, ?_⟩, fun before after => ?_⟩
  · rw [whole]
    rfl
  · rw [whole]
    rfl
  · exact fun tokens h => ⟨listed_of_ok h, reported_of_ok h⟩
  · intro e h
    have line := isLine_report h
    rw [← reported_of_error h] at line
    exact ⟨listed_of_error h, reported_of_error h, line⟩
  · refine ⟨before.flatMap fun l => echo prompt ++ listed l,
      after.flatMap (fun l => echo prompt ++ listed l) ++ (echo prompt ++ ['\n']),
      before.flatMap reported, after.flatMap reported, fun t l split => ?_⟩
    rw [whole, split]
    simp only [List.flatMap_append, List.flatMap_cons, List.append_assoc]
    rfl

theorem run_conversation_three :
    let files : Files := ⟨fun _ => false, fun _ => false, fun _ => .error .missing⟩
    let t : Text := "x\r\n\"y\r@".toList
    let x : Token := ⟨.identifier, ['x'], none, ⟨0, 1⟩⟩
    let unterminated : ScanError := ⟨⟨1, 0⟩, "\"y\n".toList, .unterminatedString⟩
    let unexpected : ScanError := ⟨⟨0, 0⟩, ['@'], .unexpectedCharacter⟩
    let prompt : Text := "? ".toList
    (run files (Utf8.encode t) ["--prompt".toList, prompt]).output =
        ⟨prompt.stripAnsi ++ echoLine x.render ++
            (prompt.stripAnsi ++ (prompt.stripAnsi ++ (prompt.stripAnsi ++ ['\n']))),
          echoLine ("Error: ".toList ++ unterminated.message) ++
            echoLine ("Error: ".toList ++ unexpected.message)⟩ := by
  intro files t x unterminated unexpected prompt
  have split : t.withLineFeeds.lines = ["x\n".toList, "\"y\n".toList, ['@']] := by decide +kernel
  have first : scan "x\n".toList = .ok [x] := by decide +kernel
  have second : scan "\"y\n".toList = .error unterminated := by decide +kernel
  have third : scan ['@'] = .error unexpected := by decide +kernel
  rw [((run_conversation (parse_prompt prompt)).1 t).2, split]
  simp only [List.flatMap_cons, List.flatMap_nil, listed_of_ok first, reported_of_ok first,
    listed_of_error second, reported_of_error second, listed_of_error third,
    reported_of_error third, List.nil_append, List.append_nil, List.append_assoc]

end Command
end LoxLexer
