import LoxLexer.Console.Input
import LoxLexer.Console.Listing
import LoxLexer.Console.Outcome

namespace LoxLexer.Prompt

def answer (verbose : Bool) (line : Text) : Output :=
  let (output, error?) := listing verbose line
  match error? with
  | none => output
  | some e => output ++ .err (Failure.report verbose (.error (.scan e)))

def apology : Output := .out (echoLine "Sorry, i didn't catch that!".toList)

def turn (prompt : Text) (verbose : Bool) (line? : Option Text) : Output :=
  .out (echo prompt) ++
    match line? with
    | none => apology
    | some line => answer verbose line

def session (prompt : Text) (verbose : Bool) (input : Bytes) : Outcome :=
  let readings := (Input.ofBytes input).readings
  let turns := Output.join (readings.lines.map (turn prompt verbose))
  if readings.ends then .exit .success (turns ++ .out (echo prompt ++ ['\n']))
  else ⟨.endless (turn prompt verbose none), turns⟩

end LoxLexer.Prompt
