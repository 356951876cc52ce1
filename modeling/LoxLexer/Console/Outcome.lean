import LoxLexer.Console.Failure

namespace LoxLexer

/-- A command that does not end prints the same again and again. -/
inductive Ending
  | exit (code : ExitCode)
  | endless (again : Output)
deriving DecidableEq

structure Outcome where
  ending : Ending
  output : Output
deriving DecidableEq

namespace Outcome

def exit (code : ExitCode) (output : Output) : Outcome := ⟨.exit code, output⟩

def exit? (outcome : Outcome) : Option ExitCode :=
  match outcome.ending with
  | .exit code => some code
  | .endless _ => none

def number? (outcome : Outcome) : Option Nat := outcome.exit?.map ExitCode.number

end Outcome
end LoxLexer
