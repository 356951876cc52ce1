import LoxLexer.Console.FileTree
import LoxLexer.Proofs.Conversations

namespace LoxLexer

def Ending.trace (ending : Ending) : Text := if ending = .exit .internal then Failure.trace else []

namespace Command

inductive Task
  | talk
  | read (path : Text)
  | nothing
deriving DecidableEq, Repr

def pieces (files : Files) (input : Bytes) : Task → List (Option Text)
  | .talk => (Input.ofBytes input).readings.lines
  | .read path =>
    match readScript files path with
    | .ok source => [some source]
    | .error _ => []
  | .nothing => []

def reading : Task → Text
  | .read path => "DEBUG: ".toList ++ ("Reading ".toList ++ path) ++ ['\n']
  | _ => []

def lead (prompt : Text) : Task → Text
  | .talk => prompt.stripAnsi
  | _ => []

end Command
end LoxLexer
