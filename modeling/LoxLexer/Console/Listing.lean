import LoxLexer.Console.Failure
import LoxLexer.Scan

namespace LoxLexer

def Scan.Drained.summary (d : Scan.Drained) : Text :=
  match d.error? with
  | some e => "Scan failed: ".toList ++ e.message
  | none =>
    "Scanned ".toList ++ Text.ofNat d.tokens.length ++ " tokens from ".toList ++
      Text.ofNat d.scan.consumed ++ " characters, ending at ".toList ++ d.scan.position.render

def Scan.Drained.lines (d : Scan.Drained) : Text :=
  match d.error? with
  | some _ => []
  | none => d.tokens.flatMap fun t => echoLine t.render

def listing (verbose : Bool) (source : Text) : Output × Option ScanError :=
  let drained := (Scan.start source).drain
  (.log verbose drained.summary ++ .out drained.lines, drained.error?)

end LoxLexer
