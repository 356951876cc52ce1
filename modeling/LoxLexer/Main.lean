import LoxLexer.Console.Command

namespace LoxLexer.Program

def write (stream : IO.FS.Stream) (t : Text) : IO Unit := do
  stream.putStr (String.ofList t)
  stream.flush

def print (output : Output) : IO Unit := do
  write (← IO.getStderr) output.stderr
  write (← IO.getStdout) output.stdout

-- The system also gives codes with a minus sign.
def isCode (fault : FileFault) (code : UInt32) : Bool :=
  code = fault.number.toUInt32 || -code = fault.number.toUInt32

def faultOf? : IO.Error → Option FileFault
  | .noFileOrDirectory .. => some .missing
  | .permissionDenied .. => some .denied
  | .inappropriateType _ code _ =>
    some (if isCode .isDirectory code then .isDirectory else .notDirectory)
  | .invalidArgument _ code _ => if isCode .nameTooLong code then some .nameTooLong else none
  | _ => none

def readFile (path : Text) : IO (Except FileFault Bytes) := do
  try
    return .ok (← IO.FS.readBinFile (String.ofList path)).toList
  catch e =>
    match faultOf? e with
    | some fault => return .error fault
    | none => throw e

def isThere (path : Text) : IO Bool := do
  try
    let _ ← IO.FS.realPath (String.ofList path)
    return true
  catch _ => return false

def filesOf (scripts : List Text) : IO Files := do
  let answers ← scripts.mapM fun script => do
    let path := Path.normalize script
    return (path, ← readFile path)
  let places ← scripts.mapM fun script => return (script, ← isThere script)
  let read (path : Text) := (answers.lookup path).getD (.error .missing)
  let fails (path : Text) (fault : FileFault) := match read (Path.normalize path) with
    | .error fault' => fault' = fault
    | .ok _ => false
  return {
    isDirectory path := path ≠ [] && fails path .isDirectory
    isLocked path := (places.lookup path).getD false && fails path .denied
    read }

partial def readAll (stream : IO.FS.Stream) (bytes : ByteArray) : IO Bytes := do
  let more ← stream.read 4096
  if more.isEmpty then return bytes.toList else readAll stream (bytes ++ more)

partial def talk (s : Settings) (stream : IO.FS.Stream) : IO Unit := do
  let input ← stream.getLine
  for line in Text.lines (Text.withLineFeeds input.toList) do
    print (Prompt.answer s.verbose line ++ .out (echo s.prompt))
  if input.isEmpty then print (.out ['\n']) else talk s stream

partial def repeatForever (output : Output) : IO ExitCode := do
  print output
  repeatForever output

def finish (outcome : Outcome) : IO ExitCode := do
  print outcome.output
  match outcome.ending with
  | .exit code => return code
  | .endless again => repeatForever again

def run (args : List Text) : IO ExitCode := do
  match Settings.initial.parse args with
  | .error e => finish (Command.refuse e)
  | .ok s =>
    let files ← filesOf s.scripts
    let stdin ← IO.getStdin
    if s.notice?.isSome || !s.scripts.isEmpty then finish (Command.runSettings files [] s)
    else if ← stdin.isTty then
      print (.out (echo s.prompt))
      talk s stdin
      return .success
    else finish (Command.runSettings files (← readAll stdin .empty) s)

end LoxLexer.Program

def main (args : List String) : IO UInt32 := do
  return (← LoxLexer.Program.run (args.map String.toList)).number.toUInt32
