import LoxLexer.Console.Arguments
import LoxLexer.Console.Path
import LoxLexer.Console.Prompt

namespace LoxLexer.Command

def version : Text := "0.1.0".toList

def usage : Text := "Usage: rox [OPTIONS] [SCRIPTS]...\n".toList

def help : Text :=
  usage ++
    ("\n  Scan Lox source code and print its tokens.\n" ++
    "\n  With no SCRIPT, starts an interactive prompt. With one SCRIPT, scans that\n  file.\n" ++
    "\n  Examples:\n" ++
    "      rox                  # Interactive prompt\n" ++
    "      rox hello.lox        # Scan a file\n" ++
    "      rox -v hello.lox     # With debug logging\n" ++
    "\nOptions:\n" ++
    "  --prompt TEXT  Prompt shown by the interactive session  [default: > ]\n" ++
    "  -v, --verbose  Verbose output (debug logging)\n" ++
    "  --version      Show the version and exit.\n" ++
    "  --help         Show this message and exit.\n").toList

def noticeText : Notice → Text
  | .version => "rox, version ".toList ++ version ++ ['\n']
  | .help => help

def refuse (e : UsageError) : Outcome :=
  .exit .badOption (.err (usage ++ "Try 'rox --help' for help.\n\n".toList ++
    echoLine ("Error: ".toList ++ e.message)))

def fail (verbose : Bool) (failure : Failure) : Outcome :=
  .exit failure.exitCode (.err (failure.report verbose))

def readScript (files : Files) (path : Text) : Except Failure Text :=
  match files.read path with
  | .error fault => .error (.unreadable fault (fault.message path))
  | .ok bytes =>
    match Utf8.decode bytes with
    | .error fault => .error (.undecodable fault)
    | .ok t => .ok t.withLineFeeds

def runSource (verbose : Bool) (source : Text) : Outcome :=
  let (output, error?) := listing verbose source
  match error? with
  | none => .exit .success output
  | some e =>
    let failed := fail verbose (.error (.scan e))
    { failed with output := output ++ failed.output }

def runScript (files : Files) (verbose : Bool) (script : Text) : Outcome :=
  let path := Path.normalize script
  let outcome :=
    match readScript files path with
    | .error failure => fail verbose failure
    | .ok source => runSource verbose source
  { outcome with output := .log verbose ("Reading ".toList ++ path) ++ outcome.output }

def objection? (files : Files) (script : Text) : Option UsageError :=
  if files.isDirectory script then some (.isDirectory script)
  else if files.isLocked script then some (.notReadable script)
  else none

def runSettings (files : Files) (input : Bytes) (s : Settings) : Outcome :=
  match s.notice?, s.scripts.findSome? (objection? files), s.scripts with
  | some notice, _, _ => .exit .success (.out (noticeText notice))
  | none, some e, _ => refuse e
  | none, none, [] => Prompt.session s.prompt s.verbose input
  | none, none, [script] => runScript files s.verbose script
  | none, none, _ => .exit .tooManyScripts (.out "Usage: rox [script]\n".toList)

def run (files : Files) (input : Bytes) (args : List Text) : Outcome :=
  match Settings.initial.parse args with
  | .error e => refuse e
  | .ok s => runSettings files input s

theorem runScript_readable {files : Files} {script t : Text} (verbose : Bool)
    (h : files.read (Path.normalize script) = .ok (Utf8.encode t)) :
    runScript files verbose script =
      { runSource verbose t.withLineFeeds with
        output := .log verbose ("Reading ".toList ++ Path.normalize script) ++
          (runSource verbose t.withLineFeeds).output } := by
  simp only [runScript, readScript, h, Utf8.decode_encode]

end LoxLexer.Command
