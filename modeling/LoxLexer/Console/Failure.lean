import LoxLexer.Console.Files
import LoxLexer.Console.Output
import LoxLexer.Error

namespace LoxLexer

inductive ExitCode
  | success
  | badOption
  | tooManyScripts
  | badData
  | noInput
  | internal
deriving DecidableEq, Repr

def ExitCode.number : ExitCode → Nat
  | success => 0
  | badOption => 2
  | tooManyScripts => 64
  | badData => 65
  | noInput => 66
  | internal => 70

inductive Failure
  | error (e : Error)
  | undecodable (fault : Utf8.Fault)
  | unreadable (fault : FileFault) (message : Text)
  | internal (message : Text)
deriving DecidableEq

def Utf8.Fault.message (fault : Utf8.Fault) : Text :=
  "'utf-8' codec can't decode ".toList ++
    (match fault.bytes with
      | [b] => "byte 0x".toList ++ Text.hex 2 b.toNat ++ " in position ".toList ++
          Text.ofNat fault.offset
      | bytes => "bytes in position ".toList ++ Text.ofNat fault.offset ++ '-' ::
          Text.ofNat (fault.offset + bytes.length - 1)) ++
    ": ".toList ++ fault.cause.message

namespace Failure

def message : Failure → Text
  | error e => e.message
  | undecodable fault => fault.message
  | unreadable _ message => message
  | internal message => message

def exitCode : Failure → ExitCode
  | error _ => .badData
  | undecodable _ => .badData
  | unreadable .missing _ => .noInput
  | unreadable .denied _ => .noInput
  | unreadable .isDirectory _ => .noInput
  | unreadable _ _ => .internal
  | internal _ => .internal

-- One line stands for a trace of any length.
def trace : Text := "<traceback>\n".toList

def report (verbose : Bool) (failure : Failure) : Text :=
  if failure.exitCode = .internal then
    echoLine ("Internal error: ".toList ++ failure.message) ++ if verbose then trace else []
  else echoLine ("Error: ".toList ++ failure.message)

end Failure
end LoxLexer
