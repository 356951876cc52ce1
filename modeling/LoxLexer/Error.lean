import LoxLexer.Position
import LoxLexer.Text.Quoted

namespace LoxLexer

inductive ScanError.Cause
  | unexpectedCharacter
  | unterminatedString
  | other (message : Text)
deriving DecidableEq, Repr

structure ScanError where
  position : Position
  text : Text
  cause : ScanError.Cause
deriving DecidableEq, Repr

namespace ScanError

def detail (e : ScanError) : Text :=
  match e.cause with
  | .unexpectedCharacter => "Unexpected character: ".toList ++ e.text.quoted
  | .unterminatedString => "Unterminated string: ".toList ++ e.text.quoted
  | .other message => message

def message (e : ScanError) : Text :=
  "Error reading code at line ".toList ++ Text.ofNat e.position.line ++ ", column ".toList ++
    Text.ofNat e.position.column ++ ": ".toList ++ e.detail

end ScanError

inductive LiteralError.Reason
  | notBoolean
  | notNumber
  | notString
  | other (message : Text)
deriving DecidableEq, Repr

structure LiteralError where
  text : Text
  reason : LiteralError.Reason
deriving DecidableEq, Repr

namespace LiteralError

def detail (e : LiteralError) : Text :=
  match e.reason with
  | .notBoolean => "provided string was not `true` or `false`".toList
  | .notNumber => "invalid float literal".toList
  | .notString => "Incorrectly formatted string!".toList
  | .other message => message

def message (e : LiteralError) : Text :=
  "Could not parse literal ".toList ++ e.text ++ ": ".toList ++ e.detail

end LiteralError

inductive Error
  | scan (e : ScanError)
  | literal (e : LiteralError)
  | general (message : Text)
deriving DecidableEq, Repr

def Error.message : Error → Text
  | .scan e => e.message
  | .literal e => e.message
  | .general message => message

end LoxLexer
