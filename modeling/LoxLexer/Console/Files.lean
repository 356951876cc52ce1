import LoxLexer.Text.Utf8
import LoxLexer.Text.Visible

namespace LoxLexer

inductive FileFault
  | missing
  | denied
  | notDirectory
  | isDirectory
  | nameTooLong
deriving DecidableEq, Repr

namespace FileFault

def number : FileFault → Nat
  | missing => 2
  | denied => 13
  | notDirectory => 20
  | isDirectory => 21
  | nameTooLong => 36

def reason : FileFault → Text
  | missing => "No such file or directory".toList
  | denied => "Permission denied".toList
  | notDirectory => "Not a directory".toList
  | isDirectory => "Is a directory".toList
  | nameTooLong => "File name too long".toList

def message (fault : FileFault) (path : Text) : Text :=
  "[Errno ".toList ++ Text.ofNat fault.number ++ "] ".toList ++ fault.reason ++ ": ".toList ++
    path.visible

end FileFault

structure Files where
  isDirectory : Text → Bool
  -- Something is there, and it must not be read.
  isLocked : Text → Bool
  read : Text → Except FileFault Bytes

end LoxLexer
