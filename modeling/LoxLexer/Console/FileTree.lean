import LoxLexer.Console.Files
import LoxLexer.Console.Path

namespace LoxLexer

/-- A tree of files below one directory, as a list of paths: the directories on the way to an entry
are there without an entry of their own, and an earlier entry hides a later one. -/
structure FileTree where
  entries : List (List Text × Option Bytes)
deriving DecidableEq, Repr

inductive Place
  | file (bytes : Bytes)
  | directory (path : List Text)
  | outside
deriving DecidableEq, Repr

namespace FileTree

def ofList (entries : List (Text × Option Bytes)) : FileTree :=
  ⟨entries.reverse.map fun e => (Path.components e.1, e.2)⟩

def find? (tree : FileTree) (path : List Text) : Option Place :=
  match tree.entries.find? fun e => e.1 = path with
  | some (_, some bytes) => some (.file bytes)
  | some (_, none) => some (.directory path)
  | none =>
    if path = [] ∨ tree.entries.any fun e => path.isPrefixOf e.1 then some (.directory path)
    else none

-- Names and paths are measured in bytes.
def maxName : Nat := 255

def pathLimit : Nat := 4096

def enter (tree : FileTree) (place : Place) (name : Text) : Except FileFault Place :=
  if name = [] ∨ name = ['.'] then
    match place with
    | .file _ => .error .notDirectory
    | _ => .ok place
  else
    match place with
    | .file _ => .error .notDirectory
    | .directory path =>
      if name = ['.', '.'] then .ok (if path = [] then .outside else .directory path.dropLast)
      else if maxName < (Utf8.encode name).length then .error .nameTooLong
      else
        match tree.find? (path ++ [name]) with
        | some place => .ok place
        | none => .error .missing
    -- Nothing is known outside the tree but the way up.
    | .outside =>
      if name = ['.', '.'] then .ok .outside
      else if maxName < (Utf8.encode name).length then .error .nameTooLong
      else .error .missing

def locate (tree : FileTree) (path : Text) : Except FileFault Place :=
  if path = [] then .error .missing
  else if pathLimit ≤ (Utf8.encode path).length then .error .nameTooLong
  else (Path.split path).foldlM tree.enter (if path.head? = some '/' then .outside else .directory [])

def files (tree : FileTree) : Files where
  isDirectory path :=
    match tree.locate path with
    | .ok (.file _) => false
    | .ok _ => true
    | .error _ => false
  isLocked _ := false
  read path :=
    match tree.locate path with
    | .ok (.file bytes) => .ok bytes
    | .ok _ => .error .isDirectory
    | .error fault => .error fault

end FileTree
end LoxLexer
