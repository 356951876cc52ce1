import LoxLexer.Text.Basic

namespace LoxLexer.Path

def split : Text → List Text
  | [] => [[]]
  | c :: t =>
    if c = '/' then [] :: split t
    else match split t with
      | [] => [[c]]
      | part :: parts => (c :: part) :: parts

def components (path : Text) : List Text := (split path).filter (· ∉ [[], ['.']])

-- An absolute path starts with one slash, or with exactly two.
def root (path : Text) : Text :=
  match path.takeWhile (· = '/') with
  | [] => []
  | ['/', '/'] => ['/', '/']
  | _ => ['/']

def normalize (path : Text) : Text :=
  match root path ++ List.intercalate ['/'] (components path) with
  | [] => ['.']
  | normal => normal

end LoxLexer.Path
