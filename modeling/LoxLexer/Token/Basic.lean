import LoxLexer.Literal
import LoxLexer.Token.Kind

namespace LoxLexer

structure Token where
  kind : Kind
  lexeme : Text
  literal? : Option Literal
  position : Position
deriving DecidableEq

namespace Token

def fields (t : Token) : List Text :=
  ["type: ".toList ++ t.kind.name, "lexeme: ".toList ++ t.lexeme.quoted] ++
    (t.literal?.map fun l => "literal: ".toList ++ l.display).toList ++
    ["position: ".toList ++ t.position.render]

def render (t : Token) : Text :=
  "<Token ".toList ++ List.intercalate ", ".toList t.fields ++ ['>']

def sameValue (t u : Token) : Bool :=
  t.kind = u.kind && t.lexeme = u.lexeme && t.position = u.position &&
    match t.literal?, u.literal? with
    | none, none => true
    | some a, some b => a.sameValue b
    | _, _ => false

end Token
end LoxLexer
