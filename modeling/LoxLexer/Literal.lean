import LoxLexer.Error
import LoxLexer.Numeric.Layout

namespace LoxLexer

inductive Literal
  | string (payload : Text)
  | number (value : Binary64)
  | boolean (value : Bool)
deriving DecidableEq

namespace Literal

def ofBool (b : Bool) : Text := if b then "true".toList else "false".toList

def display : Literal → Text
  | .string payload => "String(".toList ++ payload.quoted ++ [')']
  | .number value => "Number(".toList ++ Layout.display.number value ++ [')']
  | .boolean value => "Boolean(".toList ++ ofBool value ++ [')']

def bare : Literal → Text
  | .string payload => payload
  | .number value =>
    match value.toInt? with
    | some n => Text.ofInt n
    | none => Layout.plain.number value
  | .boolean value => ofBool value

def sameValue : Literal → Literal → Bool
  | .string s, .string t => s = t
  | .number x, .number y => x.sameValue y
  | .boolean b, .boolean c => b = c
  | _, _ => false

def parseBoolean (t : Text) : Except LiteralError Literal :=
  if t = "true".toList then .ok (.boolean true)
  else if t = "false".toList then .ok (.boolean false)
  else .error ⟨t, .notBoolean⟩

def parseNumber (t : Text) : Except LiteralError Literal :=
  match Numeral.parse? t with
  | some n => .ok (.number n.number)
  | none => .error ⟨t, .notNumber⟩

def parseString (t : Text) : Except LiteralError Literal :=
  match t with
  | '"' :: u => if u.getLast? = some '"' then .ok (.string u.dropLast) else .error ⟨t, .notString⟩
  | _ => .error ⟨t, .notString⟩

def parse (t : Text) : Except LiteralError Literal :=
  parseBoolean t <|> parseNumber t <|> parseString t

def parse? (t : Text) : Option Literal := (parse t).toOption

end Literal
end LoxLexer
