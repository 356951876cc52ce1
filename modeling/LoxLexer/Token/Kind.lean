import LoxLexer.Text.Basic

namespace LoxLexer

inductive Punctuator
  | leftParen
  | rightParen
  | leftBrace
  | rightBrace
  | comma
  | dot
  | minus
  | plus
  | semicolon
  | slash
  | star
deriving DecidableEq, Repr

namespace Punctuator

def all : List Punctuator :=
  [leftParen, rightParen, leftBrace, rightBrace, comma, dot, minus, plus, semicolon, slash, star]

def symbol : Punctuator → Char
  | leftParen => '('
  | rightParen => ')'
  | leftBrace => '{'
  | rightBrace => '}'
  | comma => ','
  | dot => '.'
  | minus => '-'
  | plus => '+'
  | semicolon => ';'
  | slash => '/'
  | star => '*'

def name : Punctuator → Text
  | leftParen => "LeftParen".toList
  | rightParen => "RightParen".toList
  | leftBrace => "LeftBrace".toList
  | rightBrace => "RightBrace".toList
  | comma => "Comma".toList
  | dot => "Dot".toList
  | minus => "Minus".toList
  | plus => "Plus".toList
  | semicolon => "Semicolon".toList
  | slash => "Slash".toList
  | star => "Star".toList

def alone : List Punctuator := all.filter (· ≠ slash)

end Punctuator

inductive Operator
  | bang
  | equal
  | greater
  | less
deriving DecidableEq, Repr

namespace Operator

def all : List Operator := [bang, equal, greater, less]

def symbol : Operator → Char
  | bang => '!'
  | equal => '='
  | greater => '>'
  | less => '<'

def name : Operator → Text
  | bang => "Bang".toList
  | equal => "Equal".toList
  | greater => "Greater".toList
  | less => "Less".toList

end Operator

inductive Keyword
  | and
  | «class»
  | «else»
  | false
  | «for»
  | «fun»
  | «if»
  | nil
  | or
  | print
  | «return»
  | super
  | this
  | true
  | var
  | «while»
deriving DecidableEq, Repr

namespace Keyword

def all : List Keyword :=
  [.and, .class, .else, .false, .for, .fun, .if, .nil, .or, .print, .return, .super, .this, .true,
    .var, .while]

def spelling : Keyword → Text
  | .and => "and".toList
  | .class => "class".toList
  | .else => "else".toList
  | .false => "false".toList
  | .for => "for".toList
  | .fun => "fun".toList
  | .if => "if".toList
  | .nil => "nil".toList
  | .or => "or".toList
  | .print => "print".toList
  | .return => "return".toList
  | .super => "super".toList
  | .this => "this".toList
  | .true => "true".toList
  | .var => "var".toList
  | .while => "while".toList

def name (k : Keyword) : Text := k.spelling.modifyHead Char.toUpper

def ofSpelling? (t : Text) : Option Keyword := all.find? fun k => k.spelling = t

theorem ofSpelling?_spelling (k : Keyword) : ofSpelling? k.spelling = some k := by
  cases k <;> decide

end Keyword

inductive Kind
  | punctuator (p : Punctuator)
  | operator (o : Operator) (withEqual : Bool)
  | identifier
  | string
  | number
  | keyword (k : Keyword)
deriving DecidableEq, Repr

namespace Kind

def all : List Kind :=
  Punctuator.all.map punctuator ++
    Operator.all.flatMap (fun o => [operator o false, operator o true]) ++
    [identifier, string, number] ++ Keyword.all.map keyword

def name : Kind → Text
  | punctuator p => p.name
  | operator o withEqual => o.name ++ if withEqual then "Equal".toList else []
  | identifier => "Identifier".toList
  | string => "String".toList
  | number => "Number".toList
  | keyword k => k.name

def ofName? (t : Text) : Option Kind := all.find? fun k => k.name = t

def ofWord (t : Text) : Kind := ((Keyword.ofSpelling? t).map keyword).getD identifier

def isKeyword : Kind → Bool
  | keyword _ => true
  | _ => false

theorem mem_all (k : Kind) : k ∈ all := by
  cases k with
  | punctuator p => cases p <;> decide
  | operator o withEqual => cases o <;> cases withEqual <;> decide
  | keyword k => cases k <;> decide
  | _ => decide

theorem ofName?_name (k : Kind) : ofName? k.name = some k := by
  cases k with
  | punctuator p => cases p <;> decide
  | operator o withEqual => cases o <;> cases withEqual <;> decide
  | keyword k => cases k <;> decide
  | _ => decide

end Kind
end LoxLexer
