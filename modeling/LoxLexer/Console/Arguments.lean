import LoxLexer.Text.Similar
import LoxLexer.Text.Visible

namespace LoxLexer

inductive UsageError
  | noSuchOption (name : Text) (similar : List Text)
  | missingValue (name : Text)
  | unexpectedValue (name : Text)
  | isDirectory (path : Text)
  | notReadable (path : Text)
deriving DecidableEq, Repr

namespace UsageError

def suggestion : List Text → Text
  | [] => []
  | [name] => " Did you mean ".toList ++ name ++ ['?']
  | names => " (Possible options: ".toList ++ List.intercalate ", ".toList names ++ [')']

def message : UsageError → Text
  | noSuchOption name similar => "No such option: ".toList ++ name ++ suggestion similar
  | missingValue name => "Option ".toList ++ name.visible ++ " requires an argument.".toList
  | unexpectedValue name => "Option ".toList ++ name.visible ++ " does not take a value.".toList
  | isDirectory path =>
    "Invalid value for '[SCRIPTS]...': File ".toList ++ path.visible ++ " is a directory.".toList
  | notReadable path =>
    "Invalid value for '[SCRIPTS]...': File ".toList ++ path.visible ++ " is not readable.".toList

end UsageError

inductive Notice
  | version
  | help
deriving DecidableEq, Repr

structure Settings where
  scripts : List Text
  prompt : Text
  verbose : Bool
  notice? : Option Notice
deriving DecidableEq, Repr

inductive Switch
  | verbose
  | notice (n : Notice)
deriving DecidableEq, Repr

namespace Settings

def initial : Settings := ⟨[], "> ".toList, false, none⟩

def addScripts (s : Settings) (scripts : List Text) : Settings :=
  { s with scripts := s.scripts ++ scripts }

def turnOn (s : Settings) : Switch → Settings
  | .verbose => { s with verbose := true }
  | .notice n => { s with notice? := s.notice? <|> some n }

end Settings

inductive Argument
  | script (path : Text)
  | endOfOptions
  | long (name : Text) (value? : Option Text)
  | short (letters : Text)
deriving DecidableEq, Repr

def Argument.ofText : Text → Argument
  | ['-', '-'] => .endOfOptions
  | '-' :: '-' :: t =>
    let name := '-' :: '-' :: t.takeWhile (· ≠ '=')
    match t.dropWhile (· ≠ '=') with
    | [] => .long name none
    | _ :: value => .long name (some value)
  | '-' :: c :: t => .short (c :: t)
  | t => .script t

inductive LongOption
  | prompt
  | switch (s : Switch)
deriving DecidableEq, Repr

namespace LongOption

def table : List (Text × LongOption) :=
  [("--help".toList, .switch (.notice .help)), ("--prompt".toList, .prompt),
    ("--verbose".toList, .switch .verbose), ("--version".toList, .switch (.notice .version))]

def ofName? (name : Text) : Option LongOption := table.lookup name

end LongOption

namespace Settings

def parse (s : Settings) : List Text → Except UsageError Settings
  | [] => .ok s
  | arg :: args =>
    match Argument.ofText arg with
    | .script path => parse (s.addScripts [path]) args
    | .endOfOptions => .ok (s.addScripts args)
    | .short letters =>
      match letters.find? (· ≠ 'v') with
      | some c => .error (.noSuchOption ['-', c] [])
      | none => parse (s.turnOn .verbose) args
    | .long name value? =>
      match LongOption.ofName? name, value?, args with
      | none, _, _ => .error (.noSuchOption name (name.similar (LongOption.table.map Prod.fst)))
      | some (.switch _), some _, _ => .error (.unexpectedValue name)
      | some (.switch switch), none, args => parse (s.turnOn switch) args
      | some .prompt, some value, args => parse { s with prompt := value } args
      | some .prompt, none, value :: args => parse { s with prompt := value } args
      | some .prompt, none, [] => .error (.missingValue name)

end Settings
end LoxLexer
