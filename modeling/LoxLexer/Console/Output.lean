import LoxLexer.Text.Ansi

namespace LoxLexer

def echo (t : Text) : Text := t.stripAnsi

def echoLine (t : Text) : Text := echo t ++ ['\n']

-- The log is written as it is.
def logLine (t : Text) : Text := "DEBUG: ".toList ++ t ++ ['\n']

structure Output where
  stdout : Text
  stderr : Text
deriving DecidableEq, Repr

namespace Output

def empty : Output := ⟨[], []⟩

def append (o p : Output) : Output := ⟨o.stdout ++ p.stdout, o.stderr ++ p.stderr⟩

instance : Append Output := ⟨append⟩

@[simp] theorem stdout_append (o p : Output) : (o ++ p).stdout = o.stdout ++ p.stdout := rfl

@[simp] theorem stderr_append (o p : Output) : (o ++ p).stderr = o.stderr ++ p.stderr := rfl

def join (os : List Output) : Output := ⟨os.flatMap stdout, os.flatMap stderr⟩

def out (t : Text) : Output := ⟨t, []⟩

def err (t : Text) : Output := ⟨[], t⟩

def log (verbose : Bool) (t : Text) : Output := if verbose then err (logLine t) else empty

theorem log_append (verbose : Bool) (t : Text) (o : Output) :
    log verbose t ++ o = ⟨o.stdout, (if verbose then logLine t else []) ++ o.stderr⟩ := by
  cases verbose <;> rfl

end Output
end LoxLexer
