import LoxLexer.Text.Basic

namespace LoxLexer.Text

def escape : Char → Text
  | '\\' => ['\\', '\\']
  | '"' => ['\\', '"']
  | '\n' => ['\\', 'n']
  | '\r' => ['\\', 'r']
  | '\t' => ['\\', 't']
  | c => [c]

def quoted (t : Text) : Text := '"' :: t.flatMap escape ++ ['"']

theorem escape_eq_self {c : Char} (h : c ∉ ['\\', '"', '\n', '\r', '\t']) : escape c = [c] := by
  unfold escape
  split <;> simp_all

end LoxLexer.Text
