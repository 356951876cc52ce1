import LoxLexer.Text.Basic

namespace LoxLexer.Text

def commonLength : Text → Text → Nat
  | c :: t, d :: u => if c = d then commonLength t u + 1 else 0
  | _, _ => 0

def longestCommon? (t u : Text) : Option (Nat × Nat) :=
  let places := (List.range t.length).flatMap fun i => (List.range u.length).map fun j => (i, j)
  places.maxOn? fun place => commonLength (t.drop place.1) (u.drop place.2)

theorem longestCommon?_lt {t u : Text} {i j : Nat} (h : longestCommon? t u = some (i, j)) :
    i < t.length := by
  have place := List.maxOn?_mem h
  simp only [List.mem_flatMap, List.mem_map, List.mem_range, Prod.mk.injEq] at place
  obtain ⟨i', inside, j', _, rfl, _⟩ := place
  exact inside

/-- How much two texts share: the longest text that is in both, then what they share before it and
what they share behind it. -/
def likeness (t u : Text) : Nat :=
  match _h : longestCommon? t u with
  | none => 0
  | some (i, j) =>
    let n := commonLength (t.drop i) (u.drop j)
    if n = 0 then 0
    else likeness (t.take i) (u.take j) + n + likeness (t.drop (i + n)) (u.drop (j + n))
termination_by t.length
decreasing_by
  all_goals
    have := longestCommon?_lt _h
    simp only [List.length_take, List.length_drop]
    omega

def isSimilar (t word : Text) : Bool :=
  3 * (t.length + word.length) ≤ 10 * t.likeness word

def isCloser (word t u : Text) : Bool :=
  let matched := t.likeness word * (u.length + word.length)
  let matched' := u.likeness word * (t.length + word.length)
  matched' < matched || matched' = matched && u < t

def similar (word : Text) (names : List Text) : List Text :=
  let similar := names.filter (isSimilar · word)
  similar.filter fun t => similar.countP (isCloser word · t) < 3

end LoxLexer.Text
