import LoxLexer.Numeric.Decimal
import Mathlib.Data.List.TakeWhile

namespace LoxLexer

theorem Text.not_mem_of_digits {t : Text} {c : Char} (h : c.isDigit = false)
    (digits : ∀ d ∈ t, d.isDigit = true) : c ∉ t :=
  fun member => Bool.false_ne_true (h.symm.trans (digits c member))

namespace Numeral

inductive Sign : Bool → Text → Prop
  | minus : Sign true ['-']
  | plus : Sign false ['+']
  | unsigned : Sign false []

inductive Body : Text → Text → Text → Prop
  | whole {w : Text} (nonempty : w ≠ []) (digits : ∀ d ∈ w, d.isDigit = true) : Body w [] w
  | pointed {w f : Text} (nonempty : w ≠ []) (digits : ∀ d ∈ w, d.isDigit = true)
      (digits' : ∀ d ∈ f, d.isDigit = true) : Body w f (w ++ '.' :: f)
  | fraction {f : Text} (nonempty : f ≠ []) (digits : ∀ d ∈ f, d.isDigit = true) :
      Body [] f ('.' :: f)

def Writes (n : Numeral) (t : Text) : Prop :=
  ∃ sign body, Sign n.negative sign ∧ Body n.whole n.fraction body ∧ sign ++ body = t

variable {c : Char} {t whole fraction : Text} {negative : Bool} {n : Numeral}

theorem isDigit_ne {d : Char} (h : c.isDigit = true) (hd : d.isDigit = false) : c ≠ d := by
  rintro rfl
  exact Bool.false_ne_true (hd.symm.trans h)

theorem splitSign_of_ne (minus : c ≠ '-') (plus : c ≠ '+') :
    splitSign (c :: t) = (false, c :: t) := by
  unfold splitSign
  split
  · rename_i same
    exact absurd (List.cons.inj same).1 minus
  · rename_i same
    exact absurd (List.cons.inj same).1 plus
  · rfl

def sign (negative : Bool) : Text := if negative then ['-'] else []

theorem sign_sign (negative : Bool) : Sign negative (sign negative) := by
  cases negative
  · exact .unsigned
  · exact .minus

theorem exists_sign (t : Text) :
    ∃ sign, Sign (splitSign t).1 sign ∧ sign ++ (splitSign t).2 = t := by
  unfold splitSign
  split
  · exact ⟨_, .minus, rfl⟩
  · exact ⟨_, .plus, rfl⟩
  · exact ⟨_, .unsigned, rfl⟩

theorem Body.exists_cons {body : Text} (h : Body whole fraction body) :
    ∃ c t, body = c :: t ∧ (c.isDigit = true ∨ c = '.') := by
  cases h with
  | whole nonempty digits =>
    obtain ⟨c, t, rfl⟩ := List.exists_cons_of_ne_nil nonempty
    exact ⟨c, t, rfl, .inl (digits c List.mem_cons_self)⟩
  | pointed nonempty digits =>
    obtain ⟨c, t, rfl⟩ := List.exists_cons_of_ne_nil nonempty
    exact ⟨c, _, rfl, .inl (digits c List.mem_cons_self)⟩
  | fraction => exact ⟨_, _, rfl, .inr rfl⟩

theorem splitSign_append {sign body : Text} (hs : Sign negative sign)
    (hb : Body whole fraction body) : splitSign (sign ++ body) = (negative, body) := by
  cases hs with
  | minus => rfl
  | plus => rfl
  | unsigned =>
    obtain ⟨c, t, rfl, digit | rfl⟩ := hb.exists_cons
    · exact splitSign_of_ne (isDigit_ne digit rfl) (isDigit_ne digit rfl)
    · rfl

theorem takeWhile_append_point (digits : ∀ d ∈ whole, d.isDigit = true) (fraction : Text) :
    (whole ++ '.' :: fraction).takeWhile Char.isDigit = whole ∧
      (whole ++ '.' :: fraction).dropWhile Char.isDigit = '.' :: fraction := by
  rw [List.takeWhile_append_of_pos digits, List.dropWhile_append_of_pos digits,
    List.takeWhile_cons_of_neg (by decide), List.append_nil]
  exact ⟨rfl, rfl⟩

theorem parse?_append {sign body : Text} (hs : Sign negative sign)
    (hb : Body whole fraction body) : parse? (sign ++ body) = some ⟨negative, whole, fraction⟩ := by
  rw [parse?, splitSign_append hs hb]
  dsimp only
  cases hb with
  | whole nonempty digits =>
    rw [List.dropWhile_eq_nil_iff.2 digits, List.takeWhile_eq_self_iff.2 digits]
    exact if_neg nonempty
  | pointed nonempty digits digits' =>
    obtain ⟨before, behind⟩ := takeWhile_append_point digits fraction
    rw [before, behind]
    exact if_pos ⟨List.all_eq_true.2 digits', by simp [nonempty]⟩
  | fraction nonempty digits => exact if_pos ⟨List.all_eq_true.2 digits, nonempty⟩

theorem writes_of_parse? (h : parse? t = some n) : n.Writes t := by
  obtain ⟨sign, hs, split⟩ := exists_sign t
  have digits : ∀ d ∈ (splitSign t).2.takeWhile Char.isDigit, d.isDigit = true :=
    fun _ => List.mem_takeWhile_imp
  have parts := List.takeWhile_append_dropWhile (p := Char.isDigit) (l := (splitSign t).2)
  rw [parse?] at h
  dsimp only at h
  generalize (splitSign t).2.takeWhile Char.isDigit = whole at digits parts h
  generalize (splitSign t).2.dropWhile Char.isDigit = rest at parts h
  rw [← parts] at split
  split at h
  · split at h
    · cases h
    · rename_i nonempty
      cases h
      exact ⟨sign, whole ++ [], hs, by simpa using Body.whole nonempty digits, split⟩
  · rename_i fraction
    split at h
    · rename_i sound
      cases h
      refine ⟨sign, whole ++ '.' :: fraction, hs, ?_, split⟩
      rcases eq_or_ne whole [] with rfl | nonempty
      · exact .fraction sound.2 (List.all_eq_true.1 sound.1)
      · exact .pointed nonempty digits (List.all_eq_true.1 sound.1)
    · cases h
  · cases h

theorem parse?_eq_some_iff : parse? t = some n ↔ n.Writes t := by
  refine ⟨writes_of_parse?, ?_⟩
  rintro ⟨sign, body, hs, hb, rfl⟩
  exact parse?_append hs hb

theorem parse?_whole (negative : Bool) (h : whole ≠ []) (digits : ∀ d ∈ whole, d.isDigit = true) :
    parse? (sign negative ++ whole) = some ⟨negative, whole, []⟩ :=
  parse?_append (sign_sign negative) (.whole h digits)

theorem parse?_fraction (negative : Bool) (h : whole ≠ []) (digits : ∀ d ∈ whole, d.isDigit = true)
    (digits' : ∀ d ∈ fraction, d.isDigit = true) :
    parse? (sign negative ++ (whole ++ '.' :: fraction)) = some ⟨negative, whole, fraction⟩ :=
  parse?_append (sign_sign negative) (.pointed h digits digits')

theorem Writes.exists_cons (h : n.Writes t) :
    ∃ c u, t = c :: u ∧ (c.isDigit = true ∨ c ∈ ['-', '+', '.']) := by
  obtain ⟨sign, body, hs, hb, rfl⟩ := h
  generalize n.negative = negative at hs
  cases hs with
  | minus => exact ⟨_, _, rfl, .inr (by decide)⟩
  | plus => exact ⟨_, _, rfl, .inr (by decide)⟩
  | unsigned =>
    obtain ⟨c, u, rfl, digit | rfl⟩ := hb.exists_cons
    · exact ⟨c, u, rfl, .inl digit⟩
    · exact ⟨_, _, rfl, .inr (by decide)⟩

theorem Body.not_mem {body : Text} (h : Body whole fraction body) (digit : c.isDigit = false)
    (point : c ≠ '.') : c ∉ body := by
  cases h with
  | whole _ digits => exact Text.not_mem_of_digits digit digits
  | pointed _ digits digits' =>
    simp [Text.not_mem_of_digits digit digits, Text.not_mem_of_digits digit digits', point]
  | fraction _ digits => simp [Text.not_mem_of_digits digit digits, point]

theorem Writes.not_mem (h : n.Writes t) (digit : c.isDigit = false) (symbol : c ∉ ['-', '+', '.']) :
    c ∉ t := by
  obtain ⟨sign, body, hs, hb, rfl⟩ := h
  have := hb.not_mem digit (by simp_all)
  generalize n.negative = negative at hs
  cases hs <;> simp_all

theorem parse?_eq_none (digit : c.isDigit = false) (minus : c ≠ '-') (plus : c ≠ '+')
    (point : c ≠ '.') : parse? (c :: t) = none := by
  refine Option.eq_none_iff_forall_ne_some.2 fun n read => ?_
  obtain ⟨d, u, same, digit' | symbol⟩ := (parse?_eq_some_iff.1 read).exists_cons
  · obtain ⟨rfl, -⟩ := List.cons.inj same
    exact Bool.false_ne_true (digit.symm.trans digit')
  · obtain ⟨rfl, -⟩ := List.cons.inj same
    simp_all

end Numeral
end LoxLexer
