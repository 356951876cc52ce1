import LoxLexer.Proofs.Conversations
import LoxLexer.Proofs.Decoding
import Mathlib.Data.Set.List

namespace LoxLexer

namespace Utf8

def IsLine (line : Bytes) : Prop := ∃ body, (10 : UInt8) ∉ body ∧ line = body ++ [10]

theorem feed_not_mem_encodeChar {c : Char} (h : c ≠ '\n') : 10 ∉ String.utf8EncodeChar c := by
  have differs : c.toNat ≠ 10 := fun same => h (Char.ext (UInt32.toNat_inj.1 same))
  have other {n : Nat} (small : n < 256) (above : n ≠ 10) : (10 : UInt8) ≠ UInt8.ofNat n := by
    intro same
    have := congrArg UInt8.toNat same
    rw [UInt8.toNat_ofNat_of_lt' small] at this
    exact above this.symm
  unfold String.utf8EncodeChar
  simp only [Char.toNat_val]
  split
  · simpa using other (n := c.toNat) (by omega) differs
  split
  · simp only [List.mem_cons, List.not_mem_nil, or_false, not_or]
    exact ⟨other (by omega) (by omega), other (by omega) (by omega)⟩
  split
  · simp only [List.mem_cons, List.not_mem_nil, or_false, not_or]
    exact ⟨other (by omega) (by omega), other (by omega) (by omega), other (by omega) (by omega)⟩
  · simp only [List.mem_cons, List.not_mem_nil, or_false, not_or]
    exact ⟨other (by omega) (by omega), other (by omega) (by omega), other (by omega) (by omega),
      other (by omega) (by omega)⟩

theorem encode_cons (c : Char) (t : Text) : encode (c :: t) = String.utf8EncodeChar c ++ encode t :=
  List.flatMap_cons

theorem encode_flatten (ts : List Text) : encode ts.flatten = (ts.map encode).flatten := by
  induction ts with
  | nil => rfl
  | cons t ts ih => rw [List.flatten_cons, encode_append, ih, List.map_cons, List.flatten_cons]

theorem exists_encode_of_feed {t : Text} {body rest : Bytes} (h : encode t = body ++ 10 :: rest) :
    ∃ u v, body ++ [10] = encode (u ++ ['\n']) ∧ rest = encode v := by
  induction t generalizing body with
  | nil => simp [encode] at h
  | cons c t ih =>
    rw [encode_cons] at h
    have later (body' : Bytes) (first : body = String.utf8EncodeChar c ++ body')
        (others : encode t = body' ++ 10 :: rest) :
        ∃ u v, body ++ [10] = encode (u ++ ['\n']) ∧ rest = encode v := by
      obtain ⟨u, v, line, behind⟩ := ih others
      refine ⟨c :: u, v, ?_, behind⟩
      rw [first, List.append_assoc, line, List.cons_append, encode_cons]
    rcases List.append_eq_append_iff.1 h with ⟨body', first, others⟩ | ⟨more, first, others⟩
    · exact later body' first others
    · cases more with
      | nil => exact later [] (by simpa using first.symm) others.symm
      | cons b more =>
        obtain ⟨rfl, others⟩ := List.cons.inj others
        have feed : c = '\n' := by
          by_contra other
          exact feed_not_mem_encodeChar other (by simp [first])
        subst feed
        have length := congrArg List.length first
        rw [List.length_append, List.length_cons] at length
        have one : (String.utf8EncodeChar '\n').length = 1 := rfl
        obtain rfl := List.eq_nil_of_length_eq_zero (l := body) (by omega)
        obtain rfl := List.eq_nil_of_length_eq_zero (l := more) (by omega)
        exact ⟨[], t, rfl, (List.cons.inj others).2⟩

theorem exists_encode_of_flatten {lines : List Bytes} {t : Text}
    (terminated : ∀ l ∈ lines, IsLine l) (h : lines.flatten = encode t) :
    ∀ l ∈ lines, ∃ u, l = encode (u ++ ['\n']) := by
  induction lines generalizing t with
  | nil => exact fun l hl => absurd hl List.not_mem_nil
  | cons l lines ih =>
    obtain ⟨body, -, rfl⟩ := terminated _ List.mem_cons_self
    rw [List.flatten_cons, List.append_assoc, List.singleton_append] at h
    obtain ⟨u, v, line, others⟩ := exists_encode_of_feed h.symm
    rintro l (_ | ⟨_, hl⟩)
    · exact ⟨u, line⟩
    · exact ih (fun l hl => terminated l (List.mem_cons_of_mem _ hl)) others l hl

theorem exists_feed_of_flatten {lines : List Bytes} (terminated : ∀ l ∈ lines, IsLine l)
    (some : lines ≠ []) : ∃ body, lines.flatten = body ++ [10] := by
  obtain ⟨init, last, rfl⟩ := List.eq_nil_or_concat lines |>.resolve_left some
  obtain ⟨body, -, rfl⟩ := terminated last (by simp)
  exact ⟨init.flatten ++ body, by simp⟩

theorem isLine_three : ∀ l ∈ [[0x31, 10], [0xff, 10], [0x32, 10]], IsLine l := by
  simp only [List.forall_mem_cons]
  exact ⟨⟨[0x31], by decide, rfl⟩, ⟨[0xff], by decide, rfl⟩, ⟨[0x32], by decide, rfl⟩, by simp⟩

theorem ne_encode_ff (t : Text) : [0xff, 10] ≠ encode t := by
  intro isText
  have failed : decode [0xff, 10] = .error ⟨0, [0xff], .invalidStart⟩ := by decide +kernel
  cases failed.symm.trans (decode_eq_ok_iff.2 isText)

end Utf8

namespace Text

theorem withLineFeeds_feed (u t : Text) :
    withLineFeeds (u ++ '\n' :: t) = withLineFeeds (u ++ ['\n']) ++ withLineFeeds t := by
  fun_induction withLineFeeds u with
  | case1 u ih => simp [withLineFeeds, ih]
  | case2 u other ih =>
    cases u with
    | nil => rfl
    | cons c u =>
      have differs : c ≠ '\n' := fun same => other u (same ▸ rfl)
      simpa [withLineFeeds, differs] using ih
  | case3 c u _ other ih => simp [withLineFeeds_other other, ih]
  | case4 => rfl

theorem exists_withLineFeeds_feed (u : Text) : ∃ v, withLineFeeds (u ++ ['\n']) = v ++ ['\n'] := by
  fun_induction withLineFeeds u with
  | case1 u ih =>
    obtain ⟨v, ih⟩ := ih
    exact ⟨'\n' :: v, by simp [withLineFeeds, ih]⟩
  | case2 u other ih =>
    obtain ⟨v, ih⟩ := ih
    cases u with
    | nil => exact ⟨[], rfl⟩
    | cons c u =>
      have differs : c ≠ '\n' := fun same => other u (same ▸ rfl)
      exact ⟨'\n' :: v, by simpa [withLineFeeds, differs] using ih⟩
  | case3 c u _ other ih =>
    obtain ⟨v, ih⟩ := ih
    exact ⟨c :: v, by simp [withLineFeeds_other other, ih]⟩
  | case4 => exact ⟨[], rfl⟩

theorem lines_withLineFeeds_flatten {ts : List Text} (terminated : ∀ t ∈ ts, ∃ u, t = u ++ ['\n']) :
    lines (withLineFeeds ts.flatten) = ts.flatMap fun t => t.withLineFeeds.lines := by
  induction ts with
  | nil => rfl
  | cons t ts ih =>
    obtain ⟨u, rfl⟩ := terminated _ List.mem_cons_self
    obtain ⟨v, line⟩ := exists_withLineFeeds_feed u
    rw [List.flatten_cons, List.append_assoc, List.singleton_append, withLineFeeds_feed, line,
      List.append_assoc, List.singleton_append, lines_feed, List.flatMap_cons, line,
      ih fun t ht => terminated t (List.mem_cons_of_mem _ ht)]

end Text

namespace Prompt

/-- What is printed for a line that is decoded on its own, from its prompt on. -/
def reply (prompt : Text) (line : Bytes) : Output :=
  match Utf8.decode line with
  | .error _ => .out (echo prompt) ++ apology
  | .ok t => ⟨t.withLineFeeds.lines.flatMap fun l => echo prompt ++ listed l,
      t.withLineFeeds.lines.flatMap reported⟩

def apart (prompt : Text) (lines : List Bytes) : Output :=
  ⟨lines.flatMap (fun l => (reply prompt l).stdout) ++ (echo prompt ++ ['\n']),
    lines.flatMap fun l => (reply prompt l).stderr⟩

theorem reply_encode (prompt t : Text) : reply prompt (Utf8.encode t) =
    ⟨t.withLineFeeds.lines.flatMap fun l => echo prompt ++ listed l,
      t.withLineFeeds.lines.flatMap reported⟩ := by
  rw [reply, Utf8.decode_encode]

theorem reply_of_error {line : Bytes} {fault : Utf8.Fault} (prompt : Text)
    (h : Utf8.decode line = .error fault) :
    reply prompt line = .out (echo prompt) ++ apology := by
  rw [reply, h]

theorem session_of_encode (prompt : Text) {ts : List Text}
    (terminated : ∀ t ∈ ts, ∃ u, t = u ++ ['\n']) :
    session prompt false (ts.map Utf8.encode).flatten =
      .exit .success (apart prompt (ts.map Utf8.encode)) := by
  rw [← Utf8.encode_flatten, session_encode, Text.lines_withLineFeeds_flatten terminated, apart]
  simp only [List.flatMap_assoc, List.flatMap_map, reply_encode]
  rfl

theorem session_lost (prompt : Text) (before after : List Bytes) {l : Bytes}
    (terminated : ∀ l' ∈ before ++ l :: after, Utf8.IsLine l') (h : ∀ t, l ≠ Utf8.encode t)
    (short : (before ++ l :: after).flatten.length ≤ blockSize) :
    session prompt false (before ++ l :: after).flatten = .exit .success
      ⟨echo prompt ++ (apology.stdout ++ (echo prompt ++ ['\n'])), []⟩ := by
  have undecodable : ∀ t, (before ++ l :: after).flatten ≠ Utf8.encode t := by
    intro t whole
    obtain ⟨u, line⟩ := Utf8.exists_encode_of_flatten terminated whole l (by simp)
    exact h _ line
  obtain ⟨body, split⟩ := Utf8.exists_feed_of_flatten terminated (by simp)
  rw [split] at undecodable short ⊢
  rw [session, Input.readings_of_undecodable (by simp) short (Utf8.decode?_eq_none undecodable)]
  refine congrArg (fun out => Outcome.exit .success (⟨out, []⟩ : Output)) ?_
  change (echo prompt ++ apology.stdout ++ []) ++ (echo prompt ++ ['\n']) = _
  rw [List.append_nil, List.append_assoc]

theorem apart_append (prompt : Text) {before after : List Bytes} {l : Bytes}
    (h : ∀ t, l ≠ Utf8.encode t) :
    apart prompt (before ++ l :: after) =
      ⟨before.flatMap (fun l => (reply prompt l).stdout) ++ (echo prompt ++ (apology.stdout ++
        (after.flatMap (fun l => (reply prompt l).stdout) ++ (echo prompt ++ ['\n'])))),
        (before ++ after).flatMap fun l => (reply prompt l).stderr⟩ := by
  obtain ⟨fault, failed, -⟩ := Utf8.exists_fault_of_forall_ne h
  rw [apart, List.flatMap_append, List.flatMap_append, List.flatMap_append, List.flatMap_cons,
    List.flatMap_cons, reply_of_error prompt failed]
  simp only [Output.stdout_append, Output.stderr_append, List.append_assoc]
  rfl

theorem lost_eq_apart_iff (prompt : Text) (before after : List Bytes) {l : Bytes}
    (h : ∀ t, l ≠ Utf8.encode t) :
    ⟨echo prompt ++ (apology.stdout ++ (echo prompt ++ ['\n'])), []⟩ =
      apart prompt (before ++ l :: after) ↔ ∀ l' ∈ before ++ after, reply prompt l' = .empty := by
  rw [apart_append prompt h, Output.mk.injEq]
  constructor
  · rintro ⟨out, err⟩ l' member
    have lengths := congrArg List.length out
    simp only [List.length_append] at lengths
    have silent : ∀ l' ∈ before ++ after, (reply prompt l').stdout = [] := by
      rw [← List.flatMap_eq_nil_iff, ← List.length_eq_zero_iff, List.flatMap_append,
        List.length_append]
      omega
    have quiet := List.flatMap_eq_nil_iff.1 err.symm
    exact congrArg₂ Output.mk (silent l' member) (quiet l' member)
  · intro nothing
    have silent : ∀ l' ∈ before ++ after, (reply prompt l').stdout = [] :=
      fun l' member => congrArg Output.stdout (nothing l' member)
    have quiet : ∀ l' ∈ before ++ after, (reply prompt l').stderr = [] :=
      fun l' member => congrArg Output.stderr (nothing l' member)
    rw [List.flatMap_eq_nil_iff.2 quiet,
      List.flatMap_eq_nil_iff.2 fun l' hl => silent l' (List.mem_append_left _ hl),
      List.flatMap_eq_nil_iff.2 fun l' hl => silent l' (List.mem_append_right _ hl)]
    exact ⟨rfl, rfl⟩

end Prompt

namespace Command

variable {args : List Text} {prompt : Text}

/-- A session answers the lines of its input one by one if all of them are UTF-8. If one is not, and
the input is short enough to be decoded at once, there is one apology for all lines and no other
answer. This differs from the answers one by one as soon as there is anything to print for another
line. -/
theorem run_lost (files : Files)
    (asks : Settings.initial.parse args = .ok ⟨[], prompt, false, none⟩)
    {lines : List Bytes} (terminated : ∀ l ∈ lines, Utf8.IsLine l) :
    ((∀ l ∈ lines, ∃ t, l = Utf8.encode t) →
      (run files lines.flatten args).output = Prompt.apart prompt lines) ∧
    ∀ before l after, lines = before ++ l :: after → (∀ t, l ≠ Utf8.encode t) →
      lines.flatten.length ≤ 8192 →
      (run files lines.flatten args).number? = some 0 ∧
      (run files lines.flatten args).output =
        ⟨prompt.stripAnsi ++ ("Sorry, i didn't catch that!\n".toList ++
          (prompt.stripAnsi ++ ['\n'])), []⟩ ∧
      ((run files lines.flatten args).output = Prompt.apart prompt lines ↔
        ∀ l' ∈ before ++ after, Prompt.reply prompt l' = .empty) := by
  rw [run_session _ asks]
  constructor
  · intro decodable
    have lineTexts : ∀ l ∈ lines, ∃ u, Utf8.encode (u ++ ['\n']) = l := by
      intro l hl
      obtain ⟨t, text⟩ := decodable l hl
      obtain ⟨body, -, rfl⟩ := terminated l hl
      obtain ⟨u, -, line, -⟩ := Utf8.exists_encode_of_feed text.symm
      exact ⟨u, line.symm⟩
    obtain ⟨us, rfl⟩ : lines ∈ Set.range (List.map fun u => Utf8.encode (u ++ ['\n'])) := by
      rw [Set.range_list_map]
      exact lineTexts
    have feeds : ∀ t ∈ us.map (· ++ ['\n']), ∃ u, t = u ++ ['\n'] := by simp
    have session := congrArg Outcome.output (Prompt.session_of_encode prompt feeds)
    rwa [List.map_map] at session
  · rintro before l after rfl undecodable short
    rw [Prompt.session_lost prompt before after terminated undecodable short]
    refine ⟨rfl, ?_, Prompt.lost_eq_apart_iff prompt before after undecodable⟩
    rw [← Prompt.stdout_apology]
    rfl

theorem run_lost_three :
    let files : Files := ⟨fun _ => false, fun _ => false, fun _ => .error .missing⟩
    let lines : List Bytes := [[0x31, 10], [0xff, 10], [0x32, 10]]
    (run files lines.flatten []).output = ⟨"> Sorry, i didn't catch that!\n> \n".toList, []⟩ ∧
      (run files lines.flatten []).output ≠ Prompt.apart "> ".toList lines := by
  intro files lines
  have asks : Settings.initial.parse [] = .ok ⟨[], "> ".toList, false, none⟩ := rfl
  obtain ⟨-, output, same⟩ := (run_lost files asks Utf8.isLine_three).2
    [[0x31, 10]] [0xff, 10] [[0x32, 10]] rfl Utf8.ne_encode_ff (by decide)
  refine ⟨output.trans (by decide +kernel), fun answered => ?_⟩
  have first := same.1 answered [0x31, 10] (by decide)
  exact absurd (congrArg Output.stdout first) (by decide +kernel)

theorem not_forall_run_eq_apart : ¬ ∀ (files : Files) (lines : List Bytes),
    (∀ l ∈ lines, Utf8.IsLine l) → lines.flatten.length ≤ 8192 →
    (run files lines.flatten []).output = Prompt.apart "> ".toList lines := by
  intro answered
  have asks : Settings.initial.parse [] = .ok ⟨[], "> ".toList, false, none⟩ := rfl
  have three := answered ⟨fun _ => false, fun _ => false, fun _ => .error .missing⟩ _
    Utf8.isLine_three (by decide)
  rw [run_session _ asks] at three
  have lost := congrArg Outcome.output (Prompt.session_lost "> ".toList [[0x31, 10]] [[0x32, 10]]
    Utf8.isLine_three Utf8.ne_encode_ff (by decide))
  have nothing := (Prompt.lost_eq_apart_iff "> ".toList [[0x31, 10]] [[0x32, 10]]
    Utf8.ne_encode_ff).1 (lost.symm.trans three)
  have first := nothing [0x31, 10] (by decide)
  exact absurd (congrArg Output.stdout first) (by decide +kernel)

end Command
end LoxLexer
