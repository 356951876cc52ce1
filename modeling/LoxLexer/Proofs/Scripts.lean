import LoxLexer.Console.FileTree
import LoxLexer.Proofs.Decoding
import LoxLexer.Proofs.Listings

namespace LoxLexer

theorem Text.oneLine_digitChar : ∀ d < 16, Text.OneLine [Nat.digitChar d] := by decide

theorem Text.oneLine_toDigits (n : Nat) : Text.OneLine (Nat.toDigits 16 n) := by
  induction n using Nat.strongRecOn with
  | _ n ih =>
    rw [Nat.toDigits_eq_if (by decide)]
    split
    · exact oneLine_digitChar n (by assumption)
    · exact oneLine_append.2 ⟨ih (n / 16) (by omega), oneLine_digitChar _ (by omega)⟩

theorem Text.oneLine_hex (width n : Nat) : (hex width n).OneLine := by
  refine oneLine_append.2 ⟨?_, oneLine_toDigits n⟩
  refine ⟨?_, ?_, ?_⟩ <;> intro member <;> cases List.eq_of_mem_replicate member

theorem Utf8.Cause.oneLine_message (cause : Cause) : cause.message.OneLine := by
  cases cause <;> decide

theorem Utf8.Fault.oneLine_message (fault : Fault) : fault.message.OneLine := by
  unfold message
  refine Text.oneLine_append.2 ⟨Text.oneLine_append.2 ⟨Text.oneLine_append.2 ⟨by decide, ?_⟩,
    by decide⟩, fault.cause.oneLine_message⟩
  split
  · simp only [Text.oneLine_append, Text.oneLine_hex, Text.oneLine_ofNat]
    decide
  · have dash {t : Text} (h : t.OneLine) : Text.OneLine ('-' :: t) :=
      Text.oneLine_cons.2 ⟨by decide, h⟩
    simp only [Text.oneLine_append, dash (Text.oneLine_ofNat _), Text.oneLine_ofNat]
    decide

namespace Command

/-- The arguments name one script and ask for nothing but its listing, and the script is a file that
can be read. -/
structure Opens (files : Files) (args : List Text) (verbose : Bool) (script : Text)
    (bytes : Bytes) : Prop where
  arguments : ∃ prompt, Settings.initial.parse args = .ok ⟨[script], prompt, verbose, none⟩
  regular : objection? files script = none
  readable : files.read (Path.normalize script) = .ok bytes

section

variable {files : Files} {args : List Text} {verbose : Bool} {script : Text} {bytes : Bytes}
  {t : Text} {tokens : List Token} {e : ScanError} {fault : Utf8.Fault} (input : Bytes)

theorem Opens.run_eq (opens : Opens files args verbose script bytes) :
    run files input args = runScript files verbose script := by
  obtain ⟨prompt, parsed⟩ := opens.arguments
  have none : [script].findSome? (objection? files) = none := by
    rw [List.findSome?_cons, opens.regular]
    rfl
  simp only [run, parsed, runSettings, none]

theorem Opens.stdout_run (opens : Opens files args verbose script (Utf8.encode t)) :
    (run files input args).output.stdout = listed t.withLineFeeds := by
  rw [opens.run_eq, runScript_readable verbose opens.readable, runSource_eq, answer_eq]
  cases verbose <;> rfl

theorem Opens.run_encode (opens : Opens files args false script (Utf8.encode t)) :
    run files input args = runSource false t.withLineFeeds := by
  rw [opens.run_eq, runScript_readable false opens.readable]
  rfl

theorem Opens.run_of_ok (opens : Opens files args false script (Utf8.encode t))
    (h : scan t.withLineFeeds = .ok tokens) :
    run files input args = .exit .success (.out (tokens.flatMap fun t => echoLine t.render)) := by
  rw [opens.run_encode, runSource_eq, answer_eq, h, listed_of_ok h, reported_of_ok h]
  rfl

theorem Opens.run_of_error (opens : Opens files args false script (Utf8.encode t))
    (h : scan t.withLineFeeds = .error e) :
    run files input args = .exit .badData (.err (echoLine ("Error: ".toList ++ e.message))) := by
  rw [opens.run_encode, runSource_eq, answer_eq, h, listed_of_error h, reported_of_error h]
  rfl

theorem Opens.run_undecodable (opens : Opens files args false script bytes)
    (h : Utf8.decode bytes = .error fault) :
    run files input args = .exit .badData (.err (echoLine ("Error: ".toList ++ fault.message))) := by
  have read : readScript files (Path.normalize script) = .error (.undecodable fault) := by
    simp only [readScript, opens.readable, h]
  rw [opens.run_eq, runScript, read]
  rfl

/-- A script is printed whole or not at all. Its tokens are listed if its bytes are those of a text
that scans. Else one line is about the error of the scan, or about the bytes if they are those of no
text. -/
theorem run_script (opens : Opens files args false script bytes) :
    (∀ t tokens, bytes = Utf8.encode t → scan t.withLineFeeds = .ok tokens →
      (run files input args).number? = some 0 ∧
      (run files input args).output = ⟨tokens.flatMap fun t => t.render.stripAnsi ++ ['\n'], []⟩) ∧
    (∀ t e, bytes = Utf8.encode t → scan t.withLineFeeds = .error e →
      (run files input args).number? = some 65 ∧
      (run files input args).output =
        ⟨[], Text.stripAnsi ("Error: ".toList ++ e.message) ++ ['\n']⟩ ∧
      Text.IsLine (run files input args).output.stderr) ∧
    ((∀ t, bytes ≠ Utf8.encode t) → ∃ fault, Utf8.decode bytes = .error fault ∧
      Utf8.Breaks bytes fault ∧
      (run files input args).number? = some 65 ∧
      (run files input args).output =
        ⟨[], Text.stripAnsi ("Error: ".toList ++ fault.message) ++ ['\n']⟩ ∧
      Text.IsLine (run files input args).output.stderr) := by
  refine ⟨?_, ?_, ?_⟩
  · rintro t tokens rfl scans
    rw [opens.run_of_ok input scans]
    exact ⟨rfl, rfl⟩
  · rintro t e rfl fails
    rw [opens.run_of_error input fails]
    exact ⟨rfl, rfl, isLine_report fails⟩
  · intro undecodable
    obtain ⟨fault, failed, breaks⟩ := Utf8.exists_fault_of_forall_ne undecodable
    have oneLine : Text.OneLine ("Error: ".toList ++ fault.message) :=
      Text.oneLine_append.2 ⟨by decide, fault.oneLine_message⟩
    rw [opens.run_undecodable input failed]
    exact ⟨fault, failed, breaks, rfl, rfl, oneLine.isLine_echoLine⟩

end

theorem run_script_three :
    let torn : Bytes := Utf8.encode "@".toList ++ [0xe2, 0x82]
    let files := (FileTree.ofList
      [("ok".toList, some (Utf8.encode "x\r\n".toList)),
        ("bad".toList, some (Utf8.encode "x\r@".toList)), ("torn".toList, some torn)]).files
    let x : Token := ⟨.identifier, ['x'], none, ⟨0, 1⟩⟩
    let unexpected : ScanError := ⟨⟨1, 0⟩, ['@'], .unexpectedCharacter⟩
    let fault : Utf8.Fault := ⟨1, [0xe2, 0x82], .unexpectedEnd⟩
    (run files [] ["ok".toList]).output = ⟨[x].flatMap fun t => echoLine t.render, []⟩ ∧
      (run files [] ["bad".toList]).output =
        ⟨[], echoLine ("Error: ".toList ++ unexpected.message)⟩ ∧
      Utf8.Breaks torn fault ∧
      (run files [] ["torn".toList]).output =
        ⟨[], echoLine ("Error: ".toList ++ fault.message)⟩ := by
  intro torn files x unexpected fault
  have ok : Opens files ["ok".toList] false "ok".toList (Utf8.encode "x\r\n".toList) :=
    ⟨⟨"> ".toList, by decide +kernel⟩, by decide +kernel, by decide +kernel⟩
  have bad : Opens files ["bad".toList] false "bad".toList (Utf8.encode "x\r@".toList) :=
    ⟨⟨"> ".toList, by decide +kernel⟩, by decide +kernel, by decide +kernel⟩
  have broken : Opens files ["torn".toList] false "torn".toList torn :=
    ⟨⟨"> ".toList, by decide +kernel⟩, by decide +kernel, by decide +kernel⟩
  have failed : Utf8.decode torn = .error fault := by decide +kernel
  have undecodable : ∀ t, torn ≠ Utf8.encode t := by
    intro t isText
    cases failed.symm.trans (Utf8.decode_eq_ok_iff.2 isText)
  obtain ⟨fault', failed', breaks, -, printed, -⟩ := (run_script [] broken).2.2 undecodable
  cases failed.symm.trans failed'
  exact ⟨((run_script [] ok).1 _ [x] rfl (by decide +kernel)).2,
    ((run_script [] bad).2.1 _ unexpected rfl (by decide +kernel)).2.1, breaks, printed⟩

end Command
end LoxLexer
