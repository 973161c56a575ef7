import ScriptScan.Proofs.Session

/-!
# A run with a script

A run with a script reads the whole file before it scans a character of it. So there are two ways
for it to go, and no mixture of them.

* `runScript_of_unreadable`: there is no text at the path, and all the run leaves is one error
  that says why.
* `runScript_encode`: the file is the UTF-8 form of a text, and the run leaves the scan of this
  text: its tokens on standard output, and its reports in the log.
* `run_script` puts them together with a run whose arguments are rejected, which reads nothing.
-/

namespace ScriptScan
namespace Program

/-! ## Files without a text -/

/-- There is no text at a path, and the reason for it. The bytes of a file are no text when they
are the UTF-8 form of none. -/
inductive Unreadable : Opened → String → Prop
  | missing : Unreadable .missing "No such file or directory (os error 2)"
  | directory : Unreadable .directory "Is a directory (os error 21)"
  | refused {reason : String} : Unreadable (.refused reason) reason
  | noText {bytes : List UInt8} :
      (∀ text : String, encode text.toList ≠ bytes) →
      Unreadable (.content bytes) "stream did not contain valid UTF-8"

theorem textOf_of_unreadable {opened : Opened} {reason : String}
    (unreadable : Unreadable opened reason) : textOf opened = .error reason := by
  cases unreadable with
  | missing => rfl
  | directory => rfl
  | refused => rfl
  | @noText bytes noText =>
    unfold textOf
    cases decoded : decode? bytes with
    | none => simp only [decoded]; rfl
    | some text => exact absurd (eq_encode_of_decode? decoded).symm (noText text)

/-- A path has a text, or there is a reason why it has none. -/
theorem readable_or_unreadable (opened : Opened) :
    (∃ text : String, opened = .content (encode text.toList)) ∨
      ∃ reason, Unreadable opened reason := by
  cases opened with
  | missing => exact .inr ⟨_, .missing⟩
  | directory => exact .inr ⟨_, .directory⟩
  | refused reason => exact .inr ⟨reason, .refused⟩
  | content bytes =>
    cases decoded : decode? bytes with
    | some text => exact .inl ⟨text, congrArg Opened.content (eq_encode_of_decode? decoded)⟩
    | none =>
      refine .inr ⟨_, .noText fun text same => ?_⟩
      rw [← same, decode?_encode_toList] at decoded
      cases decoded

/-! ## The two ways -/

/-- Without a text the run leaves one record, and nothing of a scan. -/
theorem runScript_of_unreadable {opened : Opened} {reason : String}
    (unreadable : Unreadable opened reason) (quiet : Bool) (path : String) :
    runScript quiet path opened
      = ⟨"", [⟨.error, "Failed to read file '" ++ path ++ "': " ++ reason⟩], noInput⟩ := by
  unfold runScript
  rw [textOf_of_unreadable unreadable]

theorem hadError_scan (source : String) :
    (Diagnostics.empty.scan source).2.hadError = !(Scan.calls source).isEmpty := by
  rw [← List.map_id (Scan.calls source), ← map_entries_scan source id, Diagnostics.hadError,
    List.isEmpty_map]

theorem runScript_encode (text path : String) :
    (runScript false path (.content (encode text.toList))).output
        = String.join ((Scan.ofSource text).tokens.map fun t => t.display ++ "\n") ∧
      ((runScript false path (.content (encode text.toList))).report
          (LogFilter.ofSetting none)).errors
        = (Scan.calls text).map (fun call =>
            "[ERROR treko] [line " ++ toString call.1.toNat ++ "] Error: " ++ call.2) ∧
      (runScript false path (.content (encode text.toList))).code
        = if Scan.calls text = [] then 0 else 65 := by
  have noTrace : (LogFilter.ofSetting none).allows .debug = false := by decide +kernel
  rw [runScript_eq (decode?_encode_toList text)]
  refine ⟨rfl, ?_, ?_⟩
  · rw [← logged_scan]
    show ((_ :: scanRecords _ _).filter _).map Record.line = _
    rw [List.filter_cons_of_neg (by simp [noTrace])]
  · show (if (Diagnostics.empty.scan text).2.hadError = true then dataError else success) = _
    rw [hadError_scan]
    cases Scan.calls text <;> rfl

/-! ## A run -/

theorem newline_not_mem_entry {source : String} {call : UInt32 × String}
    (told : call ∈ Scan.calls source) :
    '\n' ∉ ("[ERROR treko] [line " ++ toString call.1.toNat ++ "] Error: " ++ call.2).toList := by
  simpa [Diagnostic.display, String.toList_append] using newline_not_mem_display told

/-- A run with a script, for all that can be found at its path. When that is a text, the run shows
every token of the scan, the end of the source included, and writes one line for each report,
however many there are; its code tells whether there is one. When it is no text, nothing is shown,
and one error with the reason is all that is written. A run whose arguments are rejected shows
nothing either, and neither files nor input have a part in it. -/
theorem run_script (around : Surroundings) (args : List String) :
    (∀ values path, Program.schema.read args = .accepted values →
      (Settings.ofValues values).script = some path → (Settings.ofValues values).quiet = false →
      (Settings.ofValues values).logFilter = none →
      ((∃ text : String, around.openPath path = .content (encode text.toList)) ∨
        ∃ reason, Unreadable (around.openPath path) reason) ∧
      (∀ text : String, around.openPath path = .content (encode text.toList) →
        (run around args).output
          = String.join ((Scan.ofSource text).tokens.map fun t => t.display ++ "\n") ∧
        (∃ line, (Scan.ofSource text).tokens.getLast? = some (Token.eof line)) ∧
        (run around args).errors
          = (Scan.calls text).map (fun call =>
              "[ERROR treko] [line " ++ toString call.1.toNat ++ "] Error: " ++ call.2) ∧
        (∀ entry ∈ (run around args).errors, '\n' ∉ entry.toList) ∧
        (run around args).code = if Scan.calls text = [] then 0 else 65) ∧
      (∀ reason, Unreadable (around.openPath path) reason →
        run around args
          = ⟨"", [Record.line ⟨.error, "Failed to read file '" ++ path ++ "': " ++ reason⟩],
              66⟩)) ∧
    (∀ cause, Program.schema.read args = .rejected cause →
      (run around args).output = "" ∧ (run around args).code = 64 ∧
      ∀ other, run other args = run around args) := by
  refine ⟨fun values path accepted script shows noFilter => ?_, fun cause rejected => ?_⟩
  · have whole : run around args
        = (runScript false path (around.openPath path)).report (LogFilter.ofSetting none) := by
      rw [run_of_accepted accepted, activity, script, shows, noFilter]
    rw [whole]
    refine ⟨readable_or_unreadable _, fun text isText => ?_, fun reason unreadable => ?_⟩
    · obtain ⟨output, errors, code⟩ := runScript_encode text path
      rw [isText]
      refine ⟨output, ⟨_, List.getLast?_concat⟩, errors, ?_, code⟩
      intro entry member
      rw [errors] at member
      obtain ⟨call, told, rfl⟩ := List.mem_map.mp member
      exact newline_not_mem_entry told
    · have allowed : (LogFilter.ofSetting none).allows .error = true := by decide +kernel
      rw [runScript_of_unreadable unreadable]
      simp [Activity.report, allowed, noInput]
  · have whole : ∀ found, run found args
        = ⟨"", ["[ERROR] " ++ cause.message, Program.schema.usage], usageError⟩ := by
      intro found
      unfold run
      rw [rejected]
    exact ⟨by rw [whole], by rw [whole]; rfl, fun other => by rw [whole, whole]⟩

/-- A file for every path: behind a stray character and an open string there may be a byte that
begins no character. -/
def openString (broken : Bool) : Surroundings :=
  ⟨fun _ => .content ([64, 10, 43, 34] ++ if broken then [255] else []), []⟩

/-- The errors do not cut the tokens short, but the last byte takes all of them away. -/
theorem run_script_openString :
    (Program.schema.read ["a"] = .accepted [some (.string "a"), some (.bool false), none] ∧
      (openString false).openPath "a" = .content (encode "@\n+\"".toList) ∧
      Unreadable ((openString true).openPath "a") "stream did not contain valid UTF-8" ∧
      Program.schema.read ["a", "--bogus"] = .rejected (.notAnOption "--bogus")) ∧
    run (openString false) ["a"]
      = ⟨"Plus + nil\nEof  nil\n",
          ["[ERROR treko] [line 1] Error: Unexpected character '@'.",
            "[ERROR treko] [line 2] Error: Unterminated string."], 65⟩ ∧
    run (openString true) ["a"]
      = ⟨"", ["[ERROR treko] Failed to read file 'a': stream did not contain valid UTF-8"], 66⟩ ∧
    (run (openString true) ["a", "--bogus"]).code = 64 := by
  have accepted : Program.schema.read ["a"]
      = .accepted [some (.string "a"), some (.bool false), none] := by decide +kernel
  have rejected : Program.schema.read ["a", "--bogus"] = .rejected (.notAnOption "--bogus") := by
    decide +kernel
  have isText : (openString false).openPath "a" = .content (encode "@\n+\"".toList) := by
    decide +kernel
  have unreadable : Unreadable ((openString true).openPath "a")
      "stream did not contain valid UTF-8" := by
    refine .noText fun text same => ?_
    have noText : decode? [64, 10, 43, 34, 255] = none := by decide +kernel
    have decoded := decode?_encode_toList text
    rw [same] at decoded
    cases noText.symm.trans decoded
  obtain ⟨-, scanned, -⟩ := (run_script (openString false) ["a"]).1 _ "a" accepted rfl rfl rfl
  obtain ⟨output, -, errors, -, code⟩ := scanned _ isText
  obtain ⟨-, -, failed⟩ := (run_script (openString true) ["a"]).1 _ "a" accepted rfl rfl rfl
  obtain ⟨-, misuse, -⟩ := (run_script (openString true) ["a", "--bogus"]).2 _ rejected
  refine ⟨⟨accepted, isText, unreadable, rejected⟩, ?_, (failed _ unreadable).trans ?_, misuse⟩
  · rw [show run (openString false) ["a"] = ⟨_, _, _⟩ from rfl, Report.mk.injEq]
    exact ⟨output.trans (by decide +kernel), errors.trans (by decide +kernel),
      code.trans (by decide +kernel)⟩
  · decide +kernel

end Program
end ScriptScan
