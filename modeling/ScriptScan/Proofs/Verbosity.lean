import ScriptScan.Proofs.Session

/-!
# Quiet runs and log filters

Two settings decide how much a run tells. A quiet run shows no tokens, and a log filter holds
records back. Neither has a part in anything else that a run does.

* `activity_of_alikeButQuiet`: a quiet run logs the same records and ends with the same code.
* `output_runPrompt_quiet`: it shows the marks of a prompt, and nothing of a script.
* `level_of_mem_records`: the records of a run are errors or trace what the run does, so there are
  three kinds of filters: those that write all of them, the errors only, or none.
* `errors_of_errorFilter`: an entry on standard error tells its level, so the entries that are
  written under a stricter filter can be told among those of a run that writes all records.
* `settings_only_hide` puts them together for two runs of the program.
-/

namespace ScriptScan
namespace Program

/-! ## Settings that differ in one place -/

/-- The settings differ in `quiet` at most. -/
def AlikeButQuiet (s t : Settings) : Prop := s.script = t.script ∧ s.logFilter = t.logFilter

/-- The settings differ in the log filter at most. -/
def AlikeButFilter (s t : Settings) : Prop := s.script = t.script ∧ s.quiet = t.quiet

/-! ## Quiet runs -/

theorem runScript_quiet (quiet : Bool) (path : String) (opened : Opened) :
    (runScript quiet path opened).records = (runScript false path opened).records ∧
      (runScript quiet path opened).code = (runScript false path opened).code := by
  unfold runScript
  split <;> exact ⟨rfl, rfl⟩

theorem runPrompt_quiet (quiet : Bool) (pieces : List (List UInt8)) :
    (runPrompt quiet .empty pieces).records = (runPrompt false .empty pieces).records ∧
      (runPrompt quiet .empty pieces).code = (runPrompt false .empty pieces).code := by
  rw [runPrompt_eq, runPrompt_eq]
  exact ⟨rfl, rfl⟩

/-- What is logged and how the run ends do not depend on the tokens being shown. -/
theorem activity_of_alikeButQuiet {s t : Settings} (alike : AlikeButQuiet s t)
    (around : Surroundings) :
    (activity around s).records = (activity around t).records ∧
      (activity around s).code = (activity around t).code := by
  obtain ⟨script, -⟩ := alike
  unfold activity
  rw [script]
  cases t.script with
  | some path =>
    obtain ⟨records, code⟩ := runScript_quiet s.quiet path (around.openPath path)
    obtain ⟨recordsToo, codeToo⟩ := runScript_quiet t.quiet path (around.openPath path)
    exact ⟨records.trans recordsToo.symm, code.trans codeToo.symm⟩
  | none =>
    obtain ⟨records, code⟩ := runPrompt_quiet s.quiet (lines around.input)
    obtain ⟨recordsToo, codeToo⟩ := runPrompt_quiet t.quiet (lines around.input)
    exact ⟨records.trans recordsToo.symm, code.trans codeToo.symm⟩

theorem output_runScript_quiet (path : String) (opened : Opened) :
    (runScript true path opened).output = "" := by
  unfold runScript
  split <;> rfl

theorem length_promptScans (pieces : List (List UInt8)) :
    (promptScans .empty pieces).length = (pieces.takeWhile isText).length := by
  obtain ⟨texts, good⟩ := exists_goodTexts pieces
  have lengths := congrArg List.length good
  rw [List.length_map, List.length_map] at lengths
  rw [promptScans_eq good, List.length_map, lengths]

/-- A quiet prompt shows a mark for each line that it answers, and one before the line at which it
ends. -/
theorem output_runPrompt_quiet (pieces : List (List UInt8)) :
    (runPrompt true .empty pieces).output
      = String.join (List.replicate ((pieces.takeWhile isText).length + 1) "> ")
        ++ if pieces.all isText then "\n" else "" := by
  have marks : (promptScans .empty pieces).map
        (fun s => promptMark ++ if true then "" else echo s.1)
      = List.replicate (pieces.takeWhile isText).length "> " := by
    rw [← length_promptScans, ← List.map_const']
    rfl
  rw [runPrompt_eq, List.replicate_succ', String.join_append, ← marks]
  simp [promptMark, isText]

/-! ## Levels -/

/-- The log filters under which errors are written and nothing else. -/
def errorFilters : List (Option String) := [none, some "error", some "warn", some "info"]

/-- The log filters under which all records of the program are written. -/
def debugFilters : List (Option String) :=
  [some "debug", some "trace", some "DEBUG", some "treko=debug"]

/-- The log filters under which nothing is written. -/
def silentFilters : List (Option String) := [some "off", some "other=debug"]

theorem allows_errorFilters {setting : Option String} (member : setting ∈ errorFilters) :
    (LogFilter.ofSetting setting).allows .error = true ∧
      (LogFilter.ofSetting setting).allows .debug = false := by
  simp only [errorFilters, List.mem_cons, List.not_mem_nil, or_false] at member
  rcases member with rfl | rfl | rfl | rfl <;> decide +kernel

theorem allows_debugFilters {setting : Option String} (member : setting ∈ debugFilters) :
    (LogFilter.ofSetting setting).allows .error = true ∧
      (LogFilter.ofSetting setting).allows .debug = true := by
  simp only [debugFilters, List.mem_cons, List.not_mem_nil, or_false] at member
  rcases member with rfl | rfl | rfl | rfl <;> decide +kernel

theorem allows_silentFilters {setting : Option String} (member : setting ∈ silentFilters) :
    (LogFilter.ofSetting setting).allows .error = false ∧
      (LogFilter.ofSetting setting).allows .debug = false := by
  simp only [silentFilters, List.mem_cons, List.not_mem_nil, or_false] at member
  rcases member with rfl | rfl <;> decide +kernel

/-- The record is an error, or it traces what the program does. -/
def Record.Usual (r : Record) : Prop := r.level = .error ∨ r.level = .debug

theorem usual_of_mem_scanRecords {tokens : List Token} {found : Diagnostics} {r : Record}
    (member : r ∈ scanRecords tokens found) : r.Usual := by
  rcases List.mem_cons.mp member with rfl | reported
  · exact .inr rfl
  · obtain ⟨d, -, rfl⟩ := List.mem_map.mp reported
    exact .inl rfl

theorem usual_of_mem_runScript {quiet : Bool} {path : String} {opened : Opened} {r : Record}
    (member : r ∈ (runScript quiet path opened).records) : r.Usual := by
  unfold runScript at member
  split at member
  · rw [List.mem_singleton.mp member]
    exact .inl rfl
  · rcases List.mem_cons.mp member with rfl | scanned
    · exact .inr rfl
    · exact usual_of_mem_scanRecords scanned

theorem usual_of_mem_runPrompt {quiet : Bool} {pieces : List (List UInt8)} {r : Record}
    (member : r ∈ (runPrompt quiet .empty pieces).records) : r.Usual := by
  rw [runPrompt_eq] at member
  rcases List.mem_append.mp member with scanned | ending
  · obtain ⟨s, -, inside⟩ := List.mem_flatMap.mp scanned
    exact usual_of_mem_scanRecords inside
  · split at ending
    · cases ending
    · rw [List.mem_singleton.mp ending]
      exact .inl rfl

/-- The records of a run are errors, or they trace what the run does. -/
theorem level_of_mem_records {around : Surroundings} {settings : Settings} {r : Record}
    (member : r ∈ (activity around settings).records) : r.Usual := by
  unfold activity at member
  split at member
  · exact usual_of_mem_runScript member
  · exact usual_of_mem_runPrompt member

/-! ## Entries on standard error -/

/-- The entry is written for an error, as its first characters tell. -/
def isErrorEntry (entry : String) : Bool := "[ERROR ".toList.isPrefixOf entry.toList

theorem isErrorEntry_line (r : Record) : isErrorEntry r.line = (r.level == .error) := by
  obtain ⟨level, text⟩ := r
  unfold isErrorEntry Record.line
  cases level with
  | error => simp [Level.name]
  | _ => simp [Level.name]; rfl

/-- Under a filter that lets errors through only, the entries are the errors among those of a run
that writes all records. -/
theorem errors_of_errorFilter {a : Activity} (usual : ∀ r ∈ a.records, r.Usual)
    {strict wide : Option String} (errorsOnly : strict ∈ errorFilters)
    (everything : wide ∈ debugFilters) :
    (a.report (LogFilter.ofSetting strict)).errors
      = (a.report (LogFilter.ofSetting wide)).errors.filter isErrorEntry := by
  obtain ⟨errors, noDebug⟩ := allows_errorFilters errorsOnly
  obtain ⟨errorsToo, debugToo⟩ := allows_debugFilters everything
  have all : a.records.filter (fun r => (LogFilter.ofSetting wide).allows r.level)
      = a.records := by
    refine List.filter_eq_self.mpr fun r member => ?_
    rcases usual r member with level | level
    · rw [level, errorsToo]
    · rw [level, debugToo]
  have kept : ∀ r ∈ a.records,
      (LogFilter.ofSetting strict).allows r.level = isErrorEntry r.line := by
    intro r member
    rw [isErrorEntry_line]
    rcases usual r member with level | level
    · rw [level, errors]
      rfl
    · rw [level, noDebug]
      rfl
  unfold Activity.report
  rw [all, List.filter_map]
  exact congrArg (List.map Record.line) (List.filter_congr kept)

theorem errors_of_silentFilter {a : Activity} (usual : ∀ r ∈ a.records, r.Usual)
    {setting : Option String} (silent : setting ∈ silentFilters) :
    (a.report (LogFilter.ofSetting setting)).errors = [] := by
  obtain ⟨noErrors, noDebug⟩ := allows_silentFilters silent
  show (a.records.filter _).map Record.line = []
  rw [List.map_eq_nil_iff, List.filter_eq_nil_iff]
  intro r member
  rw [Bool.not_eq_true]
  rcases usual r member with level | level
  · rw [level, noErrors]
  · rw [level, noDebug]

/-! ## Two runs -/

/-- Quiet and the log filter only hide what a run tells, whatever files and input it finds. Two
runs that differ in quiet end with the same code and write the same errors, and the quiet one shows
nothing of a script, and of a prompt the marks and the line break at the end of the input. Two runs
that differ in the log filter end with the same code and show the same; of the entries that are
written under a filter for all records, a filter for errors leaves the errors, and a silent one
nothing. -/
theorem settings_only_hide {around : Surroundings} {args other : List String}
    {values others : List (Option Options.Value)}
    (accepted : Program.schema.read args = .accepted values)
    (acceptedToo : Program.schema.read other = .accepted others) :
    let s := Settings.ofValues values
    let t := Settings.ofValues others
    (AlikeButQuiet s t →
      (run around args).code = (run around other).code ∧
      (run around args).errors = (run around other).errors ∧
      (t.quiet = true →
        (∀ path, t.script = some path → (run around other).output = "") ∧
        (t.script = none → ∃ pieces, CutBehindFeeds around.input pieces ∧
          (run around other).output
            = String.join (List.replicate ((pieces.takeWhile isText).length + 1) "> ")
              ++ if pieces.all isText then "\n" else ""))) ∧
    (AlikeButFilter s t →
      (run around args).code = (run around other).code ∧
      (run around args).output = (run around other).output ∧
      (s.logFilter ∈ errorFilters → t.logFilter ∈ debugFilters →
        (run around args).errors = (run around other).errors.filter isErrorEntry) ∧
      (s.logFilter ∈ silentFilters → (run around args).errors = [])) := by
  intro s t
  rw [run_of_accepted accepted, run_of_accepted acceptedToo]
  refine ⟨fun alike => ?_, fun alike => ?_⟩
  · obtain ⟨records, code⟩ := activity_of_alikeButQuiet alike around
    refine ⟨code, ?_, fun quiet => ⟨fun path script => ?_, fun noScript => ?_⟩⟩
    · show ((activity around s).records.filter _).map _ = _
      rw [records, alike.2]
      rfl
    · show (activity around t).output = ""
      simp only [activity, script, quiet, output_runScript_quiet]
    · refine ⟨lines around.input, cutBehindFeeds_lines around.input, ?_⟩
      show (activity around t).output = _
      simp only [activity, noScript, quiet, output_runPrompt_quiet]
  · have same : activity around s = activity around t := by
      simp only [activity, alike.1, alike.2]
    refine ⟨congrArg Activity.code same, congrArg Activity.output same, ?_, ?_⟩
    · intro errorsOnly everything
      rw [show activity around (Settings.ofValues values) = activity around t from same]
      exact errors_of_errorFilter (fun r => level_of_mem_records) errorsOnly everything
    · exact errors_of_silentFilter fun r => level_of_mem_records

/-- A script with a stray character, and three lines of input, the last one no text. -/
def strayScript : Surroundings := ⟨fun _ => .content [64, 120], brokenInput⟩

/-- A run that traces itself writes the error of the script between its own records, and a quiet
prompt shows a mark for each line. -/
theorem settings_only_hide_strayScript :
    (Program.schema.read ["a"] = .accepted [some (.string "a"), some (.bool false), none] ∧
      Program.schema.read ["-l", "debug", "a"]
        = .accepted [some (.string "a"), some (.bool false), some (.string "debug")] ∧
      Program.schema.read [] = .accepted [none, some (.bool false), none] ∧
      Program.schema.read ["-q"] = .accepted [none, some (.bool true), none]) ∧
    (run strayScript ["-l", "debug", "a"]).errors
      = ["[DEBUG treko] Scanning file: a", "[DEBUG treko] Scanned 2 tokens, 1 errors",
          "[ERROR treko] [line 1] Error: Unexpected character '@'."] ∧
    (run strayScript ["a"]).errors = ["[ERROR treko] [line 1] Error: Unexpected character '@'."] ∧
    (run strayScript []).errors = (run strayScript ["-q"]).errors ∧
    (run strayScript ["-q"]).output = "> > > " := by
  have plain : Program.schema.read ["a"]
      = .accepted [some (.string "a"), some (.bool false), none] := by decide +kernel
  have traced : Program.schema.read ["-l", "debug", "a"]
      = .accepted [some (.string "a"), some (.bool false), some (.string "debug")] := by
    decide +kernel
  have shown : Program.schema.read [] = .accepted [none, some (.bool false), none] := by
    decide +kernel
  have quiet : Program.schema.read ["-q"] = .accepted [none, some (.bool true), none] := by
    decide +kernel
  have trace : (run strayScript ["-l", "debug", "a"]).errors
      = ["[DEBUG treko] Scanning file: a", "[DEBUG treko] Scanned 2 tokens, 1 errors",
          "[ERROR treko] [line 1] Error: Unexpected character '@'."] := by
    decide +kernel
  obtain ⟨-, -, errors, -⟩ :=
    (@settings_only_hide strayScript _ _ _ _ plain traced).2 ⟨rfl, rfl⟩
  obtain ⟨-, same, marks⟩ := (@settings_only_hide strayScript _ _ _ _ shown quiet).1 ⟨rfl, rfl⟩
  obtain ⟨pieces, cut, output⟩ := (marks rfl).2 rfl
  rw [← lines_eq_iff] at cut
  subst cut
  refine ⟨⟨plain, traced, shown, quiet⟩, trace, ?_, same, output.trans (by decide +kernel)⟩
  rw [errors (.head _) (.head _), trace]
  decide +kernel

end Program
end ScriptScan
