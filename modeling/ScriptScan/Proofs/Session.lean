import ScriptScan.Proofs.Prompt

/-!
# A session at the prompt

A prompt answers its input line by line. What it leaves is put together here from the scans of the
single lines, for all bytes on standard input and all arguments that start a prompt.

* `lines_eq_iff`: the lines are the bytes cut behind each line feed, and a last piece without one.
* `report_of_answers`: a prompt reads on only when it has answered a line (`Answers`), and on every
  input its answers put one behind the other are what the whole run reports.
* `promptScans_eq`: each line up to the first one that is no text is scanned into an empty
  collector, so a session has a scan of its own for each of them.
* `line_of_call`: a report of a scan goes to the log as one line, since its message has no line
  break, and on a source of one line it is reported for line one.
* `run_prompt` puts them together, for a session that ends with the input and for one that ends
  at bytes that are no text.
-/

namespace ScriptScan

/-! ## Messages of one line -/

theorem newline_not_mem_toDigits {base : Nat} (large : 1 < base) (n : Nat) :
    '\n' ∉ Nat.toDigits base n := by
  induction n using Nat.strong_induction_on with
  | _ n ih =>
    rw [Nat.toDigits_eq_if large]
    split
    · exact fun member => Nat.digitChar_ne '\n' rfl (List.mem_singleton.mp member).symm
    · next more =>
      rw [List.mem_append, List.mem_singleton]
      rintro (front | last)
      · exact ih (n / base) (Nat.div_lt_self (by omega) large) front
      · exact Nat.digitChar_ne '\n' rfl last.symm

/-- A line break is escaped, and nothing else is shown by one. -/
theorem newline_not_mem_escape (c : Char) : '\n' ∉ Text.escape c := by
  unfold Text.escape
  split
  · next letter escaped =>
    have letters : ∀ d, Text.escapeLetter? d ≠ some '\n' := by
      intro d
      unfold Text.escapeLetter?
      split <;> simp
    simp only [List.mem_cons, List.not_mem_nil, or_false, not_or]
    exact ⟨by decide, fun same => letters c (same ▸ escaped)⟩
  · next plain =>
    split
    · simp [Text.codePoint, newline_not_mem_toDigits]
    · rw [List.mem_singleton]
      rintro rfl
      cases plain

theorem newline_not_mem_complaint {u : LexicalUnit} {message : String}
    (complains : u.complaint? = some message) : '\n' ∉ message.toList := by
  cases u with
  | stray c =>
    cases complains
    simp [String.toList_append, newline_not_mem_escape]
  | unclosed content =>
    cases complains
    decide
  | _ => cases complains

theorem newline_not_mem_message {source : String} {call : UInt32 × String}
    (told : call ∈ Scan.calls source) : '\n' ∉ call.2.toList := by
  rw [Scan.calls_eq_complaints] at told
  obtain ⟨p, -, complains⟩ := List.mem_filterMap.mp told
  obtain ⟨message, reason, rfl⟩ := Option.map_eq_some_iff.mp complains
  exact newline_not_mem_complaint reason

namespace Program

/-! ## Lines of input -/

/-- The bytes are cut behind each line feed, and a last piece without one counts when there is
something in it. -/
inductive CutBehindFeeds : List UInt8 → List (List UInt8) → Prop
  | nil : CutBehindFeeds [] []
  | last {piece : List UInt8} : 10 ∉ piece → piece ≠ [] → CutBehindFeeds piece [piece]
  | cons {piece rest : List UInt8} {more : List (List UInt8)} :
      10 ∉ piece → CutBehindFeeds rest more →
      CutBehindFeeds (piece ++ 10 :: rest) ((piece ++ [10]) :: more)

theorem cutBehindFeeds_lines (bytes : List UInt8) : CutBehindFeeds bytes (lines bytes) := by
  induction bytes with
  | nil => exact .nil
  | cons b bytes ih =>
    by_cases isFeed : b = 10
    · rw [lines, if_pos isFeed, isFeed]
      exact .cons List.not_mem_nil ih
    -- Any other byte goes to the front of the first line.
    have apart : ∀ {piece : List UInt8}, 10 ∉ piece → 10 ∉ b :: piece :=
      fun noFeed => List.not_mem_cons_of_ne_of_not_mem (Ne.symm isFeed) noFeed
    rw [lines, if_neg isFeed]
    cases cut : lines bytes with
    | nil =>
      rw [cut] at ih
      cases ih
      exact .last (apart List.not_mem_nil) (List.cons_ne_nil b [])
    | cons line more =>
      rw [cut] at ih
      cases ih with
      | last noFeed _ => exact .last (apart noFeed) (List.cons_ne_nil b _)
      | cons noFeed later => exact .cons (apart noFeed) later

theorem lines_eq_iff {bytes : List UInt8} {pieces : List (List UInt8)} :
    lines bytes = pieces ↔ CutBehindFeeds bytes pieces := by
  constructor
  · rintro rfl
    exact cutBehindFeeds_lines bytes
  · intro cut
    induction cut with
    | nil => rfl
    | last noFeed nonempty => exact lines_of_not_mem noFeed nonempty
    | cons noFeed _ ih => rw [lines_append_newline noFeed, ih]

/-! ## Lines answered one by one

A prompt does not have its input at once. It reads the bytes of a line, answers it and then reads
on, so it leaves the answers one behind the other. -/

/-- The bytes up to the first line feed, and those behind it. -/
def firstLine : List UInt8 → List UInt8 × List UInt8
  | [] => ([], [])
  | b :: rest => if b = 10 then ([b], rest) else (b :: (firstLine rest).1, (firstLine rest).2)

theorem firstLine_ne_nil (b : UInt8) (rest : List UInt8) : (firstLine (b :: rest)).1 ≠ [] := by
  unfold firstLine
  split <;> exact List.cons_ne_nil _ _

theorem length_firstLine_le (bytes : List UInt8) :
    (firstLine bytes).2.length ≤ bytes.length - 1 := by
  induction bytes with
  | nil => exact Nat.le_refl 0
  | cons b rest ih =>
    unfold firstLine
    split
    · exact Nat.le_refl _
    · simp only [List.length_cons]
      omega

theorem lines_cons (b : UInt8) (rest : List UInt8) :
    lines (b :: rest) = (firstLine (b :: rest)).1 :: lines (firstLine (b :: rest)).2 := by
  induction rest generalizing b with
  | nil => by_cases isFeed : b = 10 <;> simp [lines, firstLine, isFeed]
  | cons d rest ih =>
    rw [lines, firstLine]
    split
    · rfl
    · simp only [ih d]

/-- The answers of a prompt to the lines that it reads from its input. -/
inductive Answers (quiet : Bool) : Diagnostics → List UInt8 → List Activity → Prop
  | last {before : Diagnostics} {input : List UInt8} {now : Activity} :
      promptStep quiet before (firstLine input).1 = (now, none) →
      Answers quiet before input [now]
  | more {before found : Diagnostics} {input : List UInt8} {now : Activity}
      {later : List Activity} :
      promptStep quiet before (firstLine input).1 = (now, some found) →
      Answers quiet found (firstLine input).2 later → Answers quiet before input (now :: later)

/-- Only a line with a byte in it lets a prompt go on. -/
theorem exists_cons_of_promptStep {quiet : Bool} {before found : Diagnostics} {input : List UInt8}
    {now : Activity} (step : promptStep quiet before (firstLine input).1 = (now, some found)) :
    ∃ b rest, input = b :: rest := by
  cases input with
  | nil => simp [promptStep, firstLine] at step
  | cons b rest => exact ⟨b, rest, rfl⟩

/-- A prompt comes to an end on every input. -/
theorem exists_answers (quiet : Bool) (before : Diagnostics) (input : List UInt8) :
    ∃ steps, Answers quiet before input steps := by
  induction size : input.length using Nat.strong_induction_on generalizing before input with
  | _ size ih =>
    cases step : promptStep quiet before (firstLine input).1 with
    | mk now next =>
    cases next with
    | none => exact ⟨[now], .last step⟩
    | some found =>
      obtain ⟨b, rest, rfl⟩ := exists_cons_of_promptStep step
      have shorter := length_firstLine_le (b :: rest)
      rw [List.length_cons] at shorter size
      obtain ⟨later, answered⟩ := ih _ (by omega) found (firstLine (b :: rest)).2 rfl
      exact ⟨now :: later, .more step answered⟩

/-- The prompt on its input is one step, and then the prompt on what is behind the first line. -/
theorem runPrompt_lines (quiet : Bool) (before : Diagnostics) (input : List UInt8) :
    runPrompt quiet before (lines input)
      = match promptStep quiet before (firstLine input).1 with
        | (now, none) => ⟨promptMark ++ now.output, now.records, now.code⟩
        | (now, some found) =>
          let later := runPrompt quiet found (lines (firstLine input).2)
          ⟨promptMark ++ now.output ++ later.output, now.records ++ later.records, later.code⟩ := by
  cases input with
  | nil => rfl
  | cons b rest =>
    rw [lines_cons, runPrompt, promptStep, if_neg (firstLine_ne_nil b rest)]
    by_cases code : (runLine quiet before (firstLine (b :: rest)).1).1.code = success
    · simp only [if_pos code]
    · simp only [if_neg code]

/-- A prompt leaves the reports of its answers one behind the other, each behind a mark, and the
code of the last one. -/
theorem report_of_answers {quiet : Bool} {before : Diagnostics} {input : List UInt8}
    {steps : List Activity} (answered : Answers quiet before input steps) (filter : LogFilter) :
    let whole := (runPrompt quiet before (lines input)).report filter
    let reports := steps.map fun now => now.report filter
    whole.output = String.join (reports.map fun r => promptMark ++ r.output) ∧
      whole.errors = reports.flatMap Report.errors ∧
      ∃ final, reports.getLast? = some final ∧ whole.code = final.code := by
  induction answered with
  | @last before input now step =>
    rw [runPrompt_lines, step]
    refine ⟨?_, ?_, now.report filter, rfl, rfl⟩
    · simp [Activity.report]
    · simp [Activity.report]
  | @more before found input now later step _ ih =>
    obtain ⟨output, errors, final, isLast, code⟩ := ih
    rw [runPrompt_lines, step]
    refine ⟨?_, ?_, final, ?_, code⟩
    · rw [List.map_cons, List.map_cons, String.join_cons, ← output]
      rfl
    · rw [List.map_cons, List.flatMap_cons, ← errors]
      simp only [Activity.report, List.filter_append, List.map_append]
    · rw [List.map_cons, List.getLast?_cons, isLast, Option.getD_some]

/-! ## Scans of a session -/

/-- The bytes are a text. -/
def isText (piece : List UInt8) : Bool := (decode? piece).isSome

/-- The texts are those of the lines before the first line that is no text. -/
def GoodTexts (pieces : List (List UInt8)) (texts : List String) : Prop :=
  texts.map some = (pieces.takeWhile isText).map decode?

theorem exists_goodTexts (pieces : List (List UInt8)) : ∃ texts, GoodTexts pieces texts := by
  induction pieces with
  | nil => exact ⟨[], rfl⟩
  | cons piece pieces ih =>
    obtain ⟨texts, good⟩ := ih
    cases decoded : decode? piece with
    | none => exact ⟨[], by simp [GoodTexts, isText, decoded]⟩
    | some text =>
      refine ⟨text :: texts, ?_⟩
      unfold GoodTexts at good ⊢
      rw [List.takeWhile_cons_of_pos (by simp [isText, decoded]), List.map_cons, List.map_cons,
        good, decoded]

/-- Every good line is scanned into an empty collector: what the line before it left there has
been cleared. -/
theorem promptScans_eq {pieces : List (List UInt8)} {texts : List String}
    (good : GoodTexts pieces texts) :
    promptScans .empty pieces
      = texts.map fun text => Diagnostics.empty.scan (trimLineEnd text) := by
  unfold GoodTexts at good
  induction pieces generalizing texts with
  | nil =>
    obtain rfl : texts = [] := by simpa using good
    rfl
  | cons piece pieces ih =>
    cases decoded : decode? piece with
    | none =>
      rw [List.takeWhile_cons_of_neg (by simp [isText, decoded])] at good
      obtain rfl : texts = [] := by simpa using good
      simp [promptScans, decoded]
    | some text =>
      rw [List.takeWhile_cons_of_pos (by simp [isText, decoded]), List.map_cons, decoded] at good
      obtain ⟨first, later, rfl, same, rest⟩ := List.map_eq_cons_iff.mp good
      cases same
      simp only [promptScans, decoded, List.map_cons]
      exact congrArg _ (ih rest)

/-! ## Reports of one line -/

theorem cutBehindFeeds_of_mem {bytes : List UInt8} {pieces : List (List UInt8)}
    (cut : CutBehindFeeds bytes pieces) : ∀ piece ∈ pieces, CutBehindFeeds piece [piece] := by
  induction cut with
  | nil => exact List.forall_mem_nil _
  | last noFeed nonempty => exact List.forall_mem_singleton.mpr (.last noFeed nonempty)
  | cons noFeed _ ih => exact List.forall_mem_cons.mpr ⟨.cons noFeed .nil, ih⟩

theorem eq_of_cutIntoLines_single {text line : List Char} (cut : CutIntoLines text [line]) :
    line = text := by
  cases cut with
  | last _ _ => rfl
  | cons _ later => cases later; rfl

/-- The text of a single line is cut into a single line. -/
theorem cutIntoLines_of_single {piece : List UInt8} {text : String}
    (single : CutBehindFeeds piece [piece]) (decoded : decode? piece = some text) :
    CutIntoLines text.toList [text.toList] := by
  obtain ⟨pieces, cut⟩ := exists_cutIntoLines text.toList
  have bytes := eq_encode_of_decode? decoded
  have one : pieces.map encode = [piece] := by
    rw [← lines_of_cutIntoLines cut, ← bytes, lines_eq_iff.mpr single]
  obtain ⟨line, rfl, -⟩ := List.map_eq_singleton_iff.mp one
  rwa [eq_of_cutIntoLines_single cut] at cut

/-- No line break is left in a good line that is trimmed. -/
theorem newline_not_mem_source {bytes : List UInt8} {pieces : List (List UInt8)}
    {texts : List String} (cut : CutBehindFeeds bytes pieces) (good : GoodTexts pieces texts) :
    ∀ text ∈ texts, '\n' ∉ (trimLineEnd text).toList := by
  intro text member
  have decoded : some text ∈ (pieces.takeWhile isText).map decode? := by
    rw [← good]
    exact List.mem_map_of_mem member
  obtain ⟨piece, inside, decoded⟩ := List.mem_map.mp decoded
  have single := cutBehindFeeds_of_mem cut piece (List.takeWhile_subset _ inside)
  have trimmed := newline_not_mem_trimLineEnd (cutIntoLines_of_single single decoded) text.toList
    (List.mem_singleton_self _)
  rwa [String.ofList_toList] at trimmed

theorem line_of_call {source : String} (noBreak : '\n' ∉ source.toList) {call : UInt32 × String}
    (told : call ∈ Scan.calls source) : call.1 = 1 := by
  rw [calls_of_not_mem noBreak] at told
  obtain ⟨message, -, rfl⟩ := List.mem_map.mp told
  rfl

/-! ## Records in the log -/

theorem indented_of_not_mem {text : List Char} (noBreak : '\n' ∉ text) :
    Record.indented text = text := by
  induction text with
  | nil => rfl
  | cons c text ih =>
    obtain ⟨other, noBreak⟩ := List.ne_and_not_mem_of_not_mem_cons noBreak
    rw [Record.indented, if_neg other.symm, ih noBreak, List.singleton_append]

/-- A record without a line break is one line of the log. -/
theorem line_of_not_mem (level : Level) {text : String} (noBreak : '\n' ∉ text.toList) :
    (⟨level, text⟩ : Record).line = "[" ++ level.name ++ " treko] " ++ text := by
  rw [Record.line, indented_of_not_mem noBreak, String.ofList_toList]
  simp only [target, String.ofList_toList, String.append_assoc]
  rfl

/-- Without a filter the log has the diagnostics of a scan, and not its size. -/
theorem filter_scanRecords (tokens : List Token) (found : Diagnostics) :
    (scanRecords tokens found).filter (fun r => (LogFilter.ofSetting none).allows r.level)
      = found.entries.map fun d => ⟨.error, d.display⟩ := by
  have errors : (LogFilter.ofSetting none).allows .error = true := by decide +kernel
  have sizes : (LogFilter.ofSetting none).allows .debug = false := by decide +kernel
  rw [scanRecords, List.filter_cons_of_neg (by simp [sizes]), List.filter_eq_self]
  intro r member
  obtain ⟨d, -, rfl⟩ := List.mem_map.mp member
  exact errors

theorem newline_not_mem_display {source : String} {call : UInt32 × String}
    (told : call ∈ Scan.calls source) :
    '\n' ∉ (Diagnostic.display ⟨call.1, call.2⟩).toList := by
  have digits := newline_not_mem_toDigits (show 1 < 10 by decide) call.1.toNat
  simp [Diagnostic.display, String.toList_append, newline_not_mem_message told, digits]

/-- Without a filter the log has one line for each report of a scan. -/
theorem logged_scan (source : String) :
    ((scanRecords (Diagnostics.empty.scan source).1 (Diagnostics.empty.scan source).2).filter
        fun r => (LogFilter.ofSetting none).allows r.level).map Record.line
      = (Scan.calls source).map fun call =>
          "[ERROR treko] [line " ++ toString call.1.toNat ++ "] Error: " ++ call.2 := by
  rw [filter_scanRecords, List.map_map]
  refine (map_entries_scan source fun call =>
    (⟨.error, Diagnostic.display ⟨call.1, call.2⟩⟩ : Record).line).trans ?_
  refine List.map_congr_left fun call told => ?_
  have front : "[" ++ Level.error.name ++ " treko] " ++ "[line " = "[ERROR treko] [line " := by
    decide
  rw [line_of_not_mem .error (newline_not_mem_display told), Diagnostic.display,
    ← String.append_assoc, ← String.append_assoc, ← String.append_assoc, front]

theorem logged_scan_of_not_mem {source : String} (noBreak : '\n' ∉ source.toList) :
    ((scanRecords (Diagnostics.empty.scan source).1 (Diagnostics.empty.scan source).2).filter
        fun r => (LogFilter.ofSetting none).allows r.level).map Record.line
      = (Scan.calls source).map fun call => "[ERROR treko] [line 1] Error: " ++ call.2 := by
  have front : "[ERROR treko] [line " ++ toString (1 : UInt32).toNat ++ "] Error: "
      = "[ERROR treko] [line 1] Error: " := by
    decide
  rw [logged_scan]
  refine List.map_congr_left fun call told => ?_
  rw [line_of_call noBreak told, front]

/-! ## A session -/

/-- A run with accepted arguments is the activity of its settings, through the filter of its log. -/
theorem run_of_accepted {around : Surroundings} {args : List String}
    {values : List (Option Options.Value)}
    (accepted : Program.schema.read args = .accepted values) :
    run around args = (activity around (Settings.ofValues values)).report
      (LogFilter.ofSetting (Settings.ofValues values).logFilter) := by
  unfold run
  rw [accepted]

/-- A run that starts a prompt is the prompt on the lines of its input. -/
theorem run_of_noScript {around : Surroundings} {args : List String}
    {values : List (Option Options.Value)}
    (accepted : Program.schema.read args = .accepted values)
    (noScript : (Settings.ofValues values).script = none) :
    run around args
      = (runPrompt (Settings.ofValues values).quiet .empty (lines around.input)).report
        (LogFilter.ofSetting (Settings.ofValues values).logFilter) := by
  rw [run_of_accepted accepted, activity, noScript]

theorem output_runPrompt {pieces : List (List UInt8)} {texts : List String}
    (good : GoodTexts pieces texts) :
    (runPrompt false .empty pieces).output
      = String.join ((texts.map trimLineEnd).map fun source =>
          "> " ++ echo (Scan.ofSource source).tokens)
        ++ (if pieces.all isText then "> \n" else "> ") := by
  have each : (promptScans .empty pieces).map
        (fun s => promptMark ++ if false then "" else echo s.1)
      = (texts.map trimLineEnd).map fun source => "> " ++ echo (Scan.ofSource source).tokens := by
    rw [promptScans_eq good, List.map_map, List.map_map]
    rfl
  have ending : promptMark ++ (if pieces.all isText then "\n" else "")
      = if pieces.all isText then "> \n" else "> " := by
    split <;> rfl
  rw [runPrompt_eq, ← ending, ← String.append_assoc, ← each]
  rfl

theorem errors_runPrompt {pieces : List (List UInt8)} {texts : List String}
    (good : GoodTexts pieces texts)
    (oneLine : ∀ text ∈ texts, '\n' ∉ (trimLineEnd text).toList) :
    ((runPrompt false .empty pieces).report (LogFilter.ofSetting none)).errors
      = (texts.map trimLineEnd).flatMap (fun source =>
          (Scan.calls source).map fun call => "[ERROR treko] [line 1] Error: " ++ call.2)
        ++ if pieces.all isText then []
          else ["[ERROR treko] Failed to read from stdin: stream did not contain valid UTF-8"] := by
  have scans : (((promptScans .empty pieces).flatMap fun s => scanRecords s.1 s.2).filter
        fun r => (LogFilter.ofSetting none).allows r.level).map Record.line
      = (texts.map trimLineEnd).flatMap fun source =>
          (Scan.calls source).map fun call => "[ERROR treko] [line 1] Error: " ++ call.2 := by
    rw [promptScans_eq good, List.flatMap_map, List.flatMap_map, List.filter_flatMap,
      List.map_flatMap]
    exact List.flatMap_congr fun text member => logged_scan_of_not_mem (oneLine text member)
  have allowed : (LogFilter.ofSetting none).allows .error = true := by decide +kernel
  have failure : (⟨.error, "Failed to read from stdin: " ++ invalidText⟩ : Record).line
      = "[ERROR treko] Failed to read from stdin: stream did not contain valid UTF-8" := by
    decide +kernel
  have records : (runPrompt false .empty pieces).records
      = ((promptScans .empty pieces).flatMap fun s => scanRecords s.1 s.2)
        ++ if pieces.all isText then []
          else [⟨.error, "Failed to read from stdin: " ++ invalidText⟩] := by
    rw [runPrompt_eq]
    rfl
  rw [Activity.report, records, List.filter_append, List.map_append, scans]
  cases pieces.all isText with
  | true => rfl
  | false => simp [allowed, failure]

/-- A session at the prompt, for all bytes on standard input. The bytes are cut behind each line
feed, and the lines before the first one that is no text are answered one by one: by the mark and
the tokens of the trimmed line, and without a log filter by one line of the log for each
diagnostic, which no other line of the input has a part in. When all lines are texts the session
ends with a last mark and a line break, and otherwise behind the mark with an error. -/
theorem run_prompt {around : Surroundings} {args : List String}
    {values : List (Option Options.Value)}
    (accepted : Program.schema.read args = .accepted values)
    (noScript : (Settings.ofValues values).script = none)
    (shows : (Settings.ofValues values).quiet = false) :
    ∃ pieces texts, CutBehindFeeds around.input pieces ∧
      (∀ other, CutBehindFeeds around.input other → other = pieces) ∧
      GoodTexts pieces texts ∧
      (run around args).output
        = String.join ((texts.map trimLineEnd).map fun source =>
            "> " ++ echo (Scan.ofSource source).tokens)
          ++ (if pieces.all isText then "> \n" else "> ") ∧
      (run around args).code = (if pieces.all isText then 0 else 74) ∧
      ((Settings.ofValues values).logFilter = none → (run around args).errors
        = (texts.map trimLineEnd).flatMap (fun source =>
            (Scan.calls source).map fun call => "[ERROR treko] [line 1] Error: " ++ call.2)
          ++ if pieces.all isText then []
            else ["[ERROR treko] Failed to read from stdin: stream did not contain valid UTF-8"]) ∧
      ∀ source ∈ texts.map trimLineEnd, ∀ call ∈ Scan.calls source,
        call.1 = 1 ∧ '\n' ∉ call.2.toList := by
  have cut := cutBehindFeeds_lines around.input
  obtain ⟨texts, good⟩ := exists_goodTexts (lines around.input)
  have oneLine := newline_not_mem_source cut good
  rw [run_of_noScript accepted noScript, shows]
  refine ⟨lines around.input, texts, cut, ?_, good, output_runPrompt good, ?_, ?_, ?_⟩
  · intro other otherCut
    rw [← lines_eq_iff.mpr otherCut]
  · rw [runPrompt_eq]
    rfl
  · intro noFilter
    rw [noFilter]
    exact errors_runPrompt good oneLine
  · intro source member call told
    obtain ⟨text, inside, rfl⟩ := List.mem_map.mp member
    exact ⟨line_of_call (oneLine text inside) told, newline_not_mem_message told⟩

/-- A stray character before a carriage return, a word, a byte that begins no character, and a line
that is never read. -/
def brokenInput : List UInt8 := [64, 13, 10, 120, 10, 255, 10, 121]

/-- The error of the first line does not come again, and the bad line ends the session. -/
theorem run_prompt_brokenInput :
    (Program.schema.read [] = .accepted [none, some (.bool false), none] ∧
      (Settings.ofValues [none, some (.bool false), none]).script = none ∧
      (Settings.ofValues [none, some (.bool false), none]).quiet = false) ∧
    (run ⟨fun _ => .missing, brokenInput⟩ []).output
      = "> Eof  nil\n> Identifier x nil\nEof  nil\n> " ∧
    (run ⟨fun _ => .missing, brokenInput⟩ []).code = 74 ∧
    (run ⟨fun _ => .missing, brokenInput⟩ []).errors
      = ["[ERROR treko] [line 1] Error: Unexpected character '@'.",
          "[ERROR treko] Failed to read from stdin: stream did not contain valid UTF-8"] := by
  have accepted : Program.schema.read [] = .accepted [none, some (.bool false), none] := by
    decide +kernel
  obtain ⟨pieces, texts, cut, -, good, output, code, errors, -⟩ :=
    @run_prompt ⟨fun _ => .missing, brokenInput⟩ [] _ accepted rfl rfl
  rw [← lines_eq_iff] at cut
  subst cut
  obtain rfl : texts = ["@\r\n", "x\n"] := by
    refine (List.map_inj_right fun _ _ => Option.some.inj).mp (good.trans ?_)
    decide +kernel
  refine ⟨⟨accepted, rfl, rfl⟩, output.trans ?_, code.trans ?_, (errors rfl).trans ?_⟩ <;>
    decide +kernel

end Program
end ScriptScan
