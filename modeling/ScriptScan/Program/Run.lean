import ScriptScan.Diagnostics
import ScriptScan.Program.Log
import ScriptScan.Program.Settings

/-!
# Runs of the program

A run is a function of the arguments and of what the program finds around it: the files
and the bytes on its standard input. It leaves the text on standard output, the entries
on standard error and an exit code.

With a script the whole file is scanned at once. Without one the program starts a prompt,
which scans line by line and carries nothing over from one line to the next.
-/

namespace ScriptScan
namespace Program

/-! ## Surroundings and reports -/

/-- What opening a path gives. -/
inductive Opened where
  | missing
  | directory
  | refused (reason : String)
  | content (bytes : List UInt8)
  deriving DecidableEq, Repr

/-- What the program finds around it. -/
structure Surroundings where
  openPath : String → Opened
  input : List UInt8

/-- What a run leaves. Each entry on standard error ends with a line break. -/
structure Report where
  output : String
  errors : List String
  code : UInt8
  deriving DecidableEq, Repr

/-- What a run does before the log is filtered. -/
structure Activity where
  output : String
  records : List Record
  code : UInt8
  deriving DecidableEq, Repr

/-- The report of an activity: the records that the filter allows are written. -/
def Activity.report (a : Activity) (filter : LogFilter) : Report :=
  ⟨a.output, (a.records.filter fun r => filter.allows r.level).map Record.line, a.code⟩

/-! ## Exit codes -/

def success : UInt8 := 0

/-- The arguments were not accepted. -/
def usageError : UInt8 := 64

/-- The script has lexical errors. -/
def dataError : UInt8 := 65

/-- The script could not be read. -/
def noInput : UInt8 := 66

/-- Standard input could not be read. -/
def inputError : UInt8 := 74

/-! ## Texts -/

/-- The text of bytes, if they are valid UTF-8. -/
def decode? (bytes : List UInt8) : Option String := String.fromUTF8? ⟨bytes.toArray⟩

/-- The reason given for bytes that are no text. -/
def invalidText : String := "stream did not contain valid UTF-8"

/-- The text of a path, or why there is none. -/
def textOf (opened : Opened) : Except String String :=
  match opened with
  | .missing => .error "No such file or directory (os error 2)"
  | .directory => .error "Is a directory (os error 21)"
  | .refused reason => .error reason
  | .content bytes =>
    match decode? bytes with
    | some text => .ok text
    | none => .error invalidText

/-- The tokens, each as it is shown and on a line of its own. -/
def echo (tokens : List Token) : String := String.join (tokens.map fun t => t.display ++ "\n")

/-! ## One scan -/

/-- The size of a scan, as the log tells it. -/
def scanSummary (tokens : List Token) (found : Diagnostics) : String :=
  "Scanned " ++ toString tokens.length ++ " tokens, " ++ toString found.size ++ " errors"

/-- What the log says about a scan: its size, and a record for every diagnostic. -/
def scanRecords (tokens : List Token) (found : Diagnostics) : List Record :=
  ⟨.debug, scanSummary tokens found⟩ :: found.entries.map fun d => ⟨.error, d.display⟩

/-- The activity of scanning a source into a collector. The tokens are shown unless the
run is quiet, and every diagnostic in the collector goes to the log. -/
def runSource (quiet : Bool) (before : Diagnostics) (source : String) : Activity × Diagnostics :=
  let (tokens, after) := before.scan source
  (⟨if quiet then "" else echo tokens, scanRecords tokens after, success⟩, after)

/-! ## A script -/

/-- The activity of a run with a script. -/
def runScript (quiet : Bool) (path : String) (opened : Opened) : Activity :=
  match textOf opened with
  | .error reason => ⟨"", [⟨.error, "Failed to read file '" ++ path ++ "': " ++ reason⟩], noInput⟩
  | .ok text =>
    let (now, found) := runSource quiet .empty text
    ⟨now.output, ⟨.debug, "Scanning file: " ++ path⟩ :: now.records,
      if found.hadError then dataError else success⟩

/-! ## A prompt -/

/-- The bytes cut behind each line feed. A last piece without one counts too. -/
def lines : List UInt8 → List (List UInt8)
  | [] => []
  | b :: rest =>
    if b = 10 then [b] :: lines rest
    else
      match lines rest with
      | [] => [[b]]
      | line :: more => (b :: line) :: more

/-- The text of a line without the carriage returns and line feeds at its end. -/
def trimLineEnd (text : String) : String :=
  String.ofList (text.toList.reverse.dropWhile fun c => c == '\n' || c == '\r').reverse

/-- What stands before each line of a prompt. -/
def promptMark : String := "> "

/-- The activity on one line of a prompt, or on bytes that are no text. -/
def runLine (quiet : Bool) (before : Diagnostics) (line : List UInt8) : Activity × Diagnostics :=
  match decode? line with
  | some text => runSource quiet before (trimLineEnd text)
  | none => (⟨"", [⟨.error, "Failed to read from stdin: " ++ invalidText⟩], inputError⟩, before)

/-- What a prompt does at a line, and the collector for the next line unless the prompt ends.
A line without a byte is the end of the input. -/
def promptStep (quiet : Bool) (before : Diagnostics) (line : List UInt8) :
    Activity × Option Diagnostics :=
  if line = [] then (⟨"\n", [], success⟩, none)
  else
    let (now, found) := runLine quiet before line
    (now, if now.code = success then some found.clear else none)

/-- The activity of a prompt. It ends with the input, or with a line that is no text. The
collector is cleared behind every line. -/
def runPrompt (quiet : Bool) (before : Diagnostics) : List (List UInt8) → Activity
  | [] => ⟨promptMark ++ "\n", [], success⟩
  | line :: rest =>
    let (now, found) := runLine quiet before line
    if now.code = success then
      let later := runPrompt quiet found.clear rest
      ⟨promptMark ++ now.output ++ later.output, now.records ++ later.records, later.code⟩
    else ⟨promptMark ++ now.output, now.records, now.code⟩

/-! ## The program -/

/-- The activity of a run with accepted settings. -/
def activity (around : Surroundings) (settings : Settings) : Activity :=
  match settings.script with
  | some path => runScript settings.quiet path (around.openPath path)
  | none => runPrompt settings.quiet .empty (lines around.input)

/-- A run of the program. A request for help and misuse end it before anything is read. -/
def run (around : Surroundings) (args : List String) : Report :=
  match schema.read args with
  | .help => ⟨schema.usage ++ "\n", [], success⟩
  | .rejected cause => ⟨"", ["[ERROR] " ++ cause.message, schema.usage], usageError⟩
  | .accepted values =>
    let settings := Settings.ofValues values
    (activity around settings).report (LogFilter.ofSetting settings.logFilter)

end Program
end ScriptScan
