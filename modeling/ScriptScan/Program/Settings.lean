import ScriptScan.Options.Reading
import ScriptScan.Options.Usage

/-!
# Settings of the program

The arguments of the program itself: a script, a switch that leaves out the tokens, and a
filter for the log.
-/

namespace ScriptScan
namespace Program

open Options

/-- The arguments that the program takes. -/
def schema : Schema ValueType :=
  { program := "treko"
    description :=
      "Scans a treko script and prints its tokens. Starts a prompt when no script is given."
    fields := [
      { name := "script"
        description := "The script to scan"
        required := false
        role := .positional ⟨.string, true⟩ },
      { name := "quiet"
        description := "Only report errors, do not print tokens"
        required := false
        role := .flag (.both ⟨"-q", by decide⟩ ⟨"--quiet", by decide⟩) },
      { name := "log_filter"
        description := "Log filter, overrides RUST_LOG (e.g. debug)"
        required := false
        role := .option (.both ⟨"-l", by decide⟩ ⟨"--log", by decide⟩) ⟨.string, true⟩ }] }

/-- The settings of a run. Without a script the program starts a prompt. -/
structure Settings where
  script : Option String
  quiet : Bool
  logFilter : Option String
  deriving DecidableEq, Repr

/-- The text of an optional argument. -/
def textValue? : Option Value → Option String
  | some (.string text) => some text
  | _ => none

/-- The settings that the values of the arguments stand for. -/
def Settings.ofValues (values : List (Option Value)) : Settings :=
  { script := values[0]?.bind textValue?
    quiet := values[1]? == some (some (.bool true))
    logFilter := values[2]?.bind textValue? }

end Program
end ScriptScan
