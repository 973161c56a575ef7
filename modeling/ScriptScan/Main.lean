import ScriptScan.Program.Run

/-!
# The command line

Gives the program its files and its standard input, and writes what it reports. At a
prompt every line is answered before the next one is read, by the steps of
`Program.promptStep`.
-/

namespace ScriptScan
namespace CommandLine

open Program

/-- Writes a report and returns its exit code. -/
def write (report : Report) : IO UInt32 := do
  let output ← IO.getStdout
  output.putStr report.output
  output.flush
  for entry in report.errors do
    IO.eprintln entry
  return report.code.toUInt32

/-- The reason that the system gives for a failure. -/
def reason (details : String) (code : UInt32) : Opened :=
  if code = 2 then .missing
  else if code = 21 then .directory
  else .refused (details ++ " (os error " ++ toString code.toNat ++ ")")

/-- Opens a path. -/
def openPath (path : String) : IO Opened := do
  try
    let file ← IO.FS.Handle.mk path .read
    return .content (← file.readBinToEnd).toList
  catch
    | .noFileOrDirectory _ code details => return reason details code
    | .permissionDenied _ code details => return reason details code
    | .inappropriateType _ code details => return reason details code
    | .illegalOperation code details => return reason details code
    | e => return .refused (toString e)

/-- The bytes of standard input up to the next line feed. -/
partial def readLine (input : IO.FS.Stream) (found : List UInt8) : IO (List UInt8) := do
  match (← input.read 1).toList with
  | [] => return found.reverse
  | b :: _ => if b = 10 then return (b :: found).reverse else readLine input (b :: found)

/-- Answers lines until the input ends or a line is no text. -/
partial def prompt (input : IO.FS.Stream) (settings : Settings) (before : Diagnostics) :
    IO UInt32 := do
  let output ← IO.getStdout
  output.putStr promptMark
  output.flush
  let (now, next) := promptStep settings.quiet before (← readLine input [])
  let code ← write (now.report (LogFilter.ofSetting settings.logFilter))
  match next with
  | some found => prompt input settings found
  | none => return code

end CommandLine
end ScriptScan

open ScriptScan ScriptScan.Program in
/-- Runs the program on its arguments. -/
def main (args : List String) : IO UInt32 := do
  match schema.read args with
  | .accepted values =>
    let settings := Settings.ofValues values
    match settings.script with
    | none => CommandLine.prompt (← IO.getStdin) settings .empty
    | some path =>
      let opened ← CommandLine.openPath path
      CommandLine.write (run ⟨fun _ => opened, []⟩ args)
  | _ => CommandLine.write (run ⟨fun _ => .missing, []⟩ args)
