import ScriptScan.LexicalUnit
import ScriptScan.Text.Character
import ScriptScan.Token

/-!
# Scans

A scan reads the tokens and the lexical errors off the units of a source. It never
stops at an error: a unit gives a token, an error or nothing, and the scan goes on
with the next one. The tokens end with the token of the end of the source.

Lines are counted from one. A token and a stray character stand on the line on which
their unit starts; a string that is never closed is reported for the last line.
-/

namespace ScriptScan

/-! ## Lexical errors -/

/-- The cause of a lexical error. -/
inductive LexicalProblem where
  | unexpectedCharacter (c : Char)
  | unterminatedString
  | malformedNumber (lexeme : String)
  deriving DecidableEq, Repr

/-- An offending character is escaped, the text of a number is shown as it stands. -/
def LexicalProblem.message : LexicalProblem → String
  | unexpectedCharacter c => "Unexpected character '" ++ String.ofList (Text.escape c) ++ "'."
  | unterminatedString => "Unterminated string."
  | malformedNumber lexeme => "Malformed number '" ++ lexeme ++ "'."

/-- A problem and the line that it is reported for. -/
structure LexicalError where
  line : UInt32
  problem : LexicalProblem
  deriving DecidableEq, Repr

/-- The message does not repeat the line. -/
def LexicalError.message (e : LexicalError) : String := e.problem.message

/-! ## Units on their lines -/

/-- A unit and the line on which it starts. -/
structure PlacedUnit where
  unit : LexicalUnit
  line : UInt32
  deriving DecidableEq, Repr

/-- The line that is reached behind a text. -/
def lineAfter (line : UInt32) (text : List Char) : UInt32 :=
  line + UInt32.ofNat (text.count '\n')

namespace PlacedUnit

/-- The line on which the next unit starts. -/
def nextLine (u : PlacedUnit) : UInt32 := lineAfter u.line u.unit.text

/-- The units with their lines, when the first one starts on the given line. -/
def place (line : UInt32) : List LexicalUnit → List PlacedUnit
  | [] => []
  | unit :: rest => ⟨unit, line⟩ :: place (lineAfter line unit.text) rest

/-- A token of the unit's text. -/
def tokenOf (u : PlacedUnit) (category : Category) (literal : Literal) : Token :=
  ⟨category, String.ofList u.unit.text, literal, u.line⟩

/-- The token of an operator, a string, a number or a word. -/
def token? (u : PlacedUnit) : Option Token :=
  match u.unit with
  | .operator op => some (u.tokenOf (.operator op) .absent)
  | .string content => some (u.tokenOf .string (.string (String.ofList content)))
  | .number _ _ => (Binary64.ofText? u.unit.text).map fun x => u.tokenOf .number (.number x)
  | .word letters =>
    let category := Category.ofWord (String.ofList letters)
    some (u.tokenOf category category.literal)
  | .blank _ | .comment _ | .stray _ | .unclosed _ => none

/-- The error of a stray character, of a string that is never closed, or of digits that
are not a number. -/
def error? (u : PlacedUnit) : Option LexicalError :=
  match u.unit with
  | .stray c => some ⟨u.line, .unexpectedCharacter c⟩
  | .unclosed _ => some ⟨u.nextLine, .unterminatedString⟩
  | .number _ _ =>
    if (Binary64.ofText? u.unit.text).isNone then
      some ⟨u.line, .malformedNumber (String.ofList u.unit.text)⟩
    else none
  | .blank _ | .comment _ | .operator _ | .string _ | .word _ => none

end PlacedUnit

/-! ## Scans -/

/-- What a scan leaves: the tokens, and the errors in the order of the source. -/
structure Scan where
  tokens : List Token
  errors : List LexicalError
  deriving DecidableEq, Repr

namespace Scan

/-- The units of a source with their lines. -/
def unitsOf (source : String) : List PlacedUnit :=
  PlacedUnit.place 1 (LexicalUnit.ofSource source.toList)

/-- The scan of a source. -/
def ofSource (source : String) : Scan :=
  let units := unitsOf source
  ⟨units.filterMap PlacedUnit.token? ++ [Token.eof (lineAfter 1 source.toList)],
    units.filterMap PlacedUnit.error?⟩

/-- Hands every error to a receiver, line and message, in the order of the source. -/
def report {State : Type} (scan : Scan) (receive : State → UInt32 → String → State)
    (state : State) : State :=
  scan.errors.foldl (fun s e => receive s e.line e.message) state

/-- Scans a source for a receiver of errors: the tokens, and what the receiver has become. -/
def into {State : Type} (source : String) (receive : State → UInt32 → String → State)
    (state : State) : List Token × State :=
  let scan := ofSource source
  (scan.tokens, scan.report receive state)

end Scan
end ScriptScan
