import ScriptScan.Proofs.Slices
import ScriptScan.Scan

/-!
# A cursor over the bytes of a source

A scan can be run by a cursor, which holds two offsets and two lines: those of the unit that is
being read, and its own. It sees the source through slices only, and it goes from character to
character in loops: one takes a unit with each turn, and comments, strings, digits and words
have loops of their own.

`Cursor.step` is one turn of the loop that the cursor is in, so its states are the heads of
these loops. A bad slice stops it. `Cursor.Reached` are the heads that a scan comes to,
`Cursor.Walks` is a scan from a head to the end of the source.
-/

namespace ScriptScan

/-- The loops of a scan. A number has one for the digits before its point and one for those
behind. -/
inductive Loop where
  | units
  | comment
  | string
  | whole
  | fraction
  | word
  deriving DecidableEq, Repr

/-- The characters that keep a scan in the loop. -/
def Loop.goesOn : Loop → Char → Bool
  | units, _ => false
  | comment, c => c != '\n'
  | string, c => c != '"'
  | whole, c => c.isDigit
  | fraction, c => c.isDigit
  | word, c => LexicalUnit.isWordPart c

/-- What a scan holds at the head of a loop. -/
structure Cursor where
  loop : Loop
  /-- The offset at which the unit starts. -/
  start : Nat
  /-- The offset of the next character. -/
  current : Nat
  line : UInt32
  /-- The line on which the unit starts. -/
  startLine : UInt32
  tokens : List Token
  errors : List LexicalError
  deriving DecidableEq, Repr

namespace Cursor

def initial : Cursor := ⟨.units, 0, 0, 1, 1, [], []⟩

variable (source : String)

/-! ## Reading characters -/

/-- The text behind the cursor. -/
def ahead (c : Cursor) : Except BadSlice String := slice source c.current source.utf8ByteSize

/-- The next character, if there is one. -/
def peek (c : Cursor) : Except BadSlice (Option Char) := do
  return (← c.ahead source).toList.head?

/-- The character behind the next one. -/
def peekSecond (c : Cursor) : Except BadSlice (Option Char) := do
  return (← c.ahead source).toList[1]?

def behind (c : Cursor) (char : Char) : Cursor := { c with current := c.current + char.utf8Size }

/-- Reads a character and goes on behind it. At the end of the source the cursor stays. -/
def advance (c : Cursor) : Except BadSlice (Option Char × Cursor) := do
  match ← c.peek source with
  | some char => return (some char, c.behind char)
  | none => return (none, c)

/-- Goes on behind the expected character, if it is the next one. -/
def expect? (c : Cursor) (expected : Char) : Except BadSlice (Option Cursor) := do
  if (← c.peek source) = some expected then return some (c.behind expected) else return none

/-! ## The end of a unit -/

/-- Adds a token of the text that has been read. -/
def addToken (c : Cursor) (category : Category) (literal : Literal) : Except BadSlice Cursor := do
  let lexeme ← slice source c.start c.current
  return { c with
    loop := .units, tokens := c.tokens ++ [⟨category, lexeme, literal, c.startLine⟩] }

def addError (c : Cursor) (line : UInt32) (problem : LexicalProblem) : Cursor :=
  { c with loop := .units, errors := c.errors ++ [⟨line, problem⟩] }

/-- Behind the text of a string. The content of a token stands between the two quotes. -/
def endString (c : Cursor) : Except BadSlice Cursor := do
  if source.utf8ByteSize ≤ c.current then return c.addError c.line .unterminatedString
  let (_, c) ← c.advance source
  let content ← slice source (c.start + 1) (c.current - 1)
  c.addToken source .string (.string content)

def endNumber (c : Cursor) : Except BadSlice Cursor := do
  let lexeme ← slice source c.start c.current
  match Binary64.ofText? lexeme.toList with
  | some value => c.addToken source .number (.number value)
  | none => return c.addError c.startLine (.malformedNumber lexeme)

/-- A point belongs to the number when a digit follows it. -/
def startsFraction (c : Cursor) : Except BadSlice Bool := do
  if (← c.peek source) = some '.' then return (← c.peekSecond source).any Char.isDigit
  else return false

/-- Behind the digits of a number that may have a fraction. -/
def endWhole (c : Cursor) : Except BadSlice Cursor := do
  if ← c.startsFraction source then return { (← c.advance source).2 with loop := .fraction }
  else c.endNumber source

def endWord (c : Cursor) : Except BadSlice Cursor := do
  let category := Category.ofWord (← slice source c.start c.current)
  c.addToken source category category.literal

/-- Leaves the loop of a unit. -/
def leave (c : Cursor) : Except BadSlice Cursor :=
  match c.loop with
  | .units | .comment => return { c with loop := .units }
  | .string => c.endString source
  | .whole => c.endWhole source
  | .fraction => c.endNumber source
  | .word => c.endWord source

/-! ## One turn of a loop -/

/-- One turn of the loop of a unit. The only loop that goes on at a line break is that of a
string. -/
def goOn (c : Cursor) : Except BadSlice Cursor := do
  match ← c.peek source with
  | some char =>
    if c.loop.goesOn char then
      let line := if char = '\n' then c.line + 1 else c.line
      return (← { c with line := line }.advance source).2
    else c.leave source
  | none => c.leave source

/-- An operator of one character, or the longer one that an equals sign makes of it. -/
def readOperator (c : Cursor) (char : Char) (op : Operator) : Except BadSlice Cursor := do
  match Operator.ofSpelling? [char, '='] with
  | some longer =>
    match ← c.expect? source '=' with
    | some c => c.addToken source (.operator longer) .absent
    | none => c.addToken source (.operator op) .absent
  | none => c.addToken source (.operator op) .absent

/-- Two slashes start a comment, a single one is an operator. -/
def readSlash (c : Cursor) : Except BadSlice Cursor := do
  match ← c.expect? source '/' with
  | some c => return { c with loop := .comment }
  | none => c.addToken source (.operator .slash) .absent

/-- A character that starts no operator is a unit of its own, or there is a loop for the rest
of the unit. -/
def readOther (c : Cursor) (char : Char) : Cursor :=
  if char = ' ' ∨ char = '\t' ∨ char = '\r' then c
  else if char = '\n' then { c with line := c.line + 1 }
  else if char = '"' then { c with loop := .string }
  else if char.isDigit then { c with loop := .whole }
  else if LexicalUnit.isWordStart char then { c with loop := .word }
  else c.addError c.line (.unexpectedCharacter char)

/-- Behind the first character of a unit. -/
def readUnit (c : Cursor) (char : Char) : Except BadSlice Cursor :=
  if char = '/' then c.readSlash source
  else
    match Operator.ofSpelling? [char] with
    | some op => c.readOperator source char op
    | none => return c.readOther char

/-- One turn of the loop over the units. -/
def nextUnit (c : Cursor) : Except BadSlice Cursor := do
  match ← { c with start := c.current, startLine := c.line }.advance source with
  | (some char, c) => c.readUnit source char
  | (none, c) => return c

/-- What a turn leads to: the head of a loop, or the end of the scan. -/
inductive Motion where
  | goesTo (c : Cursor)
  | ends (scan : Scan)
  deriving DecidableEq, Repr

/-- One turn of the loop at whose head the cursor is. -/
def step (c : Cursor) : Except BadSlice Motion :=
  match c.loop with
  | .units =>
    if source.utf8ByteSize ≤ c.current then
      return .ends ⟨c.tokens ++ [Token.eof c.line], c.errors⟩
    else return .goesTo (← c.nextUnit source)
  | _ => return .goesTo (← c.goOn source)

/-! ## Scans -/

/-- The heads that a scan of the source comes to. -/
inductive Reached : Cursor → Prop
  | initial : Reached initial
  | step {c d : Cursor} : Reached c → c.step source = .ok (.goesTo d) → Reached d

/-- A scan from a head to the end of the source, with all the heads on the way and what the
scan leaves. -/
inductive Walks : Cursor → List Cursor → Scan → Prop
  | ends {c : Cursor} {scan : Scan} : c.step source = .ok (.ends scan) → Walks c [c] scan
  | goesTo {c d : Cursor} {heads : List Cursor} {scan : Scan} :
      c.step source = .ok (.goesTo d) → Walks d heads scan → Walks c (c :: heads) scan

end Cursor
end ScriptScan
