/-!
# Log records

The program tells what it does in records of a level. A filter decides which of them are
written. It is a list of directives, each a level, a name, or a name and a level; of the
directives whose name begins the name of the program the one with the longest name
counts, and without directives only errors are written.

Two parts of a filter are left out. Behind a slash it can have a pattern, and then only the
records whose text fits are written; filters with a slash are not read here as they are
meant. And each directive that cannot be read is warned about on standard error; here it is
only left out.
-/

namespace ScriptScan
namespace Program

/-- The levels of a filter, from silence to everything. -/
inductive Level where
  | off | error | warn | info | debug | trace
  deriving DecidableEq, Repr

namespace Level

def all : List Level := [off, error, warn, info, debug, trace]

def rank : Level → Nat
  | off => 0
  | error => 1
  | warn => 2
  | info => 3
  | debug => 4
  | trace => 5

def name : Level → String
  | off => "OFF"
  | error => "ERROR"
  | warn => "WARN"
  | info => "INFO"
  | debug => "DEBUG"
  | trace => "TRACE"

/-- The level of that name, in any case of its letters. -/
def ofName? (text : List Char) : Option Level :=
  all.find? fun level => level.name.toList == text.map Char.toUpper

end Level

/-- The name under which the program writes its records. -/
def target : List Char := "treko".toList

/-- One line of the log. -/
structure Record where
  level : Level
  text : String
  deriving DecidableEq, Repr

namespace Record

/-- A line break in a record is followed by an indent. -/
def indented : List Char → List Char
  | [] => []
  | c :: rest => (if c = '\n' then ['\n', ' ', ' ', ' ', ' '] else [c]) ++ indented rest

/-- The record as it is written: its level and the name of the program, then its text. -/
def line (r : Record) : String :=
  "[" ++ r.level.name ++ " " ++ String.ofList target ++ "] " ++
    String.ofList (indented r.text.toList)

end Record

/-! ## Filters -/

/-- A level for the programs whose names begin with the given one. -/
structure Directive where
  name : List Char
  level : Level
  deriving DecidableEq, Repr

/-- Text without blanks at its ends. -/
def trimmed (text : List Char) : List Char :=
  ((text.dropWhile Char.isWhitespace).reverse.dropWhile Char.isWhitespace).reverse

/-- A directive: a level alone is for every name, and a name alone allows everything. -/
def Directive.ofText? (text : List Char) : Option Directive :=
  match (trimmed text).splitOn '=' with
  | [single] =>
    if single = [] then none
    else
      match Level.ofName? (trimmed single) with
      | some level => some ⟨[], level⟩
      | none => some ⟨single, .trace⟩
  | [name, level] =>
    if trimmed level = [] then some ⟨name, .trace⟩
    else (Level.ofName? (trimmed level)).map fun found => ⟨trimmed name, found⟩
  | _ => none

/-- The directives of a filter, in order. -/
structure LogFilter where
  directives : List Directive
  deriving DecidableEq, Repr

namespace LogFilter

/-- The filter of a text without a slash. Directives stand between commas, and those that
cannot be read are left out, without the warning about them. -/
def ofText (text : String) : LogFilter :=
  ⟨(text.toList.splitOn ',').filterMap Directive.ofText?⟩

/-- The directive with the longer name, or the later one of two. -/
def longer (best : Option Directive) (next : Directive) : Option Directive :=
  match best with
  | none => some next
  | some found => if found.name.length ≤ next.name.length then some next else some found

/-- The directive that counts for the program. -/
def directive? (filter : LogFilter) : Option Directive :=
  (filter.directives.filter fun d => d.name.isPrefixOf target).foldl longer none

/-- The level up to which records are written. -/
def level (filter : LogFilter) : Level :=
  if filter.directives = [] then .error
  else ((filter.directive?).map Directive.level).getD .off

/-- A record of the level is written. -/
def allows (filter : LogFilter) (level : Level) : Bool := level.rank ≤ filter.level.rank

/-- The filter of the settings; only errors are written without one. -/
def ofSetting (setting : Option String) : LogFilter := ofText (setting.getD "")

end LogFilter
end Program
end ScriptScan
