import ScriptScan.Text.LetterCase

/-!
# Schemas

A schema says which arguments a program takes. Its fields stand in the order in which
they were declared. A field is given by its place among the bare words, by a spelling
alone, or by a spelling and a value; every field that is not positional has a spelling.

The type of values is a parameter, since the usage text does not depend on it.
-/

namespace ScriptScan
namespace Options

/-- A text that gives an option. It is never empty. -/
structure Spelling where
  text : String
  text_ne : text ≠ "" := by decide
  deriving DecidableEq, Repr

/-- The spelling of a text that is not empty. -/
def Spelling.ofText? (text : String) : Option Spelling :=
  if h : text ≠ "" then some ⟨text, h⟩ else none

/-- A short spelling, a long one or both. -/
inductive Spellings where
  | short (spelling : Spelling)
  | long (spelling : Spelling)
  | both (short long : Spelling)
  deriving DecidableEq, Repr

namespace Spellings

def short? : Spellings → Option Spelling
  | short s => some s
  | long _ => none
  | both s _ => some s

def long? : Spellings → Option Spelling
  | short _ => none
  | long l => some l
  | both _ l => some l

/-- The spellings that are there, if there is one. -/
def ofOptions? : Option Spelling → Option Spelling → Option Spellings
  | some s, some l => some (both s l)
  | some s, none => some (short s)
  | none, some l => some (long l)
  | none, none => none

/-- The spelling by which messages call the option: the long one if there is one. -/
def main : Spellings → Spelling
  | short s => s
  | long l => l
  | both _ l => l

/-- The argument is one of the spellings. -/
def contains (spellings : Spellings) (arg : String) : Bool :=
  spellings.short?.any (·.text == arg) || spellings.long?.any (·.text == arg)

end Spellings

/-- What a value of a field is read as, and whether the field may stay without one. -/
structure Content (α : Type) where
  type : α
  optional : Bool
  deriving DecidableEq, Repr

/-- How a field is given. -/
inductive Role (α : Type) where
  /-- By a bare word. -/
  | positional (content : Content α)
  /-- By a spelling alone. -/
  | flag (spellings : Spellings)
  /-- By a spelling and the argument behind it. -/
  | option (spellings : Spellings) (content : Content α)
  deriving DecidableEq, Repr

namespace Role

variable {α : Type}

def spellings? : Role α → Option Spellings
  | positional _ => none
  | flag spellings => some spellings
  | option spellings _ => some spellings

def content? : Role α → Option (Content α)
  | positional content => some content
  | flag _ => none
  | option _ content => some content

def isPositional : Role α → Bool
  | positional _ => true
  | _ => false

end Role

/-- One argument of a program. -/
structure Field (α : Type) where
  name : String
  description : String
  required : Bool
  role : Role α
  deriving DecidableEq, Repr

namespace Field

variable {α : Type}

def isPositional (f : Field α) : Bool := f.role.isPositional

/-- A field without spellings is positional, and no other one is. -/
theorem spellings?_eq_none_iff {f : Field α} :
    f.role.spellings? = none ↔ f.isPositional = true := by
  unfold isPositional
  cases f.role <;> simp [Role.spellings?, Role.isPositional]

theorem exists_spellings {f : Field α} (option : f.isPositional = false) :
    ∃ spellings, f.role.spellings? = some spellings := by
  refine Option.ne_none_iff_exists'.mp fun none_there => ?_
  rw [spellings?_eq_none_iff.mp none_there] at option
  cases option

/-- The argument is a spelling of the field. -/
def isSpelled (f : Field α) (arg : String) : Bool := f.role.spellings?.any (·.contains arg)

/-- The name in upper case, as usage texts and messages show it. -/
def upperName (f : Field α) : String := Text.upper f.name

/-- How messages call the field: a positional one by its name, an option by its spelling. -/
def displayName (f : Field α) : String :=
  match f.role.spellings? with
  | some spellings => spellings.main.text
  | none => f.upperName

end Field

/-- The arguments of a program. -/
structure Schema (α : Type) where
  program : String
  description : String
  fields : List (Field α)
  deriving DecidableEq, Repr

namespace Schema

variable {α : Type}

/-- The fields with their places in the declaration. -/
def indexed (schema : Schema α) : List (Field α × Nat) := schema.fields.zipIdx

/-- The first field that the argument is a spelling of. -/
def spelled? (schema : Schema α) (arg : String) : Option (Field α × Nat) :=
  schema.indexed.find? fun f => f.1.isSpelled arg

/-- The positional fields in order. -/
def positionals (schema : Schema α) : List (Field α × Nat) :=
  schema.indexed.filter fun f => f.1.isPositional

end Schema
end Options
end ScriptScan
