import ScriptScan.Options.Schema

/-!
# Usage texts

The usage text of a schema: a line with the positional fields, the description of the
program, and a row for every option in the order of declaration. Help comes last.
-/

namespace ScriptScan

namespace Text

/-! ## Columns

A text in a column is filled up with spaces on the right. Its width is its number of
characters, and a text that is too wide is not cut. -/

/-- The text, filled up to the width. -/
def padRight (width : Nat) (text : String) : String :=
  text ++ String.ofList (List.replicate (width - text.length) ' ')

theorem toList_padRight (width : Nat) (text : String) :
    (padRight width text).toList = text.toList ++ List.replicate (width - text.length) ' ' := by
  simp [padRight]

end Text

namespace Options

/-! ## Rows and lines -/

/-- A row of the table of options. -/
structure UsageRow where
  short : String
  long : String
  parameter : String
  description : String
  deriving DecidableEq, Repr

namespace UsageRow

/-- The spellings and the parameter stand in columns, the description behind them. -/
def text (row : UsageRow) : String :=
  "   " ++ Text.padRight 4 row.short ++ " " ++ Text.padRight 16 row.long ++ " " ++
    Text.padRight 10 row.parameter ++ " " ++ row.description

/-- The row of the help option, which every program has. -/
def help : UsageRow := ⟨"-h", "--help", "", "Displays help"⟩

end UsageRow

namespace Field

variable {α : Type}

/-- A name between angle brackets. -/
def angled (name : String) : String := "<" ++ name ++ ">"

/-- The row of an option. A flag has no parameter, and a positional field no row. -/
def usageRow? (f : Field α) : Option UsageRow :=
  f.role.spellings?.map fun spellings =>
    { short := (spellings.short?.map Spelling.text).getD ""
      long := (spellings.long?.map Spelling.text).getD ""
      parameter := if f.role.content?.isSome then angled f.upperName else ""
      description := if f.required then f.description ++ " (Required)" else f.description }

/-- A positional field on the first line: in brackets unless it is required. -/
def usageWord (f : Field α) : String :=
  if f.required then angled f.displayName else "[" ++ f.displayName ++ "]"

end Field

namespace Schema

variable {α : Type}

/-- The line with the name of the program and its positional fields. -/
def usageLine (schema : Schema α) : String :=
  "Usage: " ++ schema.program ++ " [OPTIONS]" ++
    String.join (schema.positionals.map fun f => " " ++ f.1.usageWord)

/-- The rows of the table of options. -/
def usageRows (schema : Schema α) : List UsageRow :=
  schema.fields.filterMap Field.usageRow? ++ [.help]

/-- The description as a paragraph of its own, if there is one. -/
def usageDescription (schema : Schema α) : String :=
  if schema.description = "" then "" else "\n\n" ++ schema.description

/-- The whole text, without a line break at its end. -/
def usage (schema : Schema α) : String :=
  schema.usageLine ++ schema.usageDescription ++ "\n\nOptions:\n" ++
    "\n".intercalate (schema.usageRows.map UsageRow.text)

end Schema
end Options
end ScriptScan
