import ScriptScan.Number.Decimal
import ScriptScan.Vocabulary

/-!
# Tokens

A token is a category, the text it was read from, the literal it carries and the line
on which it starts.

The category is an operator, a keyword, one of the three open classes (identifiers, numbers
and strings), or the end of the source. The category `bool` is part of the vocabulary,
though no spelling has it: the truth words are keywords. Of the tokens only numbers, strings
and the two truth words carry a literal.
-/

namespace ScriptScan

/-! ## Literals -/

inductive Literal where
  | number (value : Binary64)
  | string (text : String)
  | bool (value : Bool)
  | absent
  deriving DecidableEq, Repr

namespace Literal

/-- The literal as a token shows it. A string stands for itself, without quotes. -/
def display : Literal → String
  | number value => value.text
  | string text => text
  | bool value => if value then "true" else "false"
  | absent => "nil"

/-- Numbers are compared as values, so a NaN differs from itself; all else by identity. -/
def equal : Literal → Literal → Bool
  | number x, number y => x.equal y
  | string s, string t => s == t
  | bool a, bool b => a == b
  | absent, absent => true
  | _, _ => false

end Literal

/-! ## Categories -/

inductive Category where
  | operator (op : Operator)
  | keyword (word : Keyword)
  | identifier
  | number
  | string
  | bool
  | eof
  deriving DecidableEq, Repr

namespace Category

/-- Every category. -/
def all : List Category :=
  Operator.all.map operator ++ [identifier, string, number, bool] ++
    Keyword.all.map keyword ++ [eof]

/-- The name under which a token shows its category. -/
def name : Category → String
  | operator op => op.name
  | keyword word => word.name
  | identifier => "Identifier"
  | number => "Number"
  | string => "String"
  | bool => "Bool"
  | eof => "Eof"

/-- The category of that name. -/
def ofName? (text : String) : Option Category := all.find? (·.name == text)

/-- The category of a word: its keyword if it is reserved, an identifier otherwise. -/
def ofWord (text : String) : Category :=
  match Keyword.ofSpelling? text with
  | some word => keyword word
  | none => identifier

/-- The literal that a word of the category carries: the truth words have their value. -/
def literal : Category → Literal
  | keyword .trueWord => .bool true
  | keyword .falseWord => .bool false
  | _ => .absent

theorem ofName?_name (category : Category) : ofName? category.name = some category := by
  cases category with
  | operator op => cases op <;> decide
  | keyword word => cases word <;> decide
  | _ => decide

end Category

/-! ## Tokens -/

structure Token where
  category : Category
  lexeme : String
  literal : Literal
  line : UInt32
  deriving DecidableEq, Repr

namespace Token

/-- The token that ends every scan. -/
def eof (line : UInt32) : Token := ⟨.eof, "", .absent, line⟩

/-- Category, lexeme and literal with a space between. -/
def display (t : Token) : String :=
  t.category.name ++ " " ++ t.lexeme ++ " " ++ t.literal.display

/-- Tokens are compared part by part, numbers as values. -/
def equal (s t : Token) : Bool :=
  s.category == t.category && s.lexeme == t.lexeme && s.literal.equal t.literal && s.line == t.line

end Token

end ScriptScan
