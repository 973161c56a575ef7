import ScriptScan.Number.Decimal

/-!
# Values of arguments

What a schema asks of the types of its arguments (`ArgumentType`), and the common types
with the way in which a text is read as one of their values. Reading takes the whole text
or nothing: no blanks, separators or other bases.
-/

namespace ScriptScan
namespace Options

/-- The types `α` of arguments whose values are in `β`. A text is read as a value of a type
or it is not one, and an argument that is not given has the default of its type. A flag
holds a truth value. -/
class ArgumentType (α : Type) (β : outParam Type) where
  read? : α → String → Option β
  default : α → β
  truth : Bool → β

/-- The widths of the whole-number types. -/
inductive Width where
  | w8 | w16 | w32 | w64 | w128
  deriving DecidableEq, Repr

def Width.bits : Width → Nat
  | w8 => 8
  | w16 => 16
  | w32 => 32
  | w64 => 64
  | w128 => 128

/-- A whole-number type of fixed width. -/
structure IntegerType where
  signed : Bool
  width : Width
  deriving DecidableEq, Repr

namespace IntegerType

-- Powers are those of core, also where Mathlib's are in scope.
attribute [local instance (high)] instPowNat

/-- The least number of the type. -/
def least (t : IntegerType) : Int := if t.signed then -(2 ^ (t.width.bits - 1)) else 0

/-- The greatest number of the type. -/
def greatest (t : IntegerType) : Int :=
  if t.signed then 2 ^ (t.width.bits - 1) - 1 else 2 ^ t.width.bits - 1

/-- The number if it belongs to the type. -/
def inRange? (t : IntegerType) (n : Int) : Option Int :=
  if t.least ≤ n ∧ n ≤ t.greatest then some n else none

/-- The value of a row of digits; there is at least one. -/
def magnitude? (digits : List Char) : Option Nat :=
  if digits ≠ [] ∧ digits.all Char.isDigit = true then some (Decimal.value digits) else none

/-- An optional sign and digits. Only a signed type takes a minus, before zero too. -/
def read? (t : IntegerType) : List Char → Option Int
  | '+' :: digits => (magnitude? digits).bind fun n => t.inRange? n
  | '-' :: digits =>
    if t.signed then (magnitude? digits).bind fun n => t.inRange? (-n) else none
  | digits => (magnitude? digits).bind fun n => t.inRange? n

end IntegerType

/-- The types of arguments. -/
inductive ValueType where
  | bool
  | string
  | char
  | float
  | integer (type : IntegerType)
  deriving DecidableEq, Repr

/-- A value of an argument. -/
inductive Value where
  | bool (value : Bool)
  | string (text : String)
  | char (c : Char)
  | float (value : Binary64)
  | integer (value : Int)
  deriving DecidableEq, Repr

/-- The two truth values, in small letters. -/
def readBool? (text : String) : Option Bool :=
  if text = "true" then some true else if text = "false" then some false else none

/-- A text of one character. -/
def readChar? (text : List Char) : Option Char :=
  match text with
  | [c] => some c
  | _ => none

namespace ValueType

/-- The value that a text stands for. -/
def read? (type : ValueType) (text : String) : Option Value :=
  match type with
  | bool => (readBool? text).map .bool
  | string => some (.string text)
  | char => (readChar? text.toList).map .char
  | float => (Binary64.ofText? text.toList).map .float
  | integer t => (t.read? text.toList).map .integer

/-- The value of an argument that is not given. -/
def default : ValueType → Value
  | bool => .bool false
  | string => .string ""
  | char => .char '\x00'
  | float => .float .zero
  | integer _ => .integer 0

instance : ArgumentType ValueType Value := ⟨read?, default, .bool⟩

end ValueType
end Options
end ScriptScan
