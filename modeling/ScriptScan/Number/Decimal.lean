import ScriptScan.Number.Binary64

/-!
# Decimals

A decimal is a whole number times a power of ten. This file holds

1. its exact value as a fraction and the nearest binary64 word (`Decimal.toBinary64`),
2. the digits of a number in the source of a script (`Decimal.ofDigits`),
3. its positional text, which has no exponent (`Decimal.positional`),
4. the texts that stand for a binary64 value (`Binary64.ofText?`),
5. the shortest decimal text of a binary64 value (`Binary64.text`).
-/

namespace ScriptScan

/-- The number `coefficient * 10 ^ exponent`. -/
structure Decimal where
  coefficient : Nat
  exponent : Int
  deriving DecidableEq, Repr

namespace Decimal

-- Powers are those of core, also where Mathlib's are in scope.
attribute [local instance (high)] instPowNat

/-! ## 1. Value -/

def numerator (d : Decimal) : Nat := d.coefficient * 10 ^ d.exponent.toNat

def denominator (d : Decimal) : Nat := 10 ^ (-d.exponent).toNat

/-- The binary64 word nearest to the decimal. -/
def toBinary64 (d : Decimal) : Binary64 := Binary64.nearest d.numerator d.denominator

/-! ## 2. Digits -/

/-- The value of a row of decimal digits. -/
def value (digits : List Char) : Nat := Nat.ofDigitChars 10 digits 0

theorem isDigit_of_mem_toDigits {n : Nat} {c : Char} (member : c ∈ Nat.toDigits 10 n) :
    c.isDigit = true :=
  Nat.isDigit_of_mem_toDigits (by decide) (by decide) member

theorem value_toDigits (n : Nat) : value (Nat.toDigits 10 n) = n := Nat.ofDigitChars_ten_toDigits

/-- Zeros in front do not change the value. -/
theorem value_zeros_append (n : Nat) (digits : List Char) :
    value (List.replicate n '0' ++ digits) = value digits := by
  unfold value
  rw [Nat.ofDigitChars_append, Nat.ofDigitChars_replicate_zero, Nat.mul_zero]

/-- The decimal that digits before and after a point stand for. -/
def ofDigits (whole fraction : List Char) : Decimal :=
  ⟨value (whole ++ fraction), -(fraction.length : Int)⟩

/-! ## 3. Positional text -/

/-- Digits with the point after the given number of places counted from the right; a
zero stands before a point that would come first. -/
def pointed (digits : List Char) (places : Nat) : List Char :=
  if digits.length ≤ places then
    '0' :: '.' :: (List.replicate (places - digits.length) '0' ++ digits)
  else
    digits.take (digits.length - places) ++ '.' :: digits.drop (digits.length - places)

/-- The text without an exponent: zeros fill up a whole number, and a point stands
before the places of a fraction. -/
def positional (d : Decimal) : List Char :=
  if 0 ≤ d.exponent then Nat.toDigits 10 d.numerator
  else pointed (Nat.toDigits 10 d.coefficient) (-d.exponent).toNat

/-- The same number without zeros at the end of its coefficient. -/
def trimmed (d : Decimal) : Decimal :=
  if d.coefficient ≠ 0 ∧ d.coefficient % 10 = 0 then
    trimmed ⟨d.coefficient / 10, d.exponent + 1⟩
  else d
  termination_by d.coefficient
  decreasing_by omega

end Decimal

/-! ## 4. Reading a text

An optional sign, then a name of infinity or NaN in any case, or decimal digits with an
optional point and an optional exponent. At least one digit stands before or after the
point. The value is the nearest word. -/

namespace Decimal

/-- A sign and the text behind it; the sign is true for minus. -/
def splitSign : List Char → Bool × List Char
  | '-' :: rest => (true, rest)
  | '+' :: rest => (false, rest)
  | text => (false, text)

/-- The digits behind a point, and what follows them. -/
def splitFraction : List Char → List Char × List Char
  | '.' :: rest => (rest.takeWhile Char.isDigit, rest.dropWhile Char.isDigit)
  | text => ([], text)

/-- The exponent behind the digits of a number; nothing at all is the exponent zero. -/
def exponentOfText? : List Char → Option Int
  | [] => some 0
  | mark :: rest =>
    let (negative, digits) := splitSign rest
    if mark.toLower == 'e' && digits != [] && digits.all Char.isDigit then
      some (if negative then -(value digits : Int) else value digits)
    else none

/-- The exponent brought into the range that matters for so many digits: beyond it every
nonzero number is infinite or rounds to zero. -/
def boundedExponent (digits : Nat) (exponent : Int) : Int :=
  max (-(digits + 400 : Int)) (min exponent (digits + 400))

/-- The decimal that an unsigned text stands for. -/
def ofText? (text : List Char) : Option Decimal :=
  let whole := text.takeWhile Char.isDigit
  let (fraction, rest) := splitFraction (text.dropWhile Char.isDigit)
  if whole ++ fraction = [] then none
  else
    (exponentOfText? rest).map fun exponent =>
      let d := ofDigits whole fraction
      ⟨d.coefficient, d.exponent + boundedExponent (whole ++ fraction).length exponent⟩

end Decimal

namespace Binary64

/-- The values that have a name, in any case of its letters. -/
def ofName? (text : List Char) : Option Binary64 :=
  let name := String.ofList (text.map Char.toLower)
  if name = "inf" ∨ name = "infinity" then some infinity
  else if name = "nan" then some nan
  else none

/-- The value of a text without a sign. -/
def ofUnsigned? (text : List Char) : Option Binary64 :=
  match ofName? text with
  | some x => some x
  | none => (Decimal.ofText? text).map Decimal.toBinary64

/-- The value that the whole text stands for, if it stands for one. -/
def ofText? (text : List Char) : Option Binary64 :=
  let (negative, rest) := Decimal.splitSign text
  if negative then (ofUnsigned? rest).map neg else ofUnsigned? rest

end Binary64

/-! ## 5. Shortest decimal text

The text of a binary64 value is the shortest decimal that reads back as the same
value. Of two decimals of that length that both read back the nearer one is taken,
and the larger one when the value lies halfway.

The search tries the grids of one to seventeen digits in turn. On each grid only the
two neighbours of the value can be nearest to it, and each is tried by reading it
back. -/

namespace Binary64

-- Powers are those of core, also where Mathlib's are in scope.
attribute [local instance (high)] instPowNat

/-- The number of decimal digits of a whole number. -/
def digitCount (n : Nat) : Nat := (Nat.toDigits 10 n).length

/-- The exponent of the first decimal digit of a positive fraction. -/
def leadingExponent (num den : Nat) : Int :=
  if den ≤ num then (digitCount (num / den) : Int) - 1
  else -(digitCount ((den - 1) / num) : Int)

/-- The neighbour of `num / den` on the grid of multiples of `10 ^ exponent` that reads
back as the given word: the nearer one if both do. -/
def onGrid? (word : Binary64) (num den : Nat) (exponent : Int) : Option Decimal :=
  let top := num * 10 ^ (-exponent).toNat
  let bottom := den * 10 ^ exponent.toNat
  let below : Decimal := ⟨top / bottom, exponent⟩
  let above : Decimal := ⟨top / bottom + 1, exponent⟩
  if below.toBinary64 = word then
    if above.toBinary64 = word ∧ bottom ≤ 2 * (top % bottom) then some above else some below
  else if above.toBinary64 = word then some above
  else none

/-- The exact decimal of a finite magnitude. -/
def exactDecimal (magnitude : Nat) : Decimal := ⟨units magnitude * 5 ^ (1074 : Nat), -1074⟩

/-- The shortest decimal that reads back as a positive finite magnitude. -/
def shortest (magnitude : Nat) : Decimal :=
  let num := units magnitude
  let den := 2 ^ (1074 : Nat)
  let first := leadingExponent num den
  let found := (List.range 17).findSome? fun (k : Nat) =>
    onGrid? (ofMagnitude magnitude) num den (first - k)
  (found.getD (exactDecimal magnitude)).trimmed

/-- The text of a value without its sign. -/
def magnitudeText (magnitude : Nat) : String :=
  if magnitude = infiniteMagnitude then "inf"
  else if magnitude = 0 then "0"
  else String.ofList (shortest magnitude).positional

/-- The text of a value: positional, without a trailing point or zeros. -/
def text (x : Binary64) : String :=
  if x.isNaN then "NaN"
  else if x.isNegative then "-" ++ magnitudeText x.magnitude
  else magnitudeText x.magnitude

end Binary64

end ScriptScan
