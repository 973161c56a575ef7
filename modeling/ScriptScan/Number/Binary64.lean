/-!
# Binary64 words

A number of the language is a binary64 word. This file holds

1. the word itself, its sign and its magnitude,
2. equality of the values that two words stand for (`Binary64.equal`),
3. rounding of an exact fraction to the nearest word (`Binary64.nearest`).

A finite magnitude `n` stands for `significand n * 2 ^ scale n / 2 ^ 1074`, and
`magnitude_of_parts` puts the two parts together again.
-/

namespace ScriptScan

/-- A binary64 value, kept as its word so that signed zeros and the payload of a
NaN stay apart. -/
structure Binary64 where
  bits : UInt64
  deriving DecidableEq, Repr

namespace Binary64

-- Powers are those of core, also where Mathlib's are in scope.
attribute [local instance (high)] instPowNat

/-! ## 1. Words -/

/-- The sign bit alone. -/
def signBit : Nat := 2 ^ (63 : Nat)

/-- The magnitude of infinity. A larger magnitude is a NaN. -/
def infiniteMagnitude : Nat := 2047 * 2 ^ (52 : Nat)

/-- The word without its sign bit. -/
def magnitude (x : Binary64) : Nat := x.bits.toNat % signBit

/-- The sign bit is set. -/
def isNegative (x : Binary64) : Bool := signBit ≤ x.bits.toNat

def isNaN (x : Binary64) : Bool := infiniteMagnitude < x.magnitude

/-- The word of a magnitude, with the sign bit clear. -/
def ofMagnitude (n : Nat) : Binary64 := ⟨UInt64.ofNat n⟩

def zero : Binary64 := ofMagnitude 0

def infinity : Binary64 := ofMagnitude infiniteMagnitude

/-- The quiet NaN without payload. -/
def nan : Binary64 := ofMagnitude (infiniteMagnitude + 2 ^ (51 : Nat))

/-- The word with its sign bit flipped. -/
def neg (x : Binary64) : Binary64 := ⟨x.bits ^^^ UInt64.ofNat signBit⟩

/-! ## 2. Equality of values -/

/-- A NaN equals nothing, the two zeros are equal, and otherwise the words decide. -/
def equal (x y : Binary64) : Bool :=
  !x.isNaN && !y.isNaN && (x.bits == y.bits || (x.magnitude == 0 && y.magnitude == 0))

/-! ## 3. Rounding to the nearest word -/

/-- The whole number that a finite magnitude scales: below the first normal
magnitude the fraction alone, above it with the hidden bit. -/
def significand (n : Nat) : Nat :=
  if n < 2 ^ (52 : Nat) then n else 2 ^ (52 : Nat) + n % 2 ^ (52 : Nat)

/-- The power of two that a finite magnitude scales by, counted from `2 ^ -1074`. -/
def scale (n : Nat) : Nat := n / 2 ^ (52 : Nat) - 1

/-- The units of `2 ^ -1074` in a finite magnitude. -/
def units (n : Nat) : Nat := significand n * 2 ^ scale n

/-- The quotient rounded to the nearest whole number, a half to the even neighbour. -/
def roundHalfEven (num den : Nat) : Nat :=
  let whole := num / den
  let rest := num % den
  if 2 * rest < den ∨ (2 * rest = den ∧ whole % 2 = 0) then whole else whole + 1

/-- The scale at which a fraction of units of `2 ^ -1074` has at most 53 bits. -/
def scaleOf (num den : Nat) : Nat := (num / den).log2 - 52

/-- The magnitude nearest to `num / den`, in units of `2 ^ -1074`. A significand that
rounds up to 54 bits carries into the scale. -/
def nearestMagnitude (num den : Nat) : Nat :=
  let s := scaleOf num den
  min (s * 2 ^ (52 : Nat) + roundHalfEven num (den * 2 ^ s)) infiniteMagnitude

/-- The word nearest to the fraction `num / den`, ties to the even significand; what is
too large becomes infinity and what is too small zero. -/
def nearest (num den : Nat) : Binary64 :=
  ofMagnitude (nearestMagnitude (num * 2 ^ (1074 : Nat)) den)

/-- A magnitude is its significand and its scale, put side by side. -/
theorem magnitude_of_parts (n : Nat) : scale n * 2 ^ (52 : Nat) + significand n = n := by
  unfold scale significand
  split <;> omega

end Binary64
end ScriptScan
