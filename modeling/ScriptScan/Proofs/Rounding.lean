import ScriptScan.Number.Decimal

/-!
# Rounding to a word

The word nearest to a fraction depends on the value of the fraction only, and a value that a word
has is rounded to that word.

* `nearest_eq_of_cross`: equal fractions have the same nearest word.
* `nearestMagnitude_units`: a finite magnitude is nearest to its own units.
* `toBinary64_exactDecimal`, `toBinary64_trimmed`: the exact decimal of a magnitude reads back, and
  zeros at the end of a coefficient can be moved into the exponent.
* `toBinary64_shortest`: so the decimal that is searched for a magnitude reads back, wherever the
  search ends.
-/

namespace ScriptScan
namespace Binary64

-- Powers are those of core, also where Mathlib's are in scope.
attribute [local instance (high)] instPowNat

/-! ## Fractions of the same value -/

theorem roundHalfEven_mul_left {k : Nat} (positive : 0 < k) (num den : Nat) :
    roundHalfEven (k * num) (k * den) = roundHalfEven num den := by
  have less : 2 * (k * (num % den)) < k * den ↔ 2 * (num % den) < den := by
    rw [Nat.mul_left_comm, Nat.mul_lt_mul_left positive]
  have half : 2 * (k * (num % den)) = k * den ↔ 2 * (num % den) = den := by
    rw [Nat.mul_left_comm, Nat.mul_right_inj (Nat.ne_of_gt positive)]
  simp only [roundHalfEven, Nat.mul_div_mul_left _ _ positive, Nat.mul_mod_mul_left, less, half]

theorem nearestMagnitude_mul_left {k : Nat} (positive : 0 < k) (num den : Nat) :
    nearestMagnitude (k * num) (k * den) = nearestMagnitude num den := by
  simp only [nearestMagnitude, scaleOf, Nat.mul_div_mul_left _ _ positive, Nat.mul_assoc,
    roundHalfEven_mul_left positive]

theorem nearest_mul_left {k : Nat} (positive : 0 < k) (num den : Nat) :
    nearest (k * num) (k * den) = nearest num den := by
  unfold nearest
  rw [Nat.mul_assoc, nearestMagnitude_mul_left positive]

/-- The nearest word depends on the value of the fraction only. -/
theorem nearest_eq_of_cross {a b c d : Nat} (positive_b : 0 < b) (positive_d : 0 < d)
    (same : a * d = c * b) : nearest a b = nearest c d :=
  calc nearest a b
    _ = nearest (d * a) (d * b) := (nearest_mul_left positive_d a b).symm
    _ = nearest (b * c) (b * d) := by rw [Nat.mul_comm d a, same, Nat.mul_comm c b, Nat.mul_comm d b]
    _ = nearest c d := nearest_mul_left positive_b c d

/-! ## Values that a word has -/

theorem roundHalfEven_one (n : Nat) : roundHalfEven n 1 = n := by
  simp [roundHalfEven, Nat.mod_one]

/-- A significand of 53 bits sets the scale of its value. -/
theorem scaleOf_significand {significand : Nat} (enough : 2 ^ (52 : Nat) ≤ significand)
    (few : significand < 2 ^ (53 : Nat)) (s : Nat) : scaleOf (significand * 2 ^ s) 1 = s := by
  have positive : significand * 2 ^ s ≠ 0 :=
    Nat.ne_of_gt (Nat.mul_pos (Nat.lt_of_lt_of_le (by decide) enough) (Nat.two_pow_pos s))
  have lower : 2 ^ (52 + s) ≤ significand * 2 ^ s := by
    rw [Nat.pow_add]
    exact Nat.mul_le_mul_right _ enough
  have upper : significand * 2 ^ s < 2 ^ (52 + s + 1) := by
    rw [show 52 + s + 1 = 53 + s by omega, Nat.pow_add]
    exact Nat.mul_lt_mul_of_pos_right few (Nat.two_pow_pos s)
  rw [scaleOf, Nat.div_one, (Nat.log2_eq_iff positive).mpr ⟨lower, upper⟩, Nat.add_sub_cancel_left]

theorem scaleOf_units (n : Nat) : scaleOf (units n) 1 = scale n := by
  by_cases small : n < 2 ^ (52 : Nat)
  · -- Below the first normal magnitude the units have fewer bits than a significand.
    have zero : scale n = 0 := by rw [scale, Nat.div_eq_of_lt small]
    rw [units, zero, significand, if_pos small, Nat.pow_zero, Nat.mul_one, scaleOf, Nat.div_one]
    by_cases none_at_all : n = 0
    · rw [none_at_all]
      rfl
    · exact Nat.sub_eq_zero_of_le (Nat.le_of_lt ((Nat.log2_lt none_at_all).mpr small))
  · have below : n % 2 ^ (52 : Nat) < 2 ^ (52 : Nat) := Nat.mod_lt n (Nat.two_pow_pos 52)
    rw [units, significand, if_neg small]
    exact scaleOf_significand (Nat.le_add_right _ _) (by omega) (scale n)

/-- A finite magnitude is nearest to the value that it stands for. -/
theorem nearestMagnitude_units {n : Nat} (finite : n ≤ infiniteMagnitude) :
    nearestMagnitude (units n) 1 = n := by
  have exact_quotient : roundHalfEven (units n) (1 * 2 ^ scale n) = significand n := by
    rw [units, Nat.mul_comm, Nat.mul_comm 1, roundHalfEven_mul_left (Nat.two_pow_pos _),
      roundHalfEven_one]
  rw [nearestMagnitude, scaleOf_units, exact_quotient, magnitude_of_parts,
    Nat.min_eq_left finite]

end Binary64

namespace Decimal

open Binary64

attribute [local instance (high)] instPowNat

/-! ## Decimals of the same value -/

theorem denominator_pos (d : Decimal) : 0 < d.denominator := Nat.pow_pos (by decide)

/-- A zero at the end of the coefficient can be moved into the exponent. -/
theorem toBinary64_mul_ten (c : Nat) (e : Int) :
    toBinary64 ⟨c * 10, e⟩ = toBinary64 ⟨c, e + 1⟩ := by
  refine nearest_eq_of_cross (denominator_pos _) (denominator_pos _) ?_
  show c * 10 * 10 ^ e.toNat * 10 ^ (-(e + 1)).toNat = c * 10 ^ (e + 1).toNat * 10 ^ (-e).toNat
  by_cases whole : 0 ≤ e
  · -- A power of the numerator grows.
    rw [show (e + 1).toNat = e.toNat + 1 by omega, show (-(e + 1)).toNat = (-e).toNat by omega,
      Nat.pow_succ, Nat.mul_assoc c, Nat.mul_comm 10]
  · -- A power of the denominator shrinks.
    rw [show (e + 1).toNat = e.toNat by omega, show (-e).toNat = (-(e + 1)).toNat + 1 by omega,
      Nat.pow_succ, Nat.mul_right_comm c, Nat.mul_assoc (c * 10 ^ e.toNat), Nat.mul_comm 10]

theorem toBinary64_trimmed (d : Decimal) : d.trimmed.toBinary64 = d.toBinary64 := by
  fun_induction trimmed d with
  | case1 d zero_last ih =>
    have coefficient : d.coefficient / 10 * 10 = d.coefficient :=
      Nat.div_mul_cancel (Nat.dvd_of_mod_eq_zero zero_last.2)
    rw [ih, ← toBinary64_mul_ten, coefficient]
  | case2 => rfl

end Decimal

namespace Binary64

/-! ## The decimal of a magnitude -/

attribute [local instance (high)] instPowNat

/-- Moving a power of two into the decimal exponent leaves powers of five behind. -/
theorem nearestMagnitude_five_pow (n k : Nat) :
    nearestMagnitude (n * 5 ^ k * 2 ^ k) (10 ^ k) = nearestMagnitude n 1 := by
  have tens : n * 5 ^ k * 2 ^ k = 10 ^ k * n := by
    rw [Nat.mul_assoc, ← Nat.mul_pow, Nat.mul_comm]
  have scaled := nearestMagnitude_mul_left (Nat.pow_pos (n := k) (show 0 < 10 by decide)) n 1
  rw [Nat.mul_one] at scaled
  rw [tens, scaled]

theorem toBinary64_exactDecimal {n : Nat} (finite : n ≤ infiniteMagnitude) :
    (exactDecimal n).toBinary64 = ofMagnitude n := by
  have value := (nearestMagnitude_five_pow (units n) 1074).trans (nearestMagnitude_units finite)
  have places : (-(exactDecimal n).exponent).toNat = 1074 := rfl
  have numerator : (exactDecimal n).numerator = units n * 5 ^ (1074 : Nat) := Nat.mul_one _
  rw [Decimal.toBinary64, nearest, Decimal.denominator, places, numerator, value]

/-- A decimal that is found on a grid reads back. -/
theorem toBinary64_of_onGrid? {word : Binary64} {num den : Nat} {exponent : Int} {d : Decimal}
    (found : onGrid? word num den exponent = some d) : d.toBinary64 = word := by
  unfold onGrid? at found
  simp only at found
  split at found
  · next below =>
    split at found
    · next above =>
      cases found
      exact above.1
    · cases found
      exact below
  · split at found
    · next above =>
      cases found
      exact above
    · cases found

/-- The decimal of a finite magnitude reads back. -/
theorem toBinary64_shortest {n : Nat} (finite : n ≤ infiniteMagnitude) :
    (shortest n).toBinary64 = ofMagnitude n := by
  unfold shortest
  rw [Decimal.toBinary64_trimmed]
  cases search : (List.range 17).findSome? fun (k : Nat) =>
    onGrid? (ofMagnitude n) (units n) (2 ^ (1074 : Nat))
      (leadingExponent (units n) (2 ^ (1074 : Nat)) - k) with
  | none => exact toBinary64_exactDecimal finite
  | some d =>
    obtain ⟨k, -, found⟩ := List.exists_of_findSome?_eq_some search
    exact toBinary64_of_onGrid? found

end Binary64
end ScriptScan
