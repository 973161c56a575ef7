import ScriptScan.Proofs.Lines
import ScriptScan.Proofs.Rounding
import ScriptScan.Proofs.TokenContents

/-!
# Numbers shown and read again

The literal of a number is shown in positional digits, without a sign and without an exponent, so
that what is shown is a number of the language again.

* `exists_digits_of_positional`: the positional text of a decimal is a row of digits, or two rows
  with a point between, and they have the value of the decimal.
* `exists_digits_of_text`: so the text of a finite word without a sign is that of a number unit,
  and the digits are read as this word.
* `scan_text_number`: the text of a number unit is one token, and nothing is reported.
* `scan_display_number` puts this together for every number token of every scan.
-/

namespace ScriptScan

/-! ## The digits of a positional text -/

namespace Decimal

theorem isDigit_of_mem_zeros {n : Nat} {c : Char} (member : c ∈ List.replicate n '0') :
    c.isDigit = true := by
  rw [List.eq_of_mem_replicate member]
  rfl

/-- A point is put between two rows of digits. The row behind it has the given length, and
together they have the value of the digits. -/
theorem exists_parts_of_pointed {digits : List Char} (inside : ∀ c ∈ digits, c.isDigit = true)
    (places : Nat) :
    ∃ whole fraction, pointed digits places = whole ++ '.' :: fraction ∧ whole ≠ [] ∧
      (∀ c ∈ whole, c.isDigit = true) ∧ (∀ c ∈ fraction, c.isDigit = true) ∧
      fraction.length = places ∧ value (whole ++ fraction) = value digits := by
  unfold pointed
  split
  · next few =>
    refine ⟨['0'], List.replicate (places - digits.length) '0' ++ digits, rfl,
      List.cons_ne_nil _ _, fun c => isDigit_of_mem_zeros (n := 1), ?_, ?_, ?_⟩
    · intro c member
      rcases List.mem_append.mp member with zero | digit
      · exact isDigit_of_mem_zeros zero
      · exact inside c digit
    · rw [List.length_append, List.length_replicate, Nat.sub_add_cancel few]
    · show value (List.replicate 1 '0' ++ (List.replicate _ '0' ++ digits)) = value digits
      rw [value_zeros_append, value_zeros_append]
  · next many =>
    refine ⟨digits.take (digits.length - places), digits.drop (digits.length - places), rfl,
      ?_, fun c member => inside c (List.mem_of_mem_take member),
      fun c member => inside c (List.mem_of_mem_drop member), ?_, ?_⟩
    · rw [ne_eq, ← List.length_eq_zero_iff, List.length_take]
      omega
    · rw [List.length_drop]
      omega
    · rw [List.take_append_drop]

open LexicalUnit in
/-- The positional text of a decimal is that of a number with the value of the decimal. -/
theorem exists_digits_of_positional (d : Decimal) :
    ∃ whole fraction, (number whole fraction).InGrammar ∧
      d.positional = (number whole fraction).text ∧
      (ofDigits whole fraction).toBinary64 = d.toBinary64 := by
  unfold positional
  split
  · next isWhole =>
    -- A whole number is written out with all its zeros.
    refine ⟨Nat.toDigits 10 d.numerator, [], ⟨Nat.toDigits_ne_nil,
      fun c => isDigit_of_mem_toDigits, List.forall_mem_nil _⟩,
      (text_number_nil _).symm, ?_⟩
    have denominator : d.denominator = 1 := by
      rw [Decimal.denominator, Int.toNat_eq_zero.mpr (Int.neg_nonpos_of_nonneg isWhole)]
    have numerator : (ofDigits (Nat.toDigits 10 d.numerator) []).numerator = d.numerator := by
      show value (_ ++ []) * 1 = d.numerator
      rw [List.append_nil, value_toDigits, Nat.mul_one]
    rw [toBinary64, toBinary64, numerator, denominator]
    rfl
  · next isFraction =>
    obtain ⟨whole, fraction, written, some_digit, whole_inside, fraction_inside, places, same⟩ :=
      exists_parts_of_pointed (fun c => isDigit_of_mem_toDigits (n := d.coefficient))
        (-d.exponent).toNat
    refine ⟨whole, fraction, ⟨some_digit, whole_inside, fraction_inside⟩, ?_, ?_⟩
    · have some_place : fraction ≠ [] := by
        rw [ne_eq, ← List.length_eq_zero_iff, places]
        omega
      rw [written, text, if_neg some_place]
    · have parts : ofDigits whole fraction = d := by
        rw [ofDigits, same, value_toDigits, places, Int.toNat_of_nonneg (by omega), Int.neg_neg]
      rw [parts]

end Decimal

/-! ## The text of a word -/

namespace Binary64

theorem magnitude_ofMagnitude {n : Nat} (bounded : n ≤ infiniteMagnitude) :
    (ofMagnitude n).magnitude = n := by
  rw [magnitude, toNat_bits_ofMagnitude bounded]
  exact Nat.mod_eq_of_lt (Nat.lt_of_le_of_lt bounded infiniteMagnitude_lt_signBit)

/-- The words without a sign that are no NaN are those of the magnitudes up to infinity. -/
theorem exists_ofMagnitude {x : Binary64} (isNumber : x.isNaN = false)
    (noSign : x.isNegative = false) : ∃ n ≤ infiniteMagnitude, x = ofMagnitude n := by
  have small : x.bits.toNat < signBit := Nat.lt_of_not_le (of_decide_eq_false noSign)
  have bounded : x.bits.toNat % signBit ≤ infiniteMagnitude :=
    Nat.le_of_not_lt (of_decide_eq_false isNumber)
  rw [Nat.mod_eq_of_lt small] at bounded
  refine ⟨x.bits.toNat, bounded, ?_⟩
  rw [ofMagnitude, UInt64.ofNat_toNat]

theorem text_ofMagnitude {n : Nat} (bounded : n ≤ infiniteMagnitude) :
    (ofMagnitude n).text = magnitudeText n := by
  have isNumber : (ofMagnitude n).isNaN = false := by
    rw [isNaN, magnitude_ofMagnitude bounded]
    exact decide_eq_false (Nat.not_lt_of_le bounded)
  have noSign : (ofMagnitude n).isNegative = false := by
    rw [isNegative, toNat_bits_ofMagnitude bounded]
    exact decide_eq_false (Nat.not_le_of_lt
      (Nat.lt_of_le_of_lt bounded infiniteMagnitude_lt_signBit))
  rw [text, isNumber, noSign, magnitude_ofMagnitude bounded, if_neg Bool.false_ne_true,
    if_neg Bool.false_ne_true]

open LexicalUnit in
/-- The text of a word that is finite and has no sign is that of a number, whose digits are read
as the word. -/
theorem exists_digits_of_text {x : Binary64} (isNumber : x.isNaN = false)
    (noSign : x.isNegative = false) (finite : x ≠ infinity) :
    ∃ whole fraction, (number whole fraction).InGrammar ∧
      x.text = String.ofList (number whole fraction).text ∧
      (Decimal.ofDigits whole fraction).toBinary64 = x := by
  obtain ⟨n, bounded, rfl⟩ := exists_ofMagnitude isNumber noSign
  have below : n ≠ infiniteMagnitude := by
    rintro rfl
    exact finite rfl
  rw [text_ofMagnitude bounded, magnitudeText, if_neg below]
  by_cases zero : n = 0
  · -- Zero is the one digit; there is no leading digit to search from.
    rw [zero]
    exact ⟨['0'], [], ⟨List.cons_ne_nil _ _, fun c => Decimal.isDigit_of_mem_zeros (n := 1),
      List.forall_mem_nil _⟩, rfl, by decide +kernel⟩
  · obtain ⟨whole, fraction, allowed, written, value⟩ :=
      Decimal.exists_digits_of_positional (shortest n)
    refine ⟨whole, fraction, allowed, ?_, ?_⟩
    · rw [if_neg zero, written]
    · rw [value, toBinary64_shortest bounded]

end Binary64

/-! ## The text of a number is one token -/

open LexicalUnit

theorem newline_not_mem_text_number {whole fraction : List Char}
    (allowed : (number whole fraction).InGrammar) : '\n' ∉ (number whole fraction).text := by
  obtain ⟨-, whole_inside, fraction_inside⟩ := allowed
  have noDigit : ∀ row : List Char, (∀ c ∈ row, c.isDigit = true) → '\n' ∉ row := by
    intro row inside member
    exact absurd (inside '\n' member) (by decide)
  cases fraction with
  | nil =>
    rw [text_number_nil]
    exact noDigit whole whole_inside
  | cons d places =>
    rw [text_number_cons, List.mem_append, List.mem_cons]
    rintro (member | point | member)
    · exact noDigit whole whole_inside member
    · cases point
    · exact noDigit _ fraction_inside member

/-- The text of a number by itself: the number, the end of the source and no report. -/
theorem scan_text_number {whole fraction : List Char}
    (allowed : (number whole fraction).InGrammar) :
    Scan.ofSource (String.ofList (number whole fraction).text)
      = ⟨[⟨.number, String.ofList (number whole fraction).text,
          .number (Decimal.ofDigits whole fraction).toBinary64, 1⟩, Token.eof 1], []⟩ := by
  have lexeme : Lexeme (number whole fraction)
      (.number, String.ofList (number whole fraction).text) := ⟨allowed, rfl⟩
  have alone := ofSource_lexeme_append lexeme (endsBefore_nil lexeme.2)
  rw [List.append_nil, LexicalUnit.ofSource] at alone
  have units : Scan.unitsOf (String.ofList (number whole fraction).text)
      = [⟨number whole fraction, 1⟩] := by
    rw [Scan.unitsOf, alone]
    rfl
  have oneLine := lineAfter_of_not_mem 1 (newline_not_mem_text_number allowed)
  simp only [Scan.ofSource, units, String.toList_ofList, oneLine, List.filterMap_cons,
    List.filterMap_nil, PlacedUnit.token?_number allowed, PlacedUnit.error?_number allowed,
    List.singleton_append]

/-- Every number of a scan that is not infinite is shown as a text that is scanned without a
report, into one number with this text as its lexeme and the same word as its literal. So it is
shown in the same way when it is read again. -/
theorem scan_display_number {source : String} {t : Token}
    (member : t ∈ (Scan.ofSource source).tokens) (isNumber : t.category = .number) :
    ∃ x, t.literal = .number x ∧
      (x = Binary64.infinity ∨
        ((Scan.ofSource t.literal.display).tokens
            = [⟨.number, t.literal.display, .number x, 1⟩, Token.eof 1] ∧
          Scan.calls t.literal.display = [])) := by
  rcases List.mem_append.mp member with inside | last
  · obtain ⟨-, -, -, -, x, -, literal, isValue, noSign⟩ :=
      (Scan.contents_of_mem inside).2.number isNumber
    refine ⟨x, literal, ?_⟩
    by_cases finite : x = Binary64.infinity
    · exact .inl finite
    · obtain ⟨whole, fraction, allowed, written, value⟩ :=
        Binary64.exists_digits_of_text isValue noSign finite
      have scanned := scan_text_number allowed
      rw [← written, value] at scanned
      refine .inr ?_
      rw [literal, Literal.display, Scan.calls_eq, scanned]
      exact ⟨rfl, rfl⟩
  · rw [List.mem_singleton.mp last] at isNumber
    cases isNumber

/-- The exact value of the word nearest to 10 ^ 23, which is shown with the shorter digits of the
power itself. -/
def belowPowerOfTen : Token :=
  ⟨.number, "99999999999999991611392.0", .number ⟨0x44B52D02C7E14AF6⟩, 1⟩

theorem scan_display_number_belowPowerOfTen :
    (belowPowerOfTen ∈ (Scan.ofSource "99999999999999991611392.0").tokens ∧
      belowPowerOfTen.category = .number) ∧
    (Scan.ofSource "100000000000000000000000").tokens
      = [⟨.number, "100000000000000000000000", belowPowerOfTen.literal, 1⟩, Token.eof 1] ∧
    Scan.calls "100000000000000000000000" = [] := by
  have member : belowPowerOfTen ∈ (Scan.ofSource "99999999999999991611392.0").tokens := by
    decide +kernel
  have display : belowPowerOfTen.literal.display = "100000000000000000000000" := by decide +kernel
  obtain ⟨x, literal, infinite | again⟩ := scan_display_number member rfl
  · cases literal
    exact absurd infinite (by decide)
  · rw [display] at again
    rw [literal]
    exact ⟨⟨member, rfl⟩, again⟩

end ScriptScan
