import ScriptScan.Vocabulary

/-!
# Lexical units

The source of a script falls into units: blanks, comments, operators, strings, numbers
and words, and where none of these stands, a stray character or a string that is never
closed. A unit is the longest match at its place.

`LexicalUnit.text` writes a unit down, `LexicalUnit.cut` takes one off the source, and
`LexicalUnit.ofSource` takes off all of them. This file proves the following.
* Nothing is lost or added by a cut (`text_cut`), so the units of a source are its text
  (`text_ofSource`).
* Every unit has a character (`text_ne_nil`), so a cut makes the source shorter
  (`length_cut_lt`).
-/

namespace ScriptScan

inductive LexicalUnit where
  /-- A space, a tab or a character of a line break. -/
  | blank (c : Char)
  /-- Two slashes and the rest of the line. -/
  | comment (text : List Char)
  | operator (op : Operator)
  /-- The text between two quotes. A quote cannot be escaped. -/
  | string (content : List Char)
  /-- Digits, and the digits behind a point if there are any. -/
  | number (whole fraction : List Char)
  | word (letters : List Char)
  /-- A character that starts no other unit. -/
  | stray (c : Char)
  /-- A quote without a partner and all the text behind it. -/
  | unclosed (content : List Char)
  deriving DecidableEq, Repr

namespace LexicalUnit

/-! ## Characters -/

/-- The blanks between tokens. -/
def isBlank (c : Char) : Bool := c == ' ' || c == '\t' || c == '\r' || c == '\n'

/-- The letters of ASCII and the underscore start a word. -/
def isWordStart (c : Char) : Bool := c.isAlpha || c == '_'

/-- A word goes on with letters, digits and underscores. -/
def isWordPart (c : Char) : Bool := c.isAlphanum || c == '_'

/-! ## Writing a unit -/

/-- The characters of the unit in the source. -/
def text : LexicalUnit → List Char
  | blank c => [c]
  | comment text => '/' :: '/' :: text
  | operator op => op.spelling
  | string content => '"' :: (content ++ ['"'])
  | number whole fraction => if fraction = [] then whole else whole ++ '.' :: fraction
  | word letters => letters
  | stray c => [c]
  | unclosed content => '"' :: content

/-! ## Taking a unit off the source -/

/-- The longest operator at the head of a source. -/
def cutOperator? (c : Char) : List Char → Option (Operator × List Char)
  | [] => (Operator.ofSpelling? [c]).map (·, [])
  | d :: rest =>
    match Operator.ofSpelling? [c, d] with
    | some op => some (op, rest)
    | none => (Operator.ofSpelling? [c]).map (·, d :: rest)

/-- The text behind an opening quote: a string if there is a closing one. -/
def cutQuoted (source : List Char) : LexicalUnit × List Char :=
  match source.dropWhile (· != '"') with
  | [] => (unclosed source, [])
  | _ :: rest => (string (source.takeWhile (· != '"')), rest)

/-- The digits behind a point. A point that no digit follows is left to the next unit. -/
def cutFraction : List Char → List Char × List Char
  | '.' :: c :: rest =>
    if c.isDigit then ((c :: rest).takeWhile Char.isDigit, (c :: rest).dropWhile Char.isDigit)
    else ([], '.' :: c :: rest)
  | source => ([], source)

/-- A number whose first digit is given. -/
def cutNumber (c : Char) (source : List Char) : LexicalUnit × List Char :=
  let (fraction, rest) := cutFraction (source.dropWhile Char.isDigit)
  (number (c :: source.takeWhile Char.isDigit) fraction, rest)

/-- The first unit of a source that is not empty, and the rest of the source. -/
def cut (c : Char) (source : List Char) : LexicalUnit × List Char :=
  if isBlank c then (blank c, source)
  else if c = '/' ∧ source.head? = some '/' then
    (comment (source.tail.takeWhile (· != '\n')), source.tail.dropWhile (· != '\n'))
  else
    match cutOperator? c source with
    | some (op, rest) => (operator op, rest)
    | none =>
      if c = '"' then cutQuoted source
      else if c.isDigit then cutNumber c source
      else if isWordStart c then
        (word (c :: source.takeWhile isWordPart), source.dropWhile isWordPart)
      else (stray c, source)

/-! ## Nothing is lost -/

theorem text_cutOperator {c : Char} {source rest : List Char} {op : Operator}
    (found : cutOperator? c source = some (op, rest)) : op.spelling ++ rest = c :: source := by
  unfold cutOperator? at found
  cases source with
  | nil =>
    obtain ⟨op', h, e⟩ := Option.map_eq_some_iff.mp found
    cases e
    rw [Operator.ofSpelling?_eq_some_iff.mp h]
    rfl
  | cons d tail =>
    simp only at found
    split at found
    · next h =>
      cases found
      rw [Operator.ofSpelling?_eq_some_iff.mp h]
      rfl
    · obtain ⟨op', h, e⟩ := Option.map_eq_some_iff.mp found
      cases e
      rw [Operator.ofSpelling?_eq_some_iff.mp h]
      rfl

theorem text_cutQuoted (source : List Char) :
    (cutQuoted source).1.text ++ (cutQuoted source).2 = '"' :: source := by
  unfold cutQuoted
  have parts := List.takeWhile_append_dropWhile (p := (· != '"')) (l := source)
  split
  · simp [text]
  · next c rest h =>
    have quote : c = '"' := by
      have := List.head?_dropWhile_not (· != '"') source
      simpa [h] using this
    rw [h, quote] at parts
    simp [text, parts]

theorem text_cutFraction (source : List Char) :
    (if (cutFraction source).1 = [] then [] else '.' :: (cutFraction source).1)
      ++ (cutFraction source).2 = source := by
  unfold cutFraction
  split
  · next c rest =>
    by_cases digit : c.isDigit
    · simp [digit]
    · simp [digit]
  · simp

theorem text_cutNumber (c : Char) (source : List Char) :
    (cutNumber c source).1.text ++ (cutNumber c source).2 = c :: source := by
  have parts := text_cutFraction (source.dropWhile Char.isDigit)
  have digits := List.takeWhile_append_dropWhile (p := Char.isDigit) (l := source)
  simp only [cutNumber, text]
  split at parts <;> simp_all

/-- A cut splits the source into the text of the unit and the rest. -/
theorem text_cut (c : Char) (source : List Char) :
    (cut c source).1.text ++ (cut c source).2 = c :: source := by
  unfold cut
  split
  · rfl
  split
  · next slashes =>
    obtain ⟨rfl, second⟩ := slashes
    cases source with
    | nil => simp at second
    | cons d tail =>
      simp only [List.head?_cons, Option.some.injEq] at second
      subst second
      simp [text]
  split
  · next found => exact text_cutOperator found
  split
  · next quote => rw [quote]; exact text_cutQuoted source
  split
  · exact text_cutNumber c source
  split
  · simp [text]
  · rfl

theorem spelling_ne_nil (op : Operator) : op.spelling ≠ [] := by cases op <;> decide

/-- A unit that was cut off has a character. -/
theorem text_ne_nil (c : Char) (source : List Char) : (cut c source).1.text ≠ [] := by
  unfold cut
  split
  · simp [text]
  split
  · simp [text]
  split
  · next op _ _ => exact spelling_ne_nil op
  split
  · unfold cutQuoted
    split <;> simp [text]
  split
  · simp only [cutNumber, text]
    split <;> simp
  split <;> simp [text]

/-- A cut makes the source shorter. -/
theorem length_cut_lt (c : Char) (source : List Char) :
    (cut c source).2.length < (c :: source).length := by
  have lengths := congrArg List.length (text_cut c source)
  have some_text := List.length_pos_iff.mpr (text_ne_nil c source)
  rw [List.length_append] at lengths
  omega

/-! ## All units of a source -/

/-- The units of a source, in order. -/
def ofSource : List Char → List LexicalUnit
  | [] => []
  | c :: source =>
    let first := cut c source
    first.1 :: ofSource first.2
  termination_by source => source.length
  decreasing_by exact length_cut_lt c source

/-- The units of a source are its text. -/
theorem text_ofSource (source : List Char) : (ofSource source).flatMap text = source := by
  fun_induction ofSource source with
  | case1 => rfl
  | case2 c source first ih => rw [List.flatMap_cons, ih, text_cut]

end LexicalUnit
end ScriptScan
