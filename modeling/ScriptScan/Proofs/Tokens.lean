import Mathlib.Data.List.Basic
import ScriptScan.Proofs.Grammar
import ScriptScan.Scan

/-!
# What a scan makes of its units

A unit gives a token, a report or nothing, and which of them does not depend on its line.
`LexicalUnit.kind?` says what token, `LexicalUnit.complaint?` what report. A scan returns
the tokens of its units in order with the end of the source behind them (`kinds_ofSource`,
`readings_ofSource` with the literals), and the receiver of a scan is told the reports of its
units in order (`complaints_calls`).

The text of a number in the grammar is a row of digits, or two rows with a point between.
`LexicalUnit.ofText?_text_number` reads it: the text always stands for a value, and the value is
the binary64 word nearest to the decimal with these digits. So no number of the language is
malformed.
-/

namespace ScriptScan

/-! ## The value of a number unit -/

namespace LexicalUnit

theorem splitSign_digit {c : Char} (digit : c.isDigit = true) (rest : List Char) :
    Decimal.splitSign (c :: rest) = (false, c :: rest) := by
  unfold Decimal.splitSign
  split
  · next same => cases same; cases digit
  · next same => cases same; cases digit
  · rfl

theorem toLower_digit {c : Char} (digit : c.isDigit = true) : c.toLower = c := by
  unfold Char.toLower
  split
  · next upper =>
    have high := UInt32.le_iff_toNat_le.mp upper.1
    have low := (Char.isDigit_iff_toNat.mp digit).2
    simp at high low
    omega
  · rfl

/-- A name of infinity or of NaN does not start with a digit. -/
theorem ofName?_digit {c : Char} (digit : c.isDigit = true) (rest : List Char) :
    Binary64.ofName? (c :: rest) = none := by
  have differs : ∀ name : List Char, StopsAt Char.isDigit name →
      String.ofList ((c :: rest).map Char.toLower) ≠ String.ofList name := by
    intro name letter same
    have letters := String.ofList_injective same
    rw [List.map_cons, toLower_digit digit] at letters
    have wrong := letter c (by rw [← letters]; rfl)
    rw [digit] at wrong
    cases wrong
  have inf := differs ['i', 'n', 'f'] (stopsAt_cons.mpr rfl)
  have infinity := differs ['i', 'n', 'f', 'i', 'n', 'i', 't', 'y'] (stopsAt_cons.mpr rfl)
  have nan := differs ['n', 'a', 'n'] (stopsAt_cons.mpr rfl)
  unfold Binary64.ofName?
  rw [if_neg (not_or.mpr ⟨inf, infinity⟩), if_neg nan]

theorem ofText?_digit {c : Char} (digit : c.isDigit = true) (rest : List Char) :
    Binary64.ofText? (c :: rest) = (Decimal.ofText? (c :: rest)).map Decimal.toBinary64 := by
  simp [Binary64.ofText?, splitSign_digit digit, Binary64.ofUnsigned?, ofName?_digit digit]

theorem boundedExponent_zero (digits : Nat) : Decimal.boundedExponent digits 0 = 0 := by
  unfold Decimal.boundedExponent
  omega

theorem ofText?_parts {whole fraction : List Char} (some_digit : whole ≠ [])
    (rest : List Char) (parts : Decimal.splitFraction rest = (fraction, []))
    (whole_inside : ∀ c ∈ whole, c.isDigit = true) (stops : StopsAt Char.isDigit rest) :
    Decimal.ofText? (whole ++ rest) = some (Decimal.ofDigits whole fraction) := by
  have ne : whole ++ fraction ≠ [] := by simp [some_digit]
  simp only [Decimal.ofText?, takeWhile_append_of_stopsAt whole_inside stops,
    dropWhile_append_of_stopsAt whole_inside stops, parts, if_neg ne, Decimal.exponentOfText?,
    Option.map_some, boundedExponent_zero, Int.add_zero]

/-- The text of a number stands for the word nearest to the decimal with its digits. -/
theorem ofText?_text_number {whole fraction : List Char}
    (allowed : (number whole fraction).InGrammar) :
    Binary64.ofText? (number whole fraction).text
      = some (Decimal.ofDigits whole fraction).toBinary64 := by
  obtain ⟨some_digit, whole_inside, fraction_inside⟩ := allowed
  have decimal : Decimal.ofText? (number whole fraction).text
      = some (Decimal.ofDigits whole fraction) := by
    cases fraction with
    | nil =>
      rw [text_number_nil]
      have read := ofText?_parts some_digit [] rfl whole_inside (stopsAt_nil _)
      rwa [List.append_nil] at read
    | cons d places =>
      rw [text_number_cons]
      refine ofText?_parts some_digit _ ?_ whole_inside (stopsAt_cons.mpr (by decide))
      have digits := takeWhile_append_of_stopsAt fraction_inside (stopsAt_nil Char.isDigit)
      have nothing := dropWhile_append_of_stopsAt fraction_inside (stopsAt_nil Char.isDigit)
      rw [List.append_nil] at digits nothing
      simp only [Decimal.splitFraction, digits, nothing]
  obtain ⟨c, more, rfl⟩ := List.exists_cons_of_ne_nil some_digit
  obtain ⟨rest, starts⟩ : ∃ rest, (number (c :: more) fraction).text = c :: rest := by
    cases fraction with
    | nil => exact ⟨more, text_number_nil _⟩
    | cons d places => exact ⟨_, text_number_cons _ d places⟩
  rw [starts] at decimal ⊢
  rw [ofText?_digit (whole_inside c List.mem_cons_self), decimal, Option.map_some]

end LexicalUnit

/-! ## Tokens and reports of a unit -/

/-- A token without its literal and its line. -/
def Token.kind (t : Token) : Category × String := (t.category, t.lexeme)

/-- A token without its line. -/
def Token.reading (t : Token) : (Category × String) × Literal := (t.kind, t.literal)

namespace LexicalUnit

/-- The category and the lexeme of the unit's token: an operator, a string, a number or a
word, with its text. White space, comments and error units have none. -/
def kind? (u : LexicalUnit) : Option (Category × String) :=
  match u with
  | operator op => some (.operator op, String.ofList u.text)
  | string _ => some (.string, String.ofList u.text)
  | number _ _ => some (.number, String.ofList u.text)
  | word _ => some (Category.ofWord (String.ofList u.text), String.ofList u.text)
  | blank _ | comment _ | stray _ | unclosed _ => none

/-- The literal of the unit's token. -/
def literal (u : LexicalUnit) : Literal :=
  match u with
  | string content => .string (String.ofList content)
  | number whole fraction => .number (Decimal.ofDigits whole fraction).toBinary64
  | word _ => (Category.ofWord (String.ofList u.text)).literal
  | _ => .absent

/-- The category, the lexeme and the literal of the unit's token. -/
def reading? (u : LexicalUnit) : Option ((Category × String) × Literal) :=
  u.kind?.map fun kind => (kind, u.literal)

/-- The message that is reported for an error unit. -/
def complaint? : LexicalUnit → Option String
  | stray c => some ("Unexpected character '" ++ String.ofList (Text.escape c) ++ "'.")
  | unclosed _ => some "Unterminated string."
  | _ => none

/-- The units of a source are in the grammar, or they are error units. -/
theorem sound_ofSource {source : List Char} {u : LexicalUnit} (member : u ∈ ofSource source) :
    u.InGrammar ∨ (∃ c, u = stray c) ∨ ∃ content, u = unclosed content := by
  fun_induction ofSource source with
  | case1 => cases member
  | case2 c source first ih =>
    rcases List.mem_cons.mp member with rfl | later
    · rcases cut_sound c source with ⟨allowed, -⟩ | ⟨-, -, unclosed⟩ | ⟨-, stray⟩
      · exact .inl allowed
      · exact .inr (.inr ⟨source, congrArg Prod.fst unclosed⟩)
      · exact .inr (.inl ⟨c, congrArg Prod.fst stray⟩)
    · exact ih later

theorem text_ne_nil_of_mem {source : List Char} {u : LexicalUnit}
    (member : u ∈ ofSource source) : u.text ≠ [] := by
  rcases sound_ofSource member with allowed | ⟨c, rfl⟩ | ⟨content, rfl⟩
  · exact text_ne_nil_of_inGrammar allowed
  · exact List.cons_ne_nil c []
  · exact List.cons_ne_nil _ content

theorem number_ofSource {source whole fraction : List Char}
    (member : number whole fraction ∈ ofSource source) : (number whole fraction).InGrammar := by
  rcases sound_ofSource member with allowed | ⟨c, same⟩ | ⟨content, same⟩
  · exact allowed
  · cases same
  · cases same

end LexicalUnit

namespace PlacedUnit

open LexicalUnit

theorem unit_place (line : UInt32) (units : List LexicalUnit) :
    (place line units).map unit = units := by
  induction units generalizing line with
  | nil => rfl
  | cons u rest ih => rw [place, List.map_cons, ih]

/-- The token of a number has the value of its digits. -/
theorem token?_number {whole fraction : List Char} (allowed : (number whole fraction).InGrammar)
    (line : UInt32) :
    token? ⟨number whole fraction, line⟩
      = some ⟨.number, String.ofList (number whole fraction).text,
          .number (Decimal.ofDigits whole fraction).toBinary64, line⟩ := by
  simp only [token?, ofText?_text_number allowed, Option.map_some, tokenOf]

theorem error?_number {whole fraction : List Char} (allowed : (number whole fraction).InGrammar)
    (line : UInt32) : error? ⟨number whole fraction, line⟩ = none := by
  simp [error?, ofText?_text_number allowed]

/-- A unit's token stands on the line of the unit, and nothing else in it depends on the line. -/
theorem token?_eq {source : List Char} {p : PlacedUnit} (member : p.unit ∈ ofSource source) :
    p.token? = p.unit.kind?.map fun kind => ⟨kind.1, kind.2, p.unit.literal, p.line⟩ := by
  obtain ⟨u, line⟩ := p
  cases u with
  | number whole fraction => rw [token?_number (number_ofSource member)]; rfl
  | _ => rfl

theorem reading_token? {source : List Char} {p : PlacedUnit} (member : p.unit ∈ ofSource source) :
    p.token?.map (fun t => (t.reading, t.line)) = p.unit.reading?.map (·, p.line) := by
  rw [token?_eq member, reading?, Option.map_map, Option.map_map]
  rfl

/-- The line of a report: an open string is reported for the line on which it ends. -/
def complaintLine (p : PlacedUnit) : UInt32 :=
  match p.unit with
  | .unclosed _ => p.nextLine
  | _ => p.line

theorem message_error? {source : List Char} {p : PlacedUnit} (member : p.unit ∈ ofSource source) :
    p.error?.map (fun e => (e.line, e.message)) = p.unit.complaint?.map (p.complaintLine, ·) := by
  obtain ⟨u, line⟩ := p
  cases u with
  | number whole fraction => rw [error?_number (number_ofSource member)]; rfl
  | _ => rfl

end PlacedUnit

namespace Scan

open LexicalUnit

/-- The calls that a scan makes to its receiver, line and message, in order. -/
def calls (source : String) : List (UInt32 × String) :=
  (into source (fun told line message => told ++ [(line, message)]) []).2

theorem calls_eq (source : String) :
    calls source = (ofSource source).errors.map fun e => (e.line, e.message) := by
  have told : ∀ (errors : List LexicalError) (before : List (UInt32 × String)),
      errors.foldl (fun told e => told ++ [(e.line, e.message)]) before
        = before ++ errors.map fun e => (e.line, e.message) := by
    intro errors
    induction errors with
    | nil => simp
    | cons e rest ih => intro before; simp [ih]
  exact told _ []

theorem unit_mem_unitsOf {source : String} {p : PlacedUnit} (member : p ∈ unitsOf source) :
    p.unit ∈ LexicalUnit.ofSource source.toList := by
  rw [← PlacedUnit.unit_place 1 (LexicalUnit.ofSource source.toList)]
  exact List.mem_map_of_mem member

/-- The tokens of a scan, read off its units one by one. -/
theorem tokens_ofSource (source : String) :
    (ofSource source).tokens.map (fun t => (t.reading, t.line))
      = (unitsOf source).filterMap (fun p => p.unit.reading?.map (·, p.line))
        ++ [(((.eof, ""), .absent), lineAfter 1 source.toList)] := by
  have each : (unitsOf source).filterMap (fun p => p.token?.map fun t => (t.reading, t.line))
      = (unitsOf source).filterMap fun p => p.unit.reading?.map (·, p.line) :=
    List.filterMap_congr fun p member => PlacedUnit.reading_token? (unit_mem_unitsOf member)
  rw [ofSource, List.map_append, List.map_filterMap, each]
  rfl

/-- The receiver of a scan is told the complaints about its units one by one. -/
theorem calls_eq_complaints (source : String) :
    calls source
      = (unitsOf source).filterMap fun p => p.unit.complaint?.map (p.complaintLine, ·) := by
  rw [calls_eq, ofSource, List.map_filterMap]
  exact List.filterMap_congr fun p member => PlacedUnit.message_error? (unit_mem_unitsOf member)

/-- What does not look at the lines can be read off the units alone. -/
theorem filterMap_unit_unitsOf {γ : Type} (source : String) (f : LexicalUnit → Option γ) :
    (unitsOf source).filterMap (fun p => f p.unit)
      = (LexicalUnit.ofSource source.toList).filterMap f := by
  rw [← PlacedUnit.unit_place 1 (LexicalUnit.ofSource source.toList), List.filterMap_map]
  rfl

/-- The tokens of a scan with their literals are those of its units, and the end of the
source. -/
theorem readings_ofSource (source : String) :
    (ofSource source).tokens.map Token.reading
      = (LexicalUnit.ofSource source.toList).filterMap reading? ++ [((.eof, ""), .absent)] := by
  have readings := congrArg (List.map Prod.fst) (tokens_ofSource source)
  rw [List.map_map, List.map_append, List.map_filterMap] at readings
  simpa [Function.comp_def, filterMap_unit_unitsOf] using readings

/-- The tokens of a scan are those of its units, and the end of the source. -/
theorem kinds_ofSource (source : String) :
    (ofSource source).tokens.map Token.kind
      = (LexicalUnit.ofSource source.toList).filterMap kind? ++ [(.eof, "")] := by
  have kinds := congrArg (List.map Prod.fst) (readings_ofSource source)
  rw [List.map_map, List.map_append, List.map_filterMap] at kinds
  simpa [Function.comp_def, reading?, Token.reading] using kinds

/-- The messages to the receiver of a scan are the complaints about its units. -/
theorem complaints_calls (source : String) :
    (calls source).map Prod.snd = (LexicalUnit.ofSource source.toList).filterMap complaint? := by
  rw [calls_eq_complaints, List.map_filterMap]
  simp [Function.comp_def, filterMap_unit_unitsOf]

end Scan
end ScriptScan
