import Mathlib.Data.List.TakeWhile
import ScriptScan.LexicalUnit

/-!
# The grammar of lexical units

`LexicalUnit.InGrammar` says which units the language has, and `LexicalUnit.EndsBefore`
which text may follow a unit without growing together with it. Stray characters and
strings that are never closed are no part of the grammar.

The first character of a source decides which rule a cut follows (`cut_blank`,
`cut_comment`, `cut_operator`, `cut_quote`, `cut_digit`, `cut_wordStart`).
Together with the two predicates this fixes every cut.
* `cut_of_endsBefore`: a unit of the grammar is cut off when the text behind it lets it end.
* `length_lt_cut`: a longer unit is cut off when that text does not.
* `cut_sound`: what is cut off is a unit of the grammar that ends where the rest begins, or
  one of the two error units at a place where no rule applies.
-/

namespace ScriptScan
namespace LexicalUnit

/-! ## Units of the grammar -/

/-- The units that the rules of the language allow, whatever stands behind them. -/
def InGrammar : LexicalUnit → Prop
  | blank c => c = ' ' ∨ c = '\t' ∨ c = '\r' ∨ c = '\n'
  | comment text => '\n' ∉ text
  | operator _ => True
  | string content => '"' ∉ content
  | number whole fraction =>
    whole ≠ [] ∧ (∀ c ∈ whole, c.isDigit = true) ∧ ∀ c ∈ fraction, c.isDigit = true
  | word letters =>
    ∃ first more, letters = first :: more ∧ isWordStart first = true ∧
      ∀ c ∈ more, isWordPart c = true
  | stray _ => False
  | unclosed _ => False

/-- The text is empty or starts with a character outside the class. -/
def StopsAt (p : Char → Bool) (text : List Char) : Prop := ∀ c ∈ text.head?, p c = false

/-- The text starts with a point and a digit. -/
def StartsFraction (text : List Char) : Prop :=
  ∃ c more, text = '.' :: c :: more ∧ c.isDigit = true

/-- The character makes a longer operator of this one, or a comment of a slash. -/
def GrowsBy (op : Operator) (c : Char) : Prop :=
  (∃ longer : Operator, longer.spelling = op.spelling ++ [c]) ∨ (op = .slash ∧ c = '/')

/-- The unit ends where the text begins: it would not be longer with the text behind it. -/
def EndsBefore : LexicalUnit → List Char → Prop
  | comment _, text => StopsAt (· != '\n') text
  | operator op, text => ∀ c ∈ text.head?, ¬ GrowsBy op c
  | number _ [], text => StopsAt Char.isDigit text ∧ ¬ StartsFraction text
  | number _ (_ :: _), text => StopsAt Char.isDigit text
  | word _, text => StopsAt isWordPart text
  | unclosed _, text => text = []
  | blank _, _ => True
  | string _, _ => True
  | stray _, _ => True

theorem isBlank_iff {c : Char} : isBlank c = true ↔ (blank c).InGrammar := by
  simp only [isBlank, InGrammar, Bool.or_eq_true, beq_iff_eq, or_assoc]

theorem stopsAt_nil (p : Char → Bool) : StopsAt p [] := by
  intro c head
  cases head

theorem stopsAt_cons {p : Char → Bool} {c : Char} {text : List Char} :
    StopsAt p (c :: text) ↔ p c = false := by
  constructor
  · intro stops
    exact stops c rfl
  · intro outside d head
    cases head
    exact outside

theorem stopsAt_dropWhile (p : Char → Bool) (text : List Char) :
    StopsAt p (text.dropWhile p) := by
  intro c head
  have outside := List.head?_dropWhile_not p text
  rw [head] at outside
  exact outside

/-! ## Runs of characters -/

theorem takeWhile_append_of_stopsAt {p : Char → Bool} {body rest : List Char}
    (inside : ∀ c ∈ body, p c = true) (stops : StopsAt p rest) :
    (body ++ rest).takeWhile p = body := by
  rw [List.takeWhile_append_of_pos inside]
  cases rest with
  | nil => simp
  | cons c more => simp [stopsAt_cons.mp stops]

theorem dropWhile_append_of_stopsAt {p : Char → Bool} {body rest : List Char}
    (inside : ∀ c ∈ body, p c = true) (stops : StopsAt p rest) :
    (body ++ rest).dropWhile p = rest := by
  rw [List.dropWhile_append_of_pos inside]
  cases rest with
  | nil => rfl
  | cons c more => simp [stopsAt_cons.mp stops]

/-- A run that the rest would continue is longer than its beginning. -/
theorem length_lt_takeWhile_append {p : Char → Bool} {body rest : List Char}
    (inside : ∀ c ∈ body, p c = true) (goesOn : ¬ StopsAt p rest) :
    body.length < ((body ++ rest).takeWhile p).length := by
  rw [List.takeWhile_append_of_pos inside, List.length_append]
  cases rest with
  | nil => exact absurd (stopsAt_nil p) goesOn
  | cons c more =>
    rw [stopsAt_cons, Bool.not_eq_false] at goesOn
    simp [goesOn]

/-! ## Operators -/

/-- The first character of an operator starts no other kind of unit. -/
theorem head_spelling {op : Operator} {c : Char} (first : op.spelling.head? = some c) :
    isBlank c = false ∧ c ≠ '"' ∧ c.isDigit = false ∧ isWordStart c = false := by
  cases op <;> cases first <;> decide

theorem spelling_length (op : Operator) :
    (∃ c, op.spelling = [c]) ∨ ∃ c d, op.spelling = [c, d] := by
  cases op <;> simp [Operator.spelling]

theorem eq_of_spelling {op other : Operator} (same : op.spelling = other.spelling) :
    op = other :=
  eq_of_find?_key Operator.ofSpelling?_spelling same

theorem spelling_ne_slash_cons (op : Operator) (c : Char) : op.spelling ≠ ['/', c] := by
  cases op <;> simp [Operator.spelling]

theorem cutOperator?_eq_none {c : Char} (foreign : ∀ op : Operator, op.spelling.head? ≠ some c)
    (source : List Char) : cutOperator? c source = none := by
  have unspelled : ∀ more, Operator.ofSpelling? (c :: more) = none := by
    intro more
    refine Option.eq_none_iff_forall_ne_some.mpr fun op found => foreign op ?_
    rw [Operator.ofSpelling?_eq_some_iff.mp found]
    rfl
  cases source with
  | nil => simp [cutOperator?, unspelled]
  | cons d rest => simp [cutOperator?, unspelled]

theorem cutOperator?_longer {c d : Char} {op : Operator} (spelled : op.spelling = [c, d])
    (rest : List Char) : cutOperator? c (d :: rest) = some (op, rest) := by
  simp [cutOperator?, Operator.ofSpelling?_eq_some_iff.mpr spelled]

/-- A single character is an operator when the next one does not make it longer. -/
theorem cutOperator?_single {c : Char} {op : Operator} (spelled : op.spelling = [c])
    {rest : List Char} (ends : (operator op).EndsBefore rest) :
    cutOperator? c rest = some (op, rest) := by
  have found := Operator.ofSpelling?_eq_some_iff.mpr spelled
  cases rest with
  | nil => simp [cutOperator?, found]
  | cons d more =>
    have alone : Operator.ofSpelling? [c, d] = none := by
      refine Option.eq_none_iff_forall_ne_some.mpr fun longer two => ends d rfl (.inl ⟨longer, ?_⟩)
      rw [Operator.ofSpelling?_eq_some_iff.mp two, spelled]
      rfl
    simp [cutOperator?, found, alone]

/-! ## The rule that the first character decides -/

theorem cut_blank {c : Char} (isBlank_c : isBlank c = true) (source : List Char) :
    cut c source = (blank c, source) := by
  simp [cut, isBlank_c]

theorem cut_comment (source : List Char) :
    cut '/' ('/' :: source)
      = (comment (source.takeWhile (· != '\n')), source.dropWhile (· != '\n')) := by
  simp [cut, isBlank]

theorem cut_operator {c : Char} {source rest : List Char} {op : Operator}
    (noComment : ¬ (c = '/' ∧ source.head? = some '/'))
    (found : cutOperator? c source = some (op, rest)) :
    cut c source = (operator op, rest) := by
  have first : op.spelling.head? = some c := by
    have whole := text_cutOperator found
    rcases spelling_length op with ⟨d, spelled⟩ | ⟨d, e, spelled⟩
    all_goals
      rw [spelled] at whole ⊢
      cases whole
      rfl
  simp [cut, (head_spelling first).1, noComment, found]

/-- A character that starts no operator is neither a slash. -/
theorem cut_of_foreign {c : Char} (noBlank : isBlank c = false)
    (foreign : ∀ op : Operator, op.spelling.head? ≠ some c) (source : List Char) :
    cut c source =
      if c = '"' then cutQuoted source
      else if c.isDigit then cutNumber c source
      else if isWordStart c then
        (word (c :: source.takeWhile isWordPart), source.dropWhile isWordPart)
      else (stray c, source) := by
  have noSlash : c ≠ '/' := fun slash => foreign .slash (slash ▸ rfl)
  simp [cut, noBlank, noSlash, cutOperator?_eq_none foreign]

theorem cut_quote (source : List Char) : cut '"' source = cutQuoted source := by
  rw [cut_of_foreign rfl fun op first => (head_spelling first).2.1 rfl]
  simp

theorem cut_digit {c : Char} (digit : c.isDigit = true) (source : List Char) :
    cut c source = cutNumber c source := by
  have noBlank : isBlank c = false := by
    refine Bool.eq_false_iff.mpr fun blank_c => ?_
    rcases isBlank_iff.mp blank_c with rfl | rfl | rfl | rfl <;> cases digit
  have noQuote : c ≠ '"' := fun quote => by cases quote; cases digit
  have foreign : ∀ op : Operator, op.spelling.head? ≠ some c := fun op first => by
    rw [(head_spelling first).2.2.1] at digit
    cases digit
  rw [cut_of_foreign noBlank foreign]
  simp [noQuote, digit]

theorem isDigit_of_isWordStart {c : Char} (start : isWordStart c = true) : c.isDigit = false := by
  refine Bool.eq_false_iff.mpr fun digit => ?_
  have low : c.val.toNat ≤ 57 := (Char.isDigit_iff_toNat.mp digit).2
  rcases (Bool.or_eq_true _ _).mp start with alpha | underscore
  · rcases (Bool.or_eq_true _ _).mp alpha with upper | lower
    · have high : 65 ≤ c.val.toNat := (of_decide_eq_true upper).1
      omega
    · have high : 97 ≤ c.val.toNat := of_decide_eq_true ((Bool.and_eq_true _ _).mp lower).1
      omega
  · cases beq_iff_eq.mp underscore
    cases digit

theorem cut_wordStart {c : Char} (start : isWordStart c = true) (source : List Char) :
    cut c source = (word (c :: source.takeWhile isWordPart), source.dropWhile isWordPart) := by
  have noBlank : isBlank c = false := by
    refine Bool.eq_false_iff.mpr fun blank_c => ?_
    rcases isBlank_iff.mp blank_c with rfl | rfl | rfl | rfl <;> cases start
  have noQuote : c ≠ '"' := fun quote => by cases quote; cases start
  have foreign : ∀ op : Operator, op.spelling.head? ≠ some c := fun op first => by
    rw [(head_spelling first).2.2.2] at start
    cases start
  rw [cut_of_foreign noBlank foreign]
  simp [noQuote, isDigit_of_isWordStart start, start]

/-! ## Strings and numbers -/

theorem inside_of_not_mem {c : Char} {text : List Char} (absent : c ∉ text) :
    ∀ d ∈ text, (d != c) = true := by
  intro d member
  rw [bne_iff_ne]
  rintro rfl
  exact absent member

theorem cutQuoted_closed {content : List Char} (noQuote : '"' ∉ content) (rest : List Char) :
    cutQuoted (content ++ '"' :: rest) = (string content, rest) := by
  have inside := inside_of_not_mem noQuote
  have stops : StopsAt (· != '"') ('"' :: rest) := stopsAt_cons.mpr (by decide)
  simp only [cutQuoted, dropWhile_append_of_stopsAt inside stops,
    takeWhile_append_of_stopsAt inside stops]

theorem cutQuoted_unclosed {source : List Char} (noQuote : '"' ∉ source) :
    cutQuoted source = (unclosed source, []) := by
  have inside := inside_of_not_mem noQuote
  have nothing : source.dropWhile (· != '"') = [] := by
    simpa using dropWhile_append_of_stopsAt inside (stopsAt_nil _)
  simp only [cutQuoted, nothing]

theorem cutFraction_of_not_startsFraction {source : List Char}
    (noFraction : ¬ StartsFraction source) : cutFraction source = ([], source) := by
  unfold cutFraction
  split
  · next c rest =>
    have noDigit : c.isDigit ≠ true := fun digit => noFraction ⟨c, rest, rfl, digit⟩
    rw [if_neg noDigit]
  · rfl

theorem cutFraction_point {c : Char} (digit : c.isDigit = true) (rest : List Char) :
    cutFraction ('.' :: c :: rest)
      = ((c :: rest).takeWhile Char.isDigit, (c :: rest).dropWhile Char.isDigit) := by
  simp [cutFraction, digit]

theorem text_number_nil (whole : List Char) : (number whole []).text = whole := by
  simp [text]

theorem text_number_cons (whole : List Char) (d : Char) (more : List Char) :
    (number whole (d :: more)).text = whole ++ '.' :: d :: more := by
  simp [text]

/-- No unit of the grammar is empty. -/
theorem text_ne_nil_of_inGrammar {u : LexicalUnit} (allowed : u.InGrammar) : u.text ≠ [] := by
  cases u with
  | operator op => exact spelling_ne_nil op
  | number whole fraction =>
    cases fraction with
    | nil => rw [text_number_nil]; exact allowed.1
    | cons d places => rw [text_number_cons]; simp
  | word letters =>
    obtain ⟨first, more, rfl, -⟩ := allowed
    exact List.cons_ne_nil first more
  | stray c => exact allowed.elim
  | unclosed content => exact allowed.elim
  | _ => exact List.cons_ne_nil _ _

theorem digits_of_number {whole fraction : List Char}
    (allowed : (number whole fraction).InGrammar) :
    ∃ first more, whole = first :: more ∧ first.isDigit = true ∧
      (∀ d ∈ more, d.isDigit = true) ∧ ∀ d ∈ fraction, d.isDigit = true := by
  obtain ⟨some_digit, whole_inside, fraction_inside⟩ := allowed
  obtain ⟨first, more, rfl⟩ := List.exists_cons_of_ne_nil some_digit
  obtain ⟨digit, inside⟩ := List.forall_mem_cons.mp whole_inside
  exact ⟨first, more, rfl, digit, inside, fraction_inside⟩

theorem isDigit_head_number {whole fraction : List Char} {c : Char} {more : List Char}
    (allowed : (number whole fraction).InGrammar)
    (starts : (number whole fraction).text = c :: more) : c.isDigit = true := by
  obtain ⟨first, rest, rfl, digit, -⟩ := digits_of_number allowed
  cases fraction with
  | nil =>
    rw [text_number_nil] at starts
    cases starts
    exact digit
  | cons d places =>
    rw [text_number_cons, List.cons_append] at starts
    cases starts
    exact digit

/-- The digits of a number behind its first one. -/
theorem cutNumber_whole {c : Char} {more rest : List Char}
    (inside : ∀ d ∈ more, d.isDigit = true) (stops : StopsAt Char.isDigit rest) :
    cutNumber c (more ++ rest) = (number (c :: more) (cutFraction rest).1, (cutFraction rest).2) := by
  simp only [cutNumber, takeWhile_append_of_stopsAt inside stops,
    dropWhile_append_of_stopsAt inside stops]

theorem cutNumber_of_endsBefore {c : Char} {source rest whole fraction : List Char}
    (allowed : (number whole fraction).InGrammar) (ends : (number whole fraction).EndsBefore rest)
    (parts : (number whole fraction).text ++ rest = c :: source) :
    c.isDigit = true ∧ cutNumber c source = (number whole fraction, rest) := by
  obtain ⟨first, more, rfl, head, inside, fraction_inside⟩ := digits_of_number allowed
  cases fraction with
  | nil =>
    rw [text_number_nil, List.cons_append] at parts
    cases parts
    obtain ⟨stops, noFraction⟩ := ends
    refine ⟨head, ?_⟩
    rw [cutNumber_whole inside stops, cutFraction_of_not_startsFraction noFraction]
  | cons d places =>
    rw [text_number_cons, List.cons_append, List.cons_append, List.append_assoc] at parts
    cases parts
    refine ⟨head, ?_⟩
    have point : StopsAt Char.isDigit (('.' :: d :: places) ++ rest) := stopsAt_cons.mpr (by decide)
    rw [cutNumber_whole inside point, List.cons_append, List.cons_append,
      cutFraction_point (List.forall_mem_cons.mp fraction_inside).1, ← List.cons_append,
      takeWhile_append_of_stopsAt fraction_inside ends,
      dropWhile_append_of_stopsAt fraction_inside ends]

/-! ## The cut of a unit that ends -/

theorem cut_of_endsBefore {u : LexicalUnit} {c : Char} {source rest : List Char}
    (allowed : u.InGrammar) (ends : u.EndsBefore rest) (whole : u.text ++ rest = c :: source) :
    cut c source = (u, rest) := by
  cases u with
  | blank d =>
    cases whole
    exact cut_blank (isBlank_iff.mpr allowed) rest
  | comment line =>
    simp only [text, List.cons_append] at whole
    cases whole
    have inside := inside_of_not_mem allowed
    rw [cut_comment, takeWhile_append_of_stopsAt inside ends,
      dropWhile_append_of_stopsAt inside ends]
  | operator op =>
    rcases spelling_length op with ⟨d, spelled⟩ | ⟨d, e, spelled⟩
    · rw [text, spelled] at whole
      cases whole
      refine cut_operator ?_ (cutOperator?_single spelled ends)
      rintro ⟨rfl, second⟩
      exact ends '/' second (.inr ⟨eq_of_spelling spelled, rfl⟩)
    · rw [text, spelled] at whole
      cases whole
      refine cut_operator ?_ (cutOperator?_longer spelled rest)
      rintro ⟨rfl, -⟩
      exact spelling_ne_slash_cons op e spelled
  | string content =>
    simp only [text, List.cons_append, List.append_assoc] at whole
    cases whole
    rw [cut_quote]
    exact cutQuoted_closed allowed rest
  | number digits fraction =>
    obtain ⟨digit, cuts⟩ := cutNumber_of_endsBefore allowed ends whole
    rw [cut_digit digit, cuts]
  | word letters =>
    obtain ⟨first, more, rfl, start, inside⟩ := allowed
    simp only [text, List.cons_append] at whole
    cases whole
    rw [cut_wordStart start, takeWhile_append_of_stopsAt inside ends,
      dropWhile_append_of_stopsAt inside ends]
  | stray d => exact allowed.elim
  | unclosed content => exact allowed.elim

/-! ## A unit that could be longer -/

theorem length_lt_cutNumber {c : Char} {source rest whole fraction : List Char}
    (allowed : (number whole fraction).InGrammar) (grows : ¬ (number whole fraction).EndsBefore rest)
    (parts : (number whole fraction).text ++ rest = c :: source) :
    c.isDigit = true ∧
      (number whole fraction).text.length < (cutNumber c source).1.text.length := by
  obtain ⟨first, more, rfl, head, inside, fraction_inside⟩ := digits_of_number allowed
  cases fraction with
  | nil =>
    rw [text_number_nil, List.cons_append] at parts
    cases parts
    refine ⟨head, ?_⟩
    rw [text_number_nil]
    by_cases stops : StopsAt Char.isDigit rest
    · -- The digits end here, so a point and a digit follow and become the fraction.
      have fraction : StartsFraction rest := by
        by_contra noFraction
        exact grows ⟨stops, noFraction⟩
      obtain ⟨d, places, rfl, digit⟩ := fraction
      rw [cutNumber_whole inside stops, cutFraction_point digit, List.takeWhile_cons,
        if_pos digit, text_number_cons]
      simp
    · have longer := length_lt_takeWhile_append inside stops
      simp only [cutNumber, text]
      split <;> simp <;> omega
  | cons d places =>
    rw [text_number_cons, List.cons_append, List.cons_append, List.append_assoc] at parts
    cases parts
    refine ⟨head, ?_⟩
    have digit := (List.forall_mem_cons.mp fraction_inside).1
    have point : StopsAt Char.isDigit (('.' :: d :: places) ++ rest) := stopsAt_cons.mpr (by decide)
    have longer := length_lt_takeWhile_append fraction_inside grows
    rw [List.cons_append, List.takeWhile_cons, if_pos digit] at longer
    rw [cutNumber_whole inside point, List.cons_append, List.cons_append,
      cutFraction_point digit, List.takeWhile_cons, if_pos digit, text_number_cons,
      text_number_cons]
    simp only [List.length_append, List.length_cons] at longer ⊢
    omega

/-- A unit that the text behind it would make longer is cut off with more characters. -/
theorem length_lt_cut {u : LexicalUnit} {c : Char} {source rest : List Char}
    (allowed : u.InGrammar) (grows : ¬ u.EndsBefore rest) (whole : u.text ++ rest = c :: source) :
    u.text.length < (cut c source).1.text.length := by
  cases u with
  | blank d => exact absurd trivial grows
  | comment line =>
    simp only [text, List.cons_append] at whole
    cases whole
    rw [cut_comment]
    simpa [text] using length_lt_takeWhile_append (inside_of_not_mem allowed) grows
  | operator op =>
    obtain ⟨d, head, grown⟩ : ∃ d, rest.head? = some d ∧ GrowsBy op d := by
      by_contra none
      exact grows fun d head grown => none ⟨d, head, grown⟩
    obtain ⟨more, rfl⟩ := List.head?_eq_some_iff.mp head
    rcases grown with ⟨longer, spelled⟩ | ⟨rfl, rfl⟩
    · rcases spelling_length op with ⟨e, single⟩ | ⟨e, f, double⟩
      · rw [text, single] at whole ⊢
        rw [List.singleton_append] at whole
        cases whole
        rw [single] at spelled
        have noComment : ¬ (c = '/' ∧ (d :: more).head? = some '/') := by
          rintro ⟨rfl, -⟩
          exact spelling_ne_slash_cons longer d spelled
        rw [cut_operator noComment (cutOperator?_longer spelled more), text, spelled]
        exact Nat.lt_succ_self 1
      · rw [double] at spelled
        rcases spelling_length longer with ⟨_, short⟩ | ⟨_, _, short⟩
        all_goals
          rw [short] at spelled
          cases spelled
    · simp only [text, Operator.spelling, List.singleton_append] at whole
      cases whole
      rw [cut_comment]
      simp [text, Operator.spelling]
  | string content => exact absurd trivial grows
  | number digits fraction =>
    obtain ⟨digit, longer⟩ := length_lt_cutNumber allowed grows whole
    rw [cut_digit digit]
    exact longer
  | word letters =>
    obtain ⟨first, more, rfl, start, inside⟩ := allowed
    simp only [text, List.cons_append] at whole
    cases whole
    rw [cut_wordStart start]
    simpa [text] using length_lt_takeWhile_append inside grows
  | stray d => exact allowed.elim
  | unclosed content => exact allowed.elim

/-! ## What is cut off -/

theorem cutOperator?_eq_some {c : Char} {source rest : List Char} {op : Operator}
    (found : cutOperator? c source = some (op, rest))
    (noComment : ¬ (c = '/' ∧ source.head? = some '/')) : (operator op).EndsBefore rest := by
  have whole := text_cutOperator found
  rintro d head (⟨longer, spelled⟩ | ⟨rfl, rfl⟩)
  · obtain ⟨more, rfl⟩ := List.head?_eq_some_iff.mp head
    rcases spelling_length op with ⟨e, single⟩ | ⟨e, f, double⟩
    · -- The longer operator would have been found first.
      rw [single, List.singleton_append] at whole
      cases whole
      rw [single] at spelled
      rw [cutOperator?_longer spelled more] at found
      cases found
    · rw [double] at spelled
      rcases spelling_length longer with ⟨_, short⟩ | ⟨_, _, short⟩
      all_goals
        rw [short] at spelled
        cases spelled
  · cases whole
    exact noComment ⟨rfl, head⟩

theorem cutNumber_sound {c : Char} (digit : c.isDigit = true) (source : List Char) :
    (cutNumber c source).1.InGrammar ∧ (cutNumber c source).1.EndsBefore (cutNumber c source).2 := by
  have whole_inside : ∀ d ∈ c :: source.takeWhile Char.isDigit, d.isDigit = true :=
    List.forall_mem_cons.mpr ⟨digit, fun d member => List.mem_takeWhile_imp member⟩
  have stops := stopsAt_dropWhile Char.isDigit source
  simp only [cutNumber]
  by_cases fraction : StartsFraction (source.dropWhile Char.isDigit)
  · obtain ⟨d, more, starts, digit_d⟩ := fraction
    rw [starts, cutFraction_point digit_d]
    refine ⟨⟨List.cons_ne_nil _ _, whole_inside, fun e member => List.mem_takeWhile_imp member⟩, ?_⟩
    rw [List.takeWhile_cons, if_pos digit_d]
    exact stopsAt_dropWhile Char.isDigit (d :: more)
  · rw [cutFraction_of_not_startsFraction fraction]
    exact ⟨⟨List.cons_ne_nil _ _, whole_inside, List.forall_mem_nil _⟩, stops, fraction⟩

/-- A cut gives a unit of the grammar that ends where the rest begins. Only where no rule
applies, it gives a stray character or a string that is never closed. -/
theorem cut_sound (c : Char) (source : List Char) :
    ((cut c source).1.InGrammar ∧ (cut c source).1.EndsBefore (cut c source).2) ∨
    (c = '"' ∧ '"' ∉ source ∧ cut c source = (unclosed source, [])) ∨
    (c ≠ '"' ∧ cut c source = (stray c, source)) := by
  unfold cut
  split
  · next blank_c => exact .inl ⟨isBlank_iff.mp blank_c, trivial⟩
  split
  · next slashes =>
    refine .inl ⟨fun member => ?_, stopsAt_dropWhile _ _⟩
    simpa using List.mem_takeWhile_imp member
  next noComment =>
  split
  · next found => exact .inl ⟨trivial, cutOperator?_eq_some found noComment⟩
  split
  · next quote =>
    by_cases closed : '"' ∈ source
    · obtain ⟨content, rest, rfl, noQuote⟩ := List.eq_append_cons_of_mem closed
      rw [cutQuoted_closed noQuote]
      exact .inl ⟨noQuote, trivial⟩
    · exact .inr (.inl ⟨quote, closed, cutQuoted_unclosed closed⟩)
  next noQuote =>
  split
  · next digit => exact .inl (cutNumber_sound digit source)
  split
  · next start =>
    exact .inl ⟨⟨c, _, rfl, start, fun d member => List.mem_takeWhile_imp member⟩,
      stopsAt_dropWhile _ _⟩
  · exact .inr (.inr ⟨noQuote, rfl⟩)

end LexicalUnit
end ScriptScan
