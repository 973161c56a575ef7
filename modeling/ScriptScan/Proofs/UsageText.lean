import Mathlib.Data.List.Basic
import ScriptScan.Options.Usage

/-!
# Reading usage texts

A usage text can be read back by its layout alone. The table of options stands behind the last
line that says so, and each of its rows has three columns and a description. The first line names
the program, and behind it the positional fields stand in brackets, with a blank before each.

* `UsageRow.ofLine?_text`: a row is read back, also one with a text that is wider than its column.
* `rowsOfUsage?_usage`: so are all rows of a usage text.
* `wordsOfUsage?_usage`: and the words of its first line.

The texts in columns and the names in brackets must have no blank in them. Names are shown in upper
case, which brings in no blank (`not_mem_upper`).
-/

namespace ScriptScan

/-! ## Upper case -/

namespace Text

/-- A number that is no code point stands for the character zero. -/
theorem ofNat_eq_zero_or_toNat_eq (n : Nat) : Char.ofNat n = '\x00' ∨ (Char.ofNat n).toNat = n := by
  by_cases valid : n.isValidChar
  · exact .inr (congrArg Char.toNat (dif_pos valid))
  · exact .inl (dif_neg valid)

theorem ge_of_mem_upperCaseExpansions :
    ∀ e ∈ upperCaseExpansions, ∀ n ∈ e.2, 0x41 ≤ n := by
  have all : (upperCaseExpansions.all fun e => e.2.all (0x41 ≤ ·)) = true := rfl
  intro e member n code
  exact of_decide_eq_true (List.all_eq_true.mp (List.all_eq_true.mp all e member) n code)

theorem ge_of_mem_upperCaseRuns : ∀ r ∈ upperCaseRuns, 0x41 ≤ r.first + r.shift := by
  have all : (upperCaseRuns.all fun r => 0x41 ≤ r.first + r.shift) = true := by decide +kernel
  intro r member
  exact of_decide_eq_true (List.all_eq_true.mp all r member)

/-- Upper case moves no letter to a place before the capital letters. -/
theorem eq_of_mem_convert {c d : Char} (low : c.toNat < 0x41) (visible : c ≠ '\x00')
    (member : c ∈ upperCase.convert d) : c = d := by
  have moved : ∀ n, 0x41 ≤ n → c ≠ Char.ofNat n := by
    rintro n high rfl
    rcases ofNat_eq_zero_or_toNat_eq n with zero | same
    · exact visible zero
    · omega
  unfold CaseTable.convert at member
  split at member
  · next codes found =>
    obtain ⟨n, code, same⟩ := List.mem_map.mp member
    have high := ge_of_mem_upperCaseExpansions _ (List.mem_of_find?_eq_some found) n code
    exact absurd same.symm (moved n high)
  · split at member
    · next r found =>
      have high := ge_of_mem_upperCaseRuns r (List.mem_of_find?_eq_some found)
      have inside := List.find?_some found
      simp only [CaseRun.contains, Bool.and_eq_true, decide_eq_true_eq] at inside
      exact absurd (List.mem_singleton.mp member) (moved _ (by omega))
    · exact List.mem_singleton.mp member

theorem not_mem_upper {c : Char} (low : c.toNat < 0x41) (visible : c ≠ '\x00') {text : String}
    (absent : c ∉ text.toList) : c ∉ (upper text).toList := by
  intro member
  rw [upper, String.toList_ofList, List.mem_flatMap] at member
  obtain ⟨d, inside, converted⟩ := member
  exact absent (eq_of_mem_convert low visible converted ▸ inside)

end Text

namespace Options

/-! ## Columns -/

/-- The text in a column of the width, and what stands behind the column and the blank that closes
it. -/
def readColumn? (width : Nat) (line : List Char) : Option (String × List Char) :=
  let text := line.takeWhile (· != ' ')
  let filler := List.replicate (width - text.length + 1) ' '
  (filler.isPrefixOf? (line.drop text.length)).map fun rest => (String.ofList text, rest)

theorem readColumn?_padRight {width : Nat} {text : String} (noBlank : ' ' ∉ text.toList)
    (rest : List Char) :
    readColumn? width ((Text.padRight width text).toList ++ ' ' :: rest) = some (text, rest) := by
  have filled : (Text.padRight width text).toList ++ ' ' :: rest
      = text.toList ++ (List.replicate (width - text.toList.length + 1) ' ' ++ rest) := by
    rw [Text.toList_padRight, String.length_toList, List.replicate_succ']
    simp only [List.append_assoc, List.singleton_append]
  have taken : (text.toList ++ (List.replicate (width - text.toList.length + 1) ' ' ++ rest)
      ).takeWhile (· != ' ') = text.toList := by
    rw [List.takeWhile_append_of_pos, List.replicate_succ]
    · simp
    · intro c member
      exact bne_iff_ne.mpr fun blank => noBlank (blank ▸ member)
  rw [filled, readColumn?]
  simp only [taken, List.drop_left, Option.map_eq_some_iff, List.isPrefixOf?_eq_some_iff_append_eq]
  exact ⟨rest, rfl, by rw [String.ofList_toList]⟩

/-! ## Rows -/

/-- The row in a line of the table. -/
def UsageRow.ofLine? (line : List Char) : Option UsageRow := do
  let rest ← "   ".toList.isPrefixOf? line
  let (short, rest) ← readColumn? 4 rest
  let (long, rest) ← readColumn? 16 rest
  let (parameter, rest) ← readColumn? 10 rest
  return ⟨short, long, parameter, String.ofList rest⟩

theorem UsageRow.ofLine?_text {row : UsageRow} (short : ' ' ∉ row.short.toList)
    (long : ' ' ∉ row.long.toList) (parameter : ' ' ∉ row.parameter.toList) :
    UsageRow.ofLine? row.text.toList = some row := by
  have columns : row.text.toList = "   ".toList ++
      ((Text.padRight 4 row.short).toList ++ ' ' ::
        ((Text.padRight 16 row.long).toList ++ ' ' ::
          ((Text.padRight 10 row.parameter).toList ++ ' ' :: row.description.toList))) := by
    have blank : " ".toList = [' '] := rfl
    simp only [UsageRow.text, String.toList_append, blank, List.append_assoc, List.cons_append,
      List.nil_append]
  have indented := List.isPrefixOf?_eq_some_iff_append_eq.mpr columns.symm
  unfold UsageRow.ofLine?
  simp only [indented, Option.bind_eq_bind, Option.bind_some, readColumn?_padRight short,
    readColumn?_padRight long, readColumn?_padRight parameter, String.ofList_toList]
  rfl

/-- A spelling that is wider than its column moves the rest of the row. -/
example : UsageRow.ofLine? "        --target-directory <DIRECTORY> Where to put it".toList
    = some ⟨"", "--target-directory", "<DIRECTORY>", "Where to put it"⟩ := by
  decide +kernel

/-! ## The table of options -/

/-- The lines behind the last one that is equal to the given one. -/
def linesBehindLast (line : List Char) (lines : List (List Char)) : List (List Char) :=
  (lines.reverse.takeWhile (· != line)).reverse

theorem linesBehindLast_append {line : List Char} {before behind : List (List Char)}
    (absent : line ∉ behind) : linesBehindLast line (before ++ line :: behind) = behind := by
  have other : ∀ l ∈ behind.reverse, (l != line) = true := by
    intro l member
    exact bne_iff_ne.mpr fun same => absent (same ▸ List.mem_reverse.mp member)
  rw [linesBehindLast, List.reverse_append, List.reverse_cons, List.append_assoc,
    List.takeWhile_append_of_pos other]
  simp

/-- The rows of the table of options. -/
def rowsOfUsage? (usage : String) : Option (List UsageRow) :=
  (linesBehindLast "Options:".toList (usage.toList.splitOn '\n')).mapM UsageRow.ofLine?

theorem mapM_map_of_inverse {γ δ : Type} {write : γ → δ} {read? : δ → Option γ} {l : List γ}
    (inverse : ∀ x ∈ l, read? (write x) = some x) : (l.map write).mapM read? = some l := by
  induction l with
  | nil => rfl
  | cons x l ih =>
    obtain ⟨first, others⟩ := List.forall_mem_cons.mp inverse
    rw [List.map_cons, List.mapM_cons, first, ih others]
    rfl

/-- A row that can be read back from its line: no blank in a column, and no line break. -/
structure UsageRow.Plain (row : UsageRow) : Prop where
  short : ' ' ∉ row.short.toList ∧ '\n' ∉ row.short.toList
  long : ' ' ∉ row.long.toList ∧ '\n' ∉ row.long.toList
  parameter : ' ' ∉ row.parameter.toList ∧ '\n' ∉ row.parameter.toList
  description : '\n' ∉ row.description.toList

theorem newline_not_mem_text {row : UsageRow} (plain : row.Plain) : '\n' ∉ row.text.toList := by
  have padded : ∀ width (text : String), '\n' ∉ text.toList →
      '\n' ∉ (Text.padRight width text).toList := by
    intro width text absent
    rw [Text.toList_padRight, List.mem_append, not_or]
    exact ⟨absent, fun member => absurd (List.eq_of_mem_replicate member) (by decide)⟩
  have indent : '\n' ∉ "   ".toList := by decide
  have blank : '\n' ∉ " ".toList := by decide
  simp only [UsageRow.text, String.toList_append, List.mem_append, not_or, indent, blank,
    not_false_eq_true, and_true, true_and]
  exact ⟨⟨⟨padded 4 _ plain.short.2, padded 16 _ plain.long.2⟩, padded 10 _ plain.parameter.2⟩,
    plain.description⟩

namespace Schema

variable {α : Type} {schema : Schema α}

/-- The lines of the table are the rows, and the line before them announces it. -/
theorem lines_usage (plain : ∀ row ∈ schema.usageRows, row.Plain) :
    schema.usage.toList.splitOn '\n'
      = ((schema.usageLine ++ schema.usageDescription).toList.splitOn '\n' ++ [[]])
        ++ "Options:".toList :: schema.usageRows.map (·.text.toList) := by
  have parts : schema.usage.toList
      = (schema.usageLine ++ schema.usageDescription).toList ++ '\n' :: ([] ++ '\n' ::
        ("Options:".toList ++ '\n' ::
          ['\n'].intercalate (schema.usageRows.map (·.text.toList)))) := by
    have heading : "\n\nOptions:\n".toList = '\n' :: '\n' :: ("Options:".toList ++ ['\n']) := rfl
    have lineBreak : "\n".toList = ['\n'] := rfl
    simp only [usage, String.toList_append, String.toList_intercalate, heading, lineBreak,
      List.map_map, Function.comp_def, List.append_assoc, List.cons_append, List.nil_append]
  have rows_ne : schema.usageRows.map (·.text.toList) ≠ [] := by
    rw [usageRows, List.map_append]
    exact List.append_ne_nil_of_right_ne_nil _ (List.cons_ne_nil _ _)
  have noBreak : ∀ line ∈ schema.usageRows.map (·.text.toList), '\n' ∉ line := by
    intro line member
    obtain ⟨row, inside, rfl⟩ := List.mem_map.mp member
    exact newline_not_mem_text (plain row inside)
  -- What stands before the table may have any number of lines, and ends with an empty one.
  rw [parts, List.splitOn_append_cons_self, List.splitOn_append_cons_self,
    List.splitOn_append_cons_self_of_not_mem (by decide),
    List.splitOn_intercalate '\n' noBreak rows_ne, List.splitOn_nil, List.append_assoc]

/-- The rows of a usage text are read back in order. -/
theorem rowsOfUsage?_usage (plain : ∀ row ∈ schema.usageRows, row.Plain) :
    rowsOfUsage? schema.usage = some schema.usageRows := by
  have heading : "Options:".toList ∉ schema.usageRows.map (·.text.toList) := by
    intro member
    obtain ⟨row, -, same⟩ := List.mem_map.mp member
    have first := congrArg List.head? same
    simp [UsageRow.text] at first
  rw [rowsOfUsage?, lines_usage plain, linesBehindLast_append heading]
  refine mapM_map_of_inverse fun row member => ?_
  have plain := plain row member
  exact UsageRow.ofLine?_text plain.short.1 plain.long.1 plain.parameter.1

end Schema

/-! ## The first line -/

/-- A name on the first line, in angle brackets or in square ones. -/
structure UsageWord where
  name : String
  angled : Bool
  deriving DecidableEq, Repr

namespace UsageWord

def text (word : UsageWord) : List Char :=
  if word.angled then '<' :: (word.name.toList ++ ['>']) else '[' :: (word.name.toList ++ [']'])

/-- The name before the bracket that closes it. -/
def nameBefore? (bracket : Char) (text : List Char) : Option String :=
  if text.getLast? = some bracket then some (String.ofList text.dropLast) else none

/-- The name between brackets. -/
def ofText? : List Char → Option UsageWord
  | '<' :: rest => (nameBefore? '>' rest).map (⟨·, true⟩)
  | '[' :: rest => (nameBefore? ']' rest).map (⟨·, false⟩)
  | _ => none

theorem ofText?_text (word : UsageWord) : ofText? word.text = some word := by
  rcases word with ⟨name, _ | _⟩ <;> simp [text, ofText?, nameBefore?]

end UsageWord

theorem UsageWord.not_mem_text {word : UsageWord} {c : Char} (foreign : c ∉ ['<', '>', '[', ']'])
    (absent : c ∉ word.name.toList) : c ∉ word.text := by
  simp only [List.mem_cons, List.not_mem_nil, or_false, not_or] at foreign
  unfold UsageWord.text
  cases word.angled <;> simp [foreign, absent]

theorem toList_angled (name : String) :
    (Field.angled name).toList = UsageWord.text ⟨name, true⟩ := by
  simp [Field.angled, UsageWord.text]

/-- The words behind the name of the program on the first line. The name must be known, since it may
have words in it that look like those behind it. -/
def wordsOfUsage? (program usage : String) : Option (List UsageWord) := do
  let rest ← ("Usage: " ++ program ++ " [OPTIONS]").toList.isPrefixOf? usage.toList
  ((rest.takeWhile (· != '\n')).splitOn ' ').tail.mapM UsageWord.ofText?

theorem intercalate_cons_eq_flatMap {γ : Type} (separator : γ) (first : List γ)
    (others : List (List γ)) :
    [separator].intercalate (first :: others) = first ++ others.flatMap (separator :: ·) := by
  induction others generalizing first with
  | nil => simp
  | cons second others ih =>
    rw [List.intercalate_cons_cons, ih, List.flatMap_cons]
    simp

/-- Each word has a blank before it, so the first piece is empty. -/
theorem splitOn_flatMap_blank {words : List (List Char)} (noBlank : ∀ word ∈ words, ' ' ∉ word) :
    (words.flatMap (' ' :: ·)).splitOn ' ' = [] :: words := by
  have joined := intercalate_cons_eq_flatMap ' ' [] words
  rw [List.nil_append] at joined
  rw [← joined]
  refine List.splitOn_intercalate ' ' ?_ (List.cons_ne_nil _ _)
  exact List.forall_mem_cons.mpr ⟨List.not_mem_nil, noBlank⟩

namespace Schema

variable {α : Type} {schema : Schema α}

/-- The names of the fields are identifiers: they have no blanks and no line breaks. -/
def PlainNames (schema : Schema α) : Prop :=
  ∀ f ∈ schema.fields, ' ' ∉ f.name.toList ∧ '\n' ∉ f.name.toList

theorem upperName_plain (plain : schema.PlainNames) {f : Field α} (member : f ∈ schema.fields) :
    ' ' ∉ f.upperName.toList ∧ '\n' ∉ f.upperName.toList :=
  ⟨Text.not_mem_upper (by decide) (by decide) (plain f member).1,
    Text.not_mem_upper (by decide) (by decide) (plain f member).2⟩

/-- The words of the first line: the names of the positional fields, in angle brackets where a
field is required. -/
def usageWords (schema : Schema α) : List UsageWord :=
  schema.positionals.map fun f => ⟨f.1.upperName, f.1.required⟩

theorem toList_usageWord {f : Field α} (positional : f.isPositional = true) :
    f.usageWord.toList = UsageWord.text ⟨f.upperName, f.required⟩ := by
  have shown : f.displayName = f.upperName := by
    unfold Field.displayName
    rw [Field.spellings?_eq_none_iff.mpr positional]
  unfold Field.usageWord
  rw [shown]
  cases f.required with
  | true => exact toList_angled f.upperName
  | false => simp [UsageWord.text]

/-- Behind the name of the program come the words, each with a blank before it, and a line break. -/
theorem exists_toList_usage (schema : Schema α) :
    ∃ rest, ("Usage: " ++ schema.program ++ " [OPTIONS]").toList
      ++ ((schema.usageWords.map UsageWord.text).flatMap (' ' :: ·) ++ '\n' :: rest)
        = schema.usage.toList := by
  have words : (String.join (schema.positionals.map fun f => " " ++ f.1.usageWord)).toList
      = (schema.usageWords.map UsageWord.text).flatMap (' ' :: ·) := by
    rw [String.toList_join, usageWords, List.flatMap_map, List.flatMap_map, List.flatMap_map]
    refine List.flatMap_congr fun f member => ?_
    rw [String.toList_append, toList_usageWord (List.mem_filter.mp member).2]
    rfl
  have heading : "\n\nOptions:\n".toList = '\n' :: "\nOptions:\n".toList := rfl
  have gap : "\n\n".toList = ['\n', '\n'] := rfl
  unfold usage usageLine usageDescription
  generalize "\n".intercalate (schema.usageRows.map UsageRow.text) = table
  split
  · refine ⟨"\nOptions:\n".toList ++ table.toList, ?_⟩
    simp only [String.toList_append, words, heading, String.toList_empty, List.append_assoc,
      List.cons_append, List.nil_append]
  · refine ⟨'\n' :: (schema.description.toList ++ ("\n\nOptions:\n".toList ++ table.toList)), ?_⟩
    simp only [String.toList_append, words, gap, List.append_assoc, List.cons_append,
      List.nil_append]

/-- The words of the first line are read back in order. -/
theorem wordsOfUsage?_usage (plain : schema.PlainNames) :
    wordsOfUsage? schema.program schema.usage = some schema.usageWords := by
  obtain ⟨rest, parts⟩ := exists_toList_usage schema
  have absent : ∀ word ∈ schema.usageWords.map UsageWord.text, ' ' ∉ word ∧ '\n' ∉ word := by
    intro text member
    obtain ⟨word, inside, rfl⟩ := List.mem_map.mp member
    obtain ⟨f, positional, rfl⟩ := List.mem_map.mp inside
    have declared : f.1 ∈ schema.fields :=
      List.fst_mem_of_mem_zipIdx (List.mem_filter.mp positional).1
    obtain ⟨noBlank, noBreak⟩ := upperName_plain plain declared
    exact ⟨UsageWord.not_mem_text (by decide) noBlank, UsageWord.not_mem_text (by decide) noBreak⟩
  have line : ((schema.usageWords.map UsageWord.text).flatMap (' ' :: ·) ++ '\n' :: rest
      ).takeWhile (· != '\n') = (schema.usageWords.map UsageWord.text).flatMap (' ' :: ·) := by
    rw [List.takeWhile_append_of_pos]
    · simp
    · intro c member
      obtain ⟨word, inside, here⟩ := List.mem_flatMap.mp member
      refine bne_iff_ne.mpr fun lineBreak => ?_
      rcases List.mem_cons.mp (lineBreak ▸ here) with blank | later
      · exact absurd blank (by decide)
      · exact (absent word inside).2 later
  unfold wordsOfUsage?
  rw [List.isPrefixOf?_eq_some_iff_append_eq.mpr parts]
  show ((List.takeWhile _ _).splitOn ' ').tail.mapM UsageWord.ofText? = _
  rw [line, splitOn_flatMap_blank fun word member => (absent word member).1, List.tail_cons]
  exact mapM_map_of_inverse fun word _ => UsageWord.ofText?_text word

end Schema
end Options
end ScriptScan
