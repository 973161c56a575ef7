import ScriptScan.Proofs.Prompt

/-!
# Reading tokens back from the echo

The echo shows each token on a line of its own, but the lines do not tell the tokens apart: a
string may have line breaks in it, and text that looks like other tokens. Still nothing but the
lines of the tokens is lost. A category has a name without spaces, the name tells whether the
lexeme ends at a space or at a quote, and the lexeme fixes the literal.

* `legible_of_mem`: the tokens of a scan are of this kind, the end of the source included.
* `record_append_inj`: two records with some text behind each of them are equal only when the
  records are equal, and the texts.
* `echo_eq_iff` is the result. How a literal is shown plays no part in it.
-/

namespace ScriptScan

open LexicalUnit

/-! ## Records -/

/-- What an echo shows of a token, when literals are shown in the given way. -/
def Token.record (shown : Literal → List Char) (r : (Category × String) × Literal) : List Char :=
  r.1.1.name.toList ++ ' ' :: (r.1.2.toList ++ ' ' :: (shown r.2 ++ ['\n']))

/-- A string stands between quotes with no other quote, and the lexemes of all other categories
have no space. -/
def Token.Bounded (p : Category × String) : Prop :=
  (p.1 = .string ∧ ∃ content, '"' ∉ content ∧ p.2.toList = '"' :: (content ++ ['"'])) ∨
  (p.1 ≠ .string ∧ ' ' ∉ p.2.toList)

/-- What the echo relies on: the end of the lexeme can be told, and the lexeme fixes the literal. -/
structure Token.Legible (r : (Category × String) × Literal) : Prop where
  bounded : Token.Bounded r.1
  literal : r.2 = denoted r.1

open Token

theorem toList_echo (tokens : List Token) :
    (Program.echo tokens).toList
      = (tokens.map reading).flatMap (record fun literal => literal.display.toList) := by
  rw [Program.echo, String.toList_join, List.flatMap_map, List.flatMap_map]
  refine List.flatMap_congr fun t _ => ?_
  simp [display, record, reading, kind]

/-! ## Tokens of a scan -/

theorem space_not_mem_number {whole fraction : List Char}
    (allowed : (number whole fraction).InGrammar) : ' ' ∉ (number whole fraction).text := by
  obtain ⟨-, whole_inside, fraction_inside⟩ := allowed
  have foreign : ∀ digits : List Char, (∀ c ∈ digits, c.isDigit = true) → ' ' ∉ digits :=
    fun digits inside member => Bool.noConfusion (inside ' ' member)
  cases fraction with
  | nil =>
    rw [text_number_nil]
    exact foreign whole whole_inside
  | cons d places =>
    rw [text_number_cons, List.mem_append, List.mem_cons]
    rintro (here | point | behind)
    · exact foreign whole whole_inside here
    · cases point
    · exact foreign (d :: places) fraction_inside behind

theorem space_not_mem_word {letters : List Char} (allowed : (word letters).InGrammar) :
    ' ' ∉ letters := by
  obtain ⟨first, more, rfl, start, inside⟩ := allowed
  rw [List.mem_cons]
  rintro (rfl | behind)
  · cases start
  · exact Bool.noConfusion (inside ' ' behind)

theorem bounded_of_lexeme {u : LexicalUnit} {p : Category × String} (lexeme : Lexeme u p) :
    Bounded p := by
  have written := text_of_kind lexeme.2
  obtain ⟨allowed, kind⟩ := lexeme
  cases u with
  | operator op =>
    cases kind
    refine .inr ⟨Category.noConfusion, ?_⟩
    rw [written]
    cases op <;> decide
  | string content =>
    cases kind
    exact .inl ⟨rfl, content, allowed, written⟩
  | number whole fraction =>
    cases kind
    refine .inr ⟨Category.noConfusion, ?_⟩
    rw [written]
    exact space_not_mem_number allowed
  | word letters =>
    cases kind
    refine .inr ⟨ofWord_ne .string rfl _, ?_⟩
    rw [written]
    exact space_not_mem_word allowed
  | _ => cases kind

theorem lexeme_of_reading {source : List Char} {u : LexicalUnit} (member : u ∈ ofSource source)
    {r : (Category × String) × Literal} (reads : u.reading? = some r) : Lexeme u r.1 := by
  obtain ⟨p, kind, rfl⟩ := Option.map_eq_some_iff.mp reads
  exact lexeme_of_mem member kind

theorem legible_of_mem {source : String} {r : (Category × String) × Literal}
    (member : r ∈ (Scan.ofSource source).tokens.map reading) : Legible r := by
  rw [Scan.readings_ofSource, List.mem_append, List.mem_singleton] at member
  rcases member with ofUnit | rfl
  · obtain ⟨u, here, reads⟩ := List.mem_filterMap.mp ofUnit
    have lexeme := lexeme_of_reading here reads
    rw [reading?_of_lexeme lexeme, Option.some.injEq] at reads
    exact ⟨bounded_of_lexeme lexeme, by rw [← reads]⟩
  · exact ⟨.inr ⟨Category.noConfusion, List.not_mem_nil⟩, rfl⟩

/-! ## Records one by one -/

/-- What stands before the first character of its kind can be told. -/
theorem front_inj {c : Char} {front other a b : List Char} (outside : c ∉ front)
    (outsideToo : c ∉ other) (same : front ++ c :: a = other ++ c :: b) :
    front = other ∧ a = b := by
  have stops : ∀ rest, StopsAt (· != c) (c :: rest) :=
    fun rest => stopsAt_cons.mpr (bne_self_eq_false c)
  have fronts := congrArg (List.takeWhile (· != c)) same
  rw [takeWhile_append_of_stopsAt (inside_of_not_mem outside) (stops a),
    takeWhile_append_of_stopsAt (inside_of_not_mem outsideToo) (stops b)] at fronts
  subst fronts
  exact ⟨rfl, (List.cons_inj_right c).mp (List.append_cancel_left same)⟩

theorem space_not_mem_name (category : Category) : ' ' ∉ category.name.toList := by
  cases category with
  | operator op => cases op <;> decide
  | keyword word => cases word <;> decide
  | _ => decide

theorem eq_of_name {category other : Category} (same : category.name = other.name) :
    category = other :=
  eq_of_find?_key Category.ofName?_name same

/-- In front of a space the end of a lexeme can be told, whatever comes later. -/
theorem lexeme_append_inj {p q : Category × String} (first : Bounded p) (second : Bounded q)
    (category : p.1 = q.1) {a b : List Char}
    (same : p.2.toList ++ ' ' :: a = q.2.toList ++ ' ' :: b) : p = q ∧ a = b := by
  obtain ⟨lexemes, behind⟩ : p.2.toList = q.2.toList ∧ a = b := by
    rcases first with ⟨isString, content, noQuote, written⟩ | ⟨noString, noSpace⟩
    · rcases second with ⟨-, other, noOther, writtenToo⟩ | ⟨noString, -⟩
      · rw [written, writtenToo, List.cons_append, List.cons_append, List.cons_inj_right,
          List.append_assoc, List.append_assoc] at same
        obtain ⟨contents, behind⟩ := front_inj noQuote noOther same
        exact ⟨by rw [written, writtenToo, contents], (List.cons_inj_right ' ').mp behind⟩
      · exact absurd (category.symm.trans isString) noString
    · rcases second with ⟨isString, -⟩ | ⟨-, noOther⟩
      · exact absurd (category.trans isString) noString
      · exact front_inj noSpace noOther same
  exact ⟨Prod.ext category (String.toList_inj.mp lexemes), behind⟩

/-- A record tells its token and where it ends, whatever comes later. -/
theorem record_append_inj (shown : Literal → List Char) {r s : (Category × String) × Literal}
    (first : Legible r) (second : Legible s) {a b : List Char}
    (same : record shown r ++ a = record shown s ++ b) : r = s ∧ a = b := by
  simp only [record, List.append_assoc, List.cons_append] at same
  obtain ⟨names, behind⟩ := front_inj (space_not_mem_name _) (space_not_mem_name _) same
  have category := eq_of_name (String.toList_inj.mp names)
  obtain ⟨kinds, later⟩ := lexeme_append_inj first.bounded second.bounded category behind
  -- The lexemes are the same, so the literals are, and so is what is shown of them.
  have literals : r.2 = s.2 := by rw [first.literal, second.literal, kinds]
  rw [literals] at later
  exact ⟨Prod.ext kinds literals, (List.cons_inj_right '\n').mp (List.append_cancel_left later)⟩

theorem record_ne_nil (shown : Literal → List Char) (r : (Category × String) × Literal) :
    record shown r ≠ [] := by
  simp [record]

/-- A row of records tells its tokens. -/
theorem eq_of_flatMap_record (shown : Literal → List Char)
    {readings others : List ((Category × String) × Literal)}
    (first : ∀ r ∈ readings, Legible r) (second : ∀ r ∈ others, Legible r)
    (same : readings.flatMap (record shown) = others.flatMap (record shown)) :
    readings = others := by
  induction readings generalizing others with
  | nil =>
    cases others with
    | nil => rfl
    | cons s others =>
      rw [List.flatMap_nil, List.flatMap_cons] at same
      exact absurd (List.append_eq_nil_iff.mp same.symm).1 (record_ne_nil shown s)
  | cons r readings ih =>
    obtain ⟨here, later⟩ := List.forall_mem_cons.mp first
    cases others with
    | nil =>
      rw [List.flatMap_nil, List.flatMap_cons] at same
      exact absurd (List.append_eq_nil_iff.mp same).1 (record_ne_nil shown r)
    | cons s others =>
      obtain ⟨there, laterToo⟩ := List.forall_mem_cons.mp second
      rw [List.flatMap_cons, List.flatMap_cons] at same
      obtain ⟨rfl, behind⟩ := record_append_inj shown here there same
      rw [ih later laterToo behind]

/-! ## The echo of a scan -/

namespace Program

/-- What a run with a script shows is the echo of its tokens, and it loses nothing of them but
their lines: two scans with the same echo have as many tokens, and each of them has the same
category, lexeme and literal in both. -/
theorem echo_eq_iff (a b : String) :
    (∀ path, (runScript false path (.content (encode a.toList))).output
      = echo (Scan.ofSource a).tokens) ∧
    (echo (Scan.ofSource a).tokens = echo (Scan.ofSource b).tokens ↔
      (Scan.ofSource a).tokens.map Token.reading = (Scan.ofSource b).tokens.map Token.reading) := by
  refine ⟨fun path => ?_, ?_⟩
  · rw [runScript_eq (decode?_encode_toList a)]
    rfl
  · rw [← String.toList_inj, toList_echo, toList_echo]
    constructor
    · exact eq_of_flatMap_record _ (fun r => legible_of_mem) fun r => legible_of_mem
    · exact congrArg _

/-- A string can imitate other tokens, the end of the source among them. -/
example : echo (Scan.ofSource "\"\nEof  nil\n\"").tokens
    = "String \"\nEof  nil\n\" \nEof  nil\n\nEof  nil\n" := by
  decide +kernel

end Program
end ScriptScan
