import ScriptScan.Proofs.Adjacency

/-!
# Tokens with white space and comments between them

A script is laid out freely: white space and comments may stand before its tokens, and each
token may be followed by white space with comments behind it. `Gap` is such a text,
`LastGap` one at the end of a source, where a comment needs no line break, and `Spaced` says
of a list of tokens that each of them has a gap behind it.

* `LexicalUnit.filterMap_gap_append`: a gap leaves no trace, whatever its comments say.
* `LexicalUnit.endsBefore_of_startsBlank`: white space ends every token.
* `exists_units_of_spaced`: so the units of a laid out text are its tokens and gaps.
* `scan_layout` is the result: a scan of the text gives back the tokens it was written from,
  with the literals that their lexemes denote, and reports nothing.
-/

namespace ScriptScan

/-! ## Layout -/

/-- White space and comments. Each comment has the line break that ends it. -/
inductive Gap : List Char → Prop
  | nil : Gap []
  | blank {c : Char} {rest : List Char} :
      c = ' ' ∨ c = '\t' ∨ c = '\r' ∨ c = '\n' → Gap rest → Gap (c :: rest)
  | comment {line rest : List Char} :
      '\n' ∉ line → Gap rest → Gap ('/' :: '/' :: (line ++ '\n' :: rest))

/-- White space and comments at the end of a source. The last comment may end with it. -/
inductive LastGap : List Char → Prop
  | gap {text : List Char} : Gap text → LastGap text
  | comment {text line : List Char} :
      Gap text → '\n' ∉ line → LastGap (text ++ '/' :: '/' :: line)

/-- The text starts with white space. -/
def StartsBlank (text : List Char) : Prop :=
  ∃ c rest, text = c :: rest ∧ (c = ' ' ∨ c = '\t' ∨ c = '\r' ∨ c = '\n')

/-- The lexemes of tokens, each with the text behind it. -/
def laidOut (tokens : List ((Category × String) × List Char)) : List Char :=
  tokens.flatMap fun token => token.1.2.toList ++ token.2

/-- Each token is well formed, and behind it stands a gap that starts with white space.
Nothing needs to stand behind the last one. -/
def Spaced : List ((Category × String) × List Char) → Prop
  | [] => True
  | [(kind, gap)] => WellFormed kind ∧ (gap = [] ∨ StartsBlank gap ∧ LastGap gap)
  | (kind, gap) :: next :: rest =>
    WellFormed kind ∧ StartsBlank gap ∧ Gap gap ∧ Spaced (next :: rest)

/-- The literal that a lexeme of the category denotes: the text between the quotes of a
string, the number with the digits on both sides of the point, or a truth value. -/
def denoted : Category × String → Literal
  | (.string, lexeme) => .string (String.ofList lexeme.toList.tail.dropLast)
  | (.number, lexeme) =>
    let digits := lexeme.toList
    .number (Decimal.ofDigits (digits.takeWhile Char.isDigit)
      (digits.dropWhile Char.isDigit).tail).toBinary64
  | (.keyword .trueWord, _) => .bool true
  | (.keyword .falseWord, _) => .bool false
  | _ => .absent

namespace LexicalUnit

/-! ## Gaps -/

variable {γ : Type}

/-- The function has no value at white space and comments. -/
def SkipsGaps (f : LexicalUnit → Option γ) : Prop :=
  (∀ c, f (blank c) = none) ∧ ∀ line, f (comment line) = none

theorem filterMap_blank {f : LexicalUnit → Option γ} (skips : SkipsGaps f) {c : Char}
    (white : (blank c).InGrammar) (rest : List Char) :
    (ofSource (c :: rest)).filterMap f = (ofSource rest).filterMap f := by
  have first : ofSource (c :: rest) = blank c :: ofSource rest :=
    ofSource_text_append (u := blank c) white trivial
  rw [first, List.filterMap_cons, skips.1]

theorem filterMap_comment {f : LexicalUnit → Option γ} (skips : SkipsGaps f) {line : List Char}
    (noBreak : '\n' ∉ line) {rest : List Char} (ends : (comment line).EndsBefore rest) :
    (ofSource ('/' :: '/' :: (line ++ rest))).filterMap f = (ofSource rest).filterMap f := by
  have first : ofSource ('/' :: '/' :: (line ++ rest)) = comment line :: ofSource rest :=
    ofSource_text_append (u := comment line) noBreak ends
  rw [first, List.filterMap_cons, skips.2]

/-- A gap leaves no trace. -/
theorem filterMap_gap_append {f : LexicalUnit → Option γ} (skips : SkipsGaps f)
    {gap : List Char} (isGap : Gap gap) (rest : List Char) :
    (ofSource (gap ++ rest)).filterMap f = (ofSource rest).filterMap f := by
  induction isGap with
  | nil => rfl
  | blank white _ ih => rw [List.cons_append, filterMap_blank skips white, ih]
  | @comment line gap noBreak _ ih =>
    have ends : (comment line).EndsBefore ('\n' :: (gap ++ rest)) := stopsAt_cons.mpr (by decide)
    have lineBreak : (blank '\n').InGrammar := .inr (.inr (.inr rfl))
    rw [List.cons_append, List.cons_append, List.append_assoc, List.cons_append,
      filterMap_comment skips noBreak ends, filterMap_blank skips lineBreak, ih]

theorem filterMap_lastGap {f : LexicalUnit → Option γ} (skips : SkipsGaps f) {gap : List Char}
    (isGap : LastGap gap) : (ofSource gap).filterMap f = [] := by
  cases isGap with
  | gap isGap =>
    have nothing := filterMap_gap_append skips isGap []
    rwa [List.append_nil, ofSource] at nothing
  | @comment text line isGap noBreak =>
    have nothing := filterMap_comment skips noBreak (stopsAt_nil (· != '\n'))
    rw [List.append_nil, ofSource] at nothing
    rw [filterMap_gap_append skips isGap, nothing, List.filterMap_nil]

/-! ## Tokens before gaps -/

/-- White space ends every token. -/
theorem endsBefore_of_startsBlank {u : LexicalUnit} {p : Category × String} (lexeme : Lexeme u p)
    {text : List Char} (starts : StartsBlank text) : u.EndsBefore text := by
  obtain ⟨c, rest, rfl, white⟩ := starts
  refine endsBefore_blank lexeme.1 white ?_ rest
  rintro ⟨line, rfl⟩
  cases lexeme.2

theorem ofSource_lexeme_append {u : LexicalUnit} {p : Category × String} (lexeme : Lexeme u p)
    {rest : List Char} (ends : u.EndsBefore rest) :
    ofSource (p.2.toList ++ rest) = u :: ofSource rest := by
  rw [text_of_kind lexeme.2, ofSource_text_append lexeme.1 ends]

/-- A token's literal is the one that its lexeme denotes. -/
theorem literal_of_lexeme {u : LexicalUnit} {p : Category × String} (lexeme : Lexeme u p) :
    u.literal = denoted p := by
  obtain ⟨allowed, kind⟩ := lexeme
  cases u with
  | operator op =>
    cases kind
    rfl
  | string content =>
    cases kind
    simp [literal, denoted, text]
  | number whole fraction =>
    cases kind
    obtain ⟨-, inside, -⟩ := allowed
    -- The digits before the point end at the point, or with the lexeme.
    cases fraction with
    | nil =>
      have digits := takeWhile_append_of_stopsAt inside (stopsAt_nil Char.isDigit)
      have behind := dropWhile_append_of_stopsAt inside (stopsAt_nil Char.isDigit)
      rw [List.append_nil] at digits behind
      simp only [literal, denoted, String.toList_ofList, text_number_nil, digits, behind,
        List.tail_nil]
    | cons d places =>
      have point : StopsAt Char.isDigit ('.' :: d :: places) := stopsAt_cons.mpr (by decide)
      simp only [literal, denoted, String.toList_ofList, text_number_cons,
        takeWhile_append_of_stopsAt inside point, dropWhile_append_of_stopsAt inside point,
        List.tail_cons]
  | word letters =>
    cases kind
    simp only [literal, Category.ofWord]
    split
    · next w _ => cases w <;> rfl
    · rfl
  | _ => cases kind

theorem reading?_of_lexeme {u : LexicalUnit} {p : Category × String} (lexeme : Lexeme u p) :
    u.reading? = some (p, denoted p) := by
  rw [reading?, lexeme.2, Option.map_some, literal_of_lexeme lexeme]

theorem filterMap_reading_of_lexemes {units : List LexicalUnit} {kinds : List (Category × String)}
    (lexemes : List.Forall₂ Lexeme units kinds) :
    units.filterMap reading? = kinds.map fun p => (p, denoted p) := by
  induction lexemes with
  | nil => rfl
  | cons lexeme _ ih =>
    rw [List.filterMap_cons, reading?_of_lexeme lexeme, ih, List.map_cons]

/-! ## Laid out tokens -/

/-- The units of tokens with gaps behind them are those of the tokens, and the gaps. -/
theorem exists_units_of_spaced {tokens : List ((Category × String) × List Char)}
    (spaced : Spaced tokens) :
    ∃ units, List.Forall₂ Lexeme units (tokens.map Prod.fst) ∧
      ∀ (γ : Type) (f : LexicalUnit → Option γ), SkipsGaps f →
        (ofSource (laidOut tokens)).filterMap f = units.filterMap f := by
  fun_induction Spaced tokens with
  | case1 => exact ⟨[], .nil, fun _ _ _ => by simp [laidOut, ofSource]⟩
  | case2 kind gap =>
    obtain ⟨wellFormed, last⟩ := spaced
    obtain ⟨u, lexeme⟩ := exists_unit_of_wellFormed wellFormed
    have ends : u.EndsBefore gap := by
      rcases last with rfl | ⟨starts, -⟩
      · exact endsBefore_nil lexeme.2
      · exact endsBefore_of_startsBlank lexeme starts
    have isGap : LastGap gap := by
      rcases last with rfl | ⟨-, isGap⟩
      · exact .gap .nil
      · exact isGap
    refine ⟨[u], .cons lexeme .nil, fun γ f skips => ?_⟩
    simp only [laidOut, List.flatMap_cons, List.flatMap_nil, List.append_nil,
      ofSource_lexeme_append lexeme ends, List.filterMap_cons, filterMap_lastGap skips isGap,
      List.filterMap_nil]
  | case3 kind gap next rest ih =>
    obtain ⟨wellFormed, starts, isGap, later⟩ := spaced
    obtain ⟨u, lexeme⟩ := exists_unit_of_wellFormed wellFormed
    obtain ⟨units, lexemes, same⟩ := ih later
    refine ⟨u :: units, .cons lexeme lexemes, fun γ f skips => ?_⟩
    obtain ⟨c, behind, rfl, white⟩ := starts
    have ends : u.EndsBefore ((c :: behind) ++ laidOut (next :: rest)) :=
      endsBefore_of_startsBlank lexeme ⟨c, _, List.cons_append, white⟩
    have parts : laidOut ((kind, c :: behind) :: next :: rest)
        = kind.2.toList ++ ((c :: behind) ++ laidOut (next :: rest)) := by
      simp [laidOut]
    rw [parts, ofSource_lexeme_append lexeme ends, List.filterMap_cons,
      filterMap_gap_append skips isGap, same γ f skips, List.filterMap_cons]

end LexicalUnit

/-! ## Scans -/

open LexicalUnit in
/-- Tokens written with gaps between them are scanned again as they are: with their
categories and lexemes, each with the literal that its lexeme denotes, and without a report.
A gap may stand before the first token; without any token it may be the whole source. -/
theorem scan_layout {first : List Char} {tokens : List ((Category × String) × List Char)}
    (before : Gap first ∨ tokens = [] ∧ LastGap first) (spaced : Spaced tokens) :
    (Scan.ofSource (String.ofList (first ++ laidOut tokens))).tokens.map
        (fun t => ((t.category, t.lexeme), t.literal))
      = tokens.map (fun token => (token.1, denoted token.1)) ++ [((.eof, ""), .absent)] ∧
    Scan.calls (String.ofList (first ++ laidOut tokens)) = [] := by
  obtain ⟨units, lexemes, same⟩ := exists_units_of_spaced spaced
  have found : ∀ (γ : Type) (f : LexicalUnit → Option γ), SkipsGaps f →
      (LexicalUnit.ofSource (first ++ laidOut tokens)).filterMap f = units.filterMap f := by
    intro γ f skips
    rcases before with isGap | ⟨rfl, isGap⟩
    · rw [filterMap_gap_append skips isGap, same γ f skips]
    · cases lexemes
      have nothing := filterMap_lastGap skips isGap
      rwa [← List.append_nil first] at nothing
  constructor
  · have readings := Scan.readings_ofSource (String.ofList (first ++ laidOut tokens))
    rw [String.toList_ofList, found _ reading? ⟨fun _ => rfl, fun _ => rfl⟩,
      filterMap_reading_of_lexemes lexemes, List.map_map] at readings
    exact readings
  · rw [← List.map_eq_nil_iff (f := Prod.snd), Scan.complaints_calls, String.toList_ofList,
      found _ complaint? ⟨fun _ => rfl, fun _ => rfl⟩, filterMap_complaint_of_lexemes lexemes]

/-- A number, a point and a number that stay apart, and a string with a line break and a
backslash. One comment quotes a character that starts no token, another ends the source. -/
def pointsApart : List ((Category × String) × List Char) :=
  [((.number, "7"), [' ', '/', '/', '@', '.', '5', '\n']), ((.operator .dot, "."), ['\n']),
    ((.number, "5"), ['\t']), ((.string, "\"a\n\\\""), ['\r', '/', '/'])]

theorem spaced_pointsApart : Spaced pointsApart := by
  have digit : ∀ c : Char, c.isDigit = true →
      WellFormed (.number, String.ofList (LexicalUnit.number [c] []).text) := by
    intro c digit
    exact .number ⟨List.cons_ne_nil _ _, List.forall_mem_singleton.mpr digit, List.forall_mem_nil _⟩
  have noBreak : '\n' ∉ ['@', '.', '5'] := by decide
  have noQuote : '"' ∉ ['a', '\n', '\\'] := by decide
  have comment : Gap [' ', '/', '/', '@', '.', '5', '\n'] :=
    .blank (.inl rfl) (.comment noBreak .nil)
  have space : Gap ['\r'] := .blank (.inr (.inr (.inl rfl))) .nil
  have last : LastGap ['\r', '/', '/'] := .comment space List.not_mem_nil
  refine ⟨digit '7' rfl, ⟨_, _, rfl, .inl rfl⟩, comment, ?_⟩
  refine ⟨.operator .dot, ⟨_, _, rfl, .inr (.inr (.inr rfl))⟩,
    .blank (.inr (.inr (.inr rfl))) .nil, ?_⟩
  refine ⟨digit '5' rfl, ⟨_, _, rfl, .inr (.inl rfl)⟩, .blank (.inr (.inl rfl)) .nil, ?_⟩
  exact ⟨.string noQuote, .inr ⟨⟨_, _, rfl, .inr (.inr (.inl rfl))⟩, last⟩⟩

/-- The tokens are found again behind a comment with a quote. -/
theorem scan_layout_pointsApart :
    (Gap ['/', '/', '"', '\n'] ∧ Spaced pointsApart) ∧
    (Scan.ofSource "//\"\n7 //@.5\n.\n5\t\"a\n\\\"\r//").tokens.map
        (fun t => ((t.category, t.lexeme), t.literal))
      = [((.number, "7"), .number ⟨0x401c000000000000⟩), ((.operator .dot, "."), .absent),
        ((.number, "5"), .number ⟨0x4014000000000000⟩),
        ((.string, "\"a\n\\\""), .string "a\n\\"), ((.eof, ""), .absent)] ∧
    Scan.calls "//\"\n7 //@.5\n.\n5\t\"a\n\\\"\r//" = [] := by
  have noBreak : '\n' ∉ ['"'] := by decide
  have quote : Gap ['/', '/', '"', '\n'] := .comment noBreak .nil
  have source : String.ofList (['/', '/', '"', '\n'] ++ laidOut pointsApart)
      = "//\"\n7 //@.5\n.\n5\t\"a\n\\\"\r//" := by decide +kernel
  obtain ⟨tokens, calls⟩ := scan_layout (.inl quote) spaced_pointsApart
  rw [source] at tokens calls
  refine ⟨⟨quote, spaced_pointsApart⟩, ?_, calls⟩
  rw [tokens]
  decide +kernel

end ScriptScan
