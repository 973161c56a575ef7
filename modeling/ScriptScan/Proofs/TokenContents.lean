import ScriptScan.Proofs.Layout

/-!
# What the lexeme of a token fixes

A token of a scan has no more in it than its lexeme says, apart from its line: the lexeme fixes
the category, and both fix the literal (`Token.Contents`).

* `Binary64.isNaN_nearest` and `Binary64.isNegative_nearest`: rounding gives no NaN, and it leaves
  the sign bit clear.
* `LexicalUnit.eq_of_lexeme`: a lexeme stands for one unit only, so a word has no other category
  than the one it is looked up to have (`category_of_word`).
* `contents_of_lexeme` puts the clauses together for one token.
* `scan_contents` is the result, for every source.
-/

namespace ScriptScan

/-! ## Numbers without a sign -/

namespace Binary64

theorem infiniteMagnitude_lt_signBit : infiniteMagnitude < signBit := by decide

theorem toNat_bits_ofMagnitude {n : Nat} (bounded : n ≤ infiniteMagnitude) :
    (ofMagnitude n).bits.toNat = n :=
  UInt64.toNat_ofNat_of_lt (Nat.lt_of_le_of_lt bounded (by decide))

/-- The nearest word is no larger than infinity. -/
theorem toNat_bits_nearest_le (num den : Nat) :
    (nearest num den).bits.toNat ≤ infiniteMagnitude := by
  have bounded (scaled : Nat) : nearestMagnitude scaled den ≤ infiniteMagnitude :=
    Nat.min_le_right _ _
  rw [nearest, toNat_bits_ofMagnitude (bounded _)]
  exact bounded _

theorem isNegative_nearest (num den : Nat) : (nearest num den).isNegative = false := by
  have bounded := toNat_bits_nearest_le num den
  have large := infiniteMagnitude_lt_signBit
  exact decide_eq_false (Nat.not_le_of_lt (Nat.lt_of_le_of_lt bounded large))

theorem isNaN_nearest (num den : Nat) : (nearest num den).isNaN = false := by
  have bounded := toNat_bits_nearest_le num den
  exact decide_eq_false (Nat.not_lt_of_le (Nat.le_trans (Nat.mod_le _ _) bounded))

end Binary64

/-! ## Words -/

namespace Category

theorem ofWord_eq_keyword_iff {text : String} {k : Keyword} :
    ofWord text = .keyword k ↔ text = k.spelling := by
  rw [eq_comm (a := text), ← Keyword.ofSpelling?_eq_some_iff, ofWord]
  cases Keyword.ofSpelling? text <;> simp

theorem ofWord_eq_identifier_iff {text : String} :
    ofWord text = .identifier ↔ ∀ k : Keyword, text ≠ k.spelling := by
  constructor
  · intro isIdentifier k spelled
    rw [ofWord_eq_keyword_iff.mpr spelled] at isIdentifier
    cases isIdentifier
  · intro free
    cases found : Keyword.ofSpelling? text with
    | none => rw [ofWord, found]
    | some k => exact absurd (Keyword.ofSpelling?_eq_some_iff.mp found).symm (free k)

/-- Only the two truth words have a literal. -/
theorem literal_ofWord (text : String) :
    (ofWord text).literal
      = if text = "true" then .bool true else if text = "false" then .bool false else .absent := by
  cases found : Keyword.ofSpelling? text with
  | none =>
    have free : ∀ k : Keyword, text ≠ k.spelling :=
      ofWord_eq_identifier_iff.mp (by rw [ofWord, found])
    rw [ofWord, found, if_neg (show text ≠ "true" from free .trueWord),
      if_neg (show text ≠ "false" from free .falseWord)]
    rfl
  | some k =>
    rw [ofWord, found, ← Keyword.ofSpelling?_eq_some_iff.mp found]
    cases k <;> decide

end Category

namespace LexicalUnit

/-- A lexeme stands for one unit only. -/
theorem eq_of_lexeme {u v : LexicalUnit} {p q : Category × String} (first : Lexeme u p)
    (second : Lexeme v q) (same : p.2 = q.2) : u = v := by
  obtain ⟨c, rest, starts⟩ := List.exists_cons_of_ne_nil (text_ne_nil_of_inGrammar first.1)
  have startsToo : v.text = c :: rest := by
    rw [← text_of_kind second.2, ← same, text_of_kind first.2, starts]
  -- With nothing behind the lexeme both units end with it, and only one is cut off.
  have cuts := cut_of_endsBefore first.1 (endsBefore_nil first.2)
    (by rw [List.append_nil, starts] : u.text ++ [] = c :: rest)
  rw [cut_of_endsBefore second.1 (endsBefore_nil second.2)
    (by rw [List.append_nil, startsToo])] at cuts
  exact (congrArg Prod.fst cuts).symm

theorem lexeme_word {letters : String} (allowed : (word letters.toList).InGrammar) :
    Lexeme (word letters.toList) (Category.ofWord letters, letters) := by
  refine ⟨allowed, ?_⟩
  simp only [kind?, text, String.ofList_toList]

/-- A word has the category that it is looked up to have. -/
theorem category_of_word {u : LexicalUnit} {p : Category × String} (lexeme : Lexeme u p)
    (allowed : (word p.2.toList).InGrammar) : p.1 = Category.ofWord p.2 := by
  have isWord := lexeme_word allowed
  rw [← eq_of_lexeme lexeme isWord rfl] at isWord
  have same := Option.some.inj (lexeme.2.symm.trans isWord.2)
  exact congrArg Prod.fst same

theorem inGrammar_of_isWord {u : LexicalUnit} {p : Category × String} (lexeme : Lexeme u p)
    (isWord : p.1.isWord = true) : (word p.2.toList).InGrammar := by
  obtain ⟨allowed, kind⟩ := lexeme
  cases u with
  | word letters =>
    cases kind
    rwa [text, String.toList_ofList]
  | _ => cases kind <;> cases isWord

theorem category_eq_keyword_iff {u : LexicalUnit} {p : Category × String} (lexeme : Lexeme u p)
    {k : Keyword} : p.1 = .keyword k ↔ p.2 = k.spelling := by
  constructor
  · intro isKeyword
    have allowed := inGrammar_of_isWord lexeme (by rw [isKeyword]; rfl)
    rwa [category_of_word lexeme allowed, Category.ofWord_eq_keyword_iff] at isKeyword
  · intro spelled
    have allowed : (word p.2.toList).InGrammar := spelled ▸ inGrammar_spelling k
    rwa [category_of_word lexeme allowed, Category.ofWord_eq_keyword_iff]

theorem category_eq_identifier_iff {u : LexicalUnit} {p : Category × String}
    (lexeme : Lexeme u p) :
    p.1 = .identifier ↔
      (word p.2.toList).InGrammar ∧ ∀ k : Keyword, p.2 ≠ k.spelling := by
  constructor
  · intro isIdentifier
    have allowed := inGrammar_of_isWord lexeme (by rw [isIdentifier]; rfl)
    rw [category_of_word lexeme allowed, Category.ofWord_eq_identifier_iff] at isIdentifier
    exact ⟨allowed, isIdentifier⟩
  · rintro ⟨allowed, free⟩
    rwa [category_of_word lexeme allowed, Category.ofWord_eq_identifier_iff]

theorem literal_of_word {u : LexicalUnit} {p : Category × String} (lexeme : Lexeme u p)
    (allowed : (word p.2.toList).InGrammar) :
    u.literal = if p.2 = "true" then .bool true else if p.2 = "false" then .bool false
      else .absent := by
  rw [eq_of_lexeme lexeme (lexeme_word allowed) rfl, literal, text, String.ofList_toList,
    Category.literal_ofWord]

end LexicalUnit

/-! ## One token -/

/-- What the lexeme of a token tells of it, when the token is not the end of the source. -/
structure Token.Contents (t : Token) : Prop where
  /-- No lexeme has the category of truth values. The truth words are keywords. -/
  category : t.category ≠ .eof ∧ t.category ≠ .bool
  operator : ∀ op, t.category = .operator op →
    t.lexeme = String.ofList op.spelling ∧ t.literal = .absent
  string : t.category = .string →
    ∃ content : String, '"' ∉ content.toList ∧ t.lexeme = "\"" ++ content ++ "\"" ∧
      t.literal = .string content
  /-- The literal is what the digits are read as: never a NaN, and without a sign. -/
  number : t.category = .number →
    ∃ whole fraction, (LexicalUnit.number whole fraction).InGrammar ∧
      t.lexeme.toList = (LexicalUnit.number whole fraction).text ∧
      ∃ x, Binary64.ofText? t.lexeme.toList = some x ∧ t.literal = .number x ∧
        x.isNaN = false ∧ x.isNegative = false
  keyword : ∀ k : Keyword, t.category = .keyword k ↔ t.lexeme = k.spelling
  identifier : t.category = .identifier ↔
    (LexicalUnit.word t.lexeme.toList).InGrammar ∧ ∀ k : Keyword, t.lexeme ≠ k.spelling
  /-- Of all words only the two truth words have a literal. -/
  truth : (LexicalUnit.word t.lexeme.toList).InGrammar →
    t.literal = if t.lexeme = "true" then .bool true else if t.lexeme = "false" then .bool false
      else .absent

open LexicalUnit

theorem category_ne_of_lexeme {u : LexicalUnit} {p : Category × String} (lexeme : Lexeme u p) :
    p.1 ≠ .eof ∧ p.1 ≠ .bool := by
  obtain ⟨-, kind⟩ := lexeme
  cases u with
  | word letters =>
    cases kind
    exact ⟨ofWord_ne .eof rfl _, ofWord_ne .bool rfl _⟩
  | _ => cases kind <;> exact ⟨Category.noConfusion, Category.noConfusion⟩

theorem exists_string_of_lexeme {u : LexicalUnit} {p : Category × String} (lexeme : Lexeme u p)
    (isString : p.1 = .string) : ∃ content, u = string content ∧ '"' ∉ content := by
  obtain ⟨allowed, kind⟩ := lexeme
  cases u with
  | string content => exact ⟨content, rfl, allowed⟩
  | word letters =>
    cases kind
    exact absurd isString (ofWord_ne .string rfl _)
  | _ => cases kind <;> cases isString

theorem exists_number_of_lexeme {u : LexicalUnit} {p : Category × String} (lexeme : Lexeme u p)
    (isNumber : p.1 = .number) : ∃ whole fraction, u = number whole fraction := by
  obtain ⟨-, kind⟩ := lexeme
  cases u with
  | number whole fraction => exact ⟨whole, fraction, rfl⟩
  | word letters =>
    cases kind
    exact absurd isNumber (ofWord_ne .number rfl _)
  | _ => cases kind <;> cases isNumber

theorem contents_of_lexeme {u : LexicalUnit} {p : Category × String} (lexeme : Lexeme u p)
    (line : UInt32) : Token.Contents ⟨p.1, p.2, u.literal, line⟩ where
  category := category_ne_of_lexeme lexeme
  operator op isOperator := by
    obtain rfl := eq_operator_of_kind lexeme.2 isOperator
    cases lexeme.2
    exact ⟨rfl, rfl⟩
  string isString := by
    obtain ⟨content, rfl, noQuote⟩ := exists_string_of_lexeme lexeme isString
    refine ⟨String.ofList content, by rwa [String.toList_ofList], ?_, rfl⟩
    rw [← String.toList_inj, text_of_kind lexeme.2]
    simp [text]
  number isNumber := by
    obtain ⟨whole, fraction, rfl⟩ := exists_number_of_lexeme lexeme isNumber
    have written := text_of_kind lexeme.2
    refine ⟨whole, fraction, lexeme.1, written, _, ?_, rfl,
      Binary64.isNaN_nearest _ _, Binary64.isNegative_nearest _ _⟩
    rw [written, ofText?_text_number lexeme.1]
  keyword k := category_eq_keyword_iff lexeme
  identifier := category_eq_identifier_iff lexeme
  truth := literal_of_word lexeme

/-! ## All tokens of a scan -/

namespace Scan

/-- The tokens in front of the end of the source, each with the unit that it was made of. -/
theorem exists_lexeme_of_mem {source : String} {t : Token}
    (member : t ∈ (unitsOf source).filterMap PlacedUnit.token?) :
    ∃ u ∈ LexicalUnit.ofSource source.toList,
      Lexeme u t.kind ∧ t = ⟨t.category, t.lexeme, u.literal, t.line⟩ := by
  obtain ⟨p, here, found⟩ := List.mem_filterMap.mp member
  have inside := unit_mem_unitsOf here
  rw [PlacedUnit.token?_eq inside] at found
  obtain ⟨kind, ofUnit, rfl⟩ := Option.map_eq_some_iff.mp found
  exact ⟨p.unit, inside, lexeme_of_mem inside ofUnit, rfl⟩

theorem lexeme_infix_source {source : String} {u : LexicalUnit} {p : Category × String}
    (member : u ∈ LexicalUnit.ofSource source.toList) (kind : u.kind? = some p) :
    p.2.toList <:+: source.toList := by
  have inside := List.infix_of_mem_flatten (List.mem_map_of_mem (f := text) member)
  rwa [← List.flatMap_def, text_ofSource, ← text_of_kind kind] at inside

theorem contents_of_mem {source : String} {t : Token}
    (member : t ∈ (unitsOf source).filterMap PlacedUnit.token?) :
    t.lexeme.toList <:+: source.toList ∧ t.Contents := by
  obtain ⟨u, inside, lexeme, parts⟩ := exists_lexeme_of_mem member
  refine ⟨lexeme_infix_source inside lexeme.2, ?_⟩
  rw [parts]
  exact contents_of_lexeme lexeme t.line

theorem lexeme_ne_nil_of_mem {source : String} {t : Token}
    (member : t ∈ (unitsOf source).filterMap PlacedUnit.token?) : t.lexeme ≠ "" := by
  obtain ⟨u, inside, lexeme, -⟩ := exists_lexeme_of_mem member
  intro empty
  refine text_ne_nil_of_inGrammar lexeme.1 ?_
  rw [← text_of_kind lexeme.2, Token.kind, empty]
  rfl

/-- Tokens with the same lexeme differ in their lines only. -/
theorem eq_of_lexeme_of_mem {source other : String} {s t : Token}
    (first : s ∈ (ofSource source).tokens) (second : t ∈ (ofSource other).tokens)
    (same : s.lexeme = t.lexeme) : s.category = t.category ∧ s.literal = t.literal := by
  rcases List.mem_append.mp first with first | first
  · rcases List.mem_append.mp second with second | second
    · obtain ⟨u, -, lexeme, parts⟩ := exists_lexeme_of_mem first
      obtain ⟨v, -, lexemeToo, partsToo⟩ := exists_lexeme_of_mem second
      obtain rfl := eq_of_lexeme lexeme lexemeToo same
      have kinds := Option.some.inj (lexeme.2.symm.trans lexemeToo.2)
      exact ⟨congrArg Prod.fst kinds,
        (congrArg Token.literal parts).trans (congrArg Token.literal partsToo).symm⟩
    · rw [List.mem_singleton.mp second] at same
      exact absurd same (lexeme_ne_nil_of_mem first)
  · rw [List.mem_singleton.mp first] at same ⊢
    rcases List.mem_append.mp second with second | second
    · exact absurd same.symm (lexeme_ne_nil_of_mem second)
    · rw [List.mem_singleton.mp second]
      exact ⟨rfl, rfl⟩

theorem complaint_ne_malformedNumber {u : LexicalUnit} {message : String}
    (complains : u.complaint? = some message) (lexeme : String) :
    message ≠ (LexicalProblem.malformedNumber lexeme).message := by
  intro same
  unfold LexicalProblem.message at same
  rw [same] at complains
  cases u with
  | stray c =>
    have letters := congrArg String.toList (Option.some.inj complains)
    simp [String.toList_append] at letters
  | unclosed content =>
    have letters := congrArg String.toList (Option.some.inj complains)
    simp [String.toList_append] at letters
  | _ => cases complains

theorem call_ne_malformedNumber {source : String} {call : UInt32 × String}
    (told : call ∈ calls source) (lexeme : String) :
    call.2 ≠ (LexicalProblem.malformedNumber lexeme).message := by
  rw [calls_eq_complaints] at told
  obtain ⟨p, -, complains⟩ := List.mem_filterMap.mp told
  obtain ⟨message, ofUnit, rfl⟩ := Option.map_eq_some_iff.mp complains
  exact complaint_ne_malformedNumber ofUnit lexeme

end Scan

/-- The tokens of a scan end with the end of the source, and the lexemes of those before it stand
in the source and fix all of their contents. Lexemes mean the same in every source, and no number
of the language is reported as malformed. -/
theorem scan_contents (source : String) :
    (∃ body line, (Scan.ofSource source).tokens = body ++ [Token.eof line] ∧
      ∀ t ∈ body, t.lexeme.toList <:+: source.toList ∧ t.Contents) ∧
    (∀ other, ∀ s ∈ (Scan.ofSource source).tokens, ∀ t ∈ (Scan.ofSource other).tokens,
      s.lexeme = t.lexeme → s.category = t.category ∧ s.literal = t.literal) ∧
    ∀ call ∈ Scan.calls source, ∀ lexeme,
      call.2 ≠ (LexicalProblem.malformedNumber lexeme).message := by
  refine ⟨⟨_, _, rfl, fun t => Scan.contents_of_mem⟩, ?_, fun call => Scan.call_ne_malformedNumber⟩
  intro other s first t second
  exact Scan.eq_of_lexeme_of_mem first second

/-- A backslash escapes nothing, only the whole word is looked up, and case matters. -/
example : (Scan.ofSource "\"a\\n\" 1.50 trues true True nil _").tokens.map Token.reading
    = [((.string, "\"a\\n\""), .string "a\\n"), ((.number, "1.50"), .number ⟨0x3FF8000000000000⟩),
      ((.identifier, "trues"), .absent), ((.keyword .trueWord, "true"), .bool true),
      ((.identifier, "True"), .absent), ((.keyword .nilWord, "nil"), .absent),
      ((.identifier, "_"), .absent), ((.eof, ""), .absent)] := by
  decide +kernel

end ScriptScan
