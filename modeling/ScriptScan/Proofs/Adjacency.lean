import Mathlib.Data.List.Forall2
import ScriptScan.Proofs.Grammar
import ScriptScan.Proofs.Tokens

/-!
# Tokens without blanks between them

Tokens can be written one behind the other without anything between them when no neighbours
among them fuse. `Fuses` lists the neighbours that do: two that touch, or a number without a
fraction, a point and a number, where each two of the three may stand together.

* `LexicalUnit.ofSource_flatMap_text`: units written one behind the other are found again when
  each of them ends where the next one begins (`LexicalUnit.Separated`). This is needed as well:
  the units of any source without errors are separated (`LexicalUnit.separated_ofSource`).
* `LexicalUnit.endsBefore_text_append` says which token lets which other one follow.
* `LexicalUnit.separated_iff` carries this from two neighbours to a list.
* `LexicalUnit.lexemes_ofSource` rules out that a text in which tokens have fused gives the
  same tokens by another way of cutting it: its lexemes would be too short to fill it.
* `scan_join_eq_iff` puts them together.
-/

namespace ScriptScan

/-! ## Units that can be told apart -/

namespace LexicalUnit

/-- The units are in the grammar, and each of them ends where the text of the others begins. -/
def Separated : List LexicalUnit → Prop
  | [] => True
  | u :: rest => u.InGrammar ∧ u.EndsBefore (rest.flatMap text) ∧ Separated rest

/-- A unit that ends where the rest begins is the first unit. -/
theorem ofSource_text_append {u : LexicalUnit} {rest : List Char} (allowed : u.InGrammar)
    (ends : u.EndsBefore rest) : ofSource (u.text ++ rest) = u :: ofSource rest := by
  obtain ⟨c, more, starts⟩ := List.exists_cons_of_ne_nil (text_ne_nil_of_inGrammar allowed)
  have whole : u.text ++ rest = c :: (more ++ rest) := by rw [starts, List.cons_append]
  rw [whole, ofSource, cut_of_endsBefore allowed ends whole]

/-- Separated units are the units of their text. -/
theorem ofSource_flatMap_text {units : List LexicalUnit} (separated : Separated units) :
    ofSource (units.flatMap text) = units := by
  induction units with
  | nil => simp [ofSource]
  | cons u rest ih =>
    obtain ⟨allowed, ends, later⟩ := separated
    rw [List.flatMap_cons, ofSource_text_append allowed ends, ih later]

/-- The units of a source are separated unless one of them is an error. -/
theorem separated_ofSource {source : List Char}
    (sound : ∀ u ∈ ofSource source, u.InGrammar) : Separated (ofSource source) := by
  fun_induction ofSource source with
  | case1 => trivial
  | case2 c source first ih =>
    have allowed : first.1.InGrammar := sound first.1 List.mem_cons_self
    refine ⟨allowed, ?_, ih fun u member => sound u (List.mem_cons_of_mem _ member)⟩
    rw [text_ofSource]
    rcases cut_sound c source with ⟨-, ends⟩ | ⟨-, -, cuts⟩ | ⟨-, cuts⟩
    · exact ends
    · simp only [first, cuts] at allowed
      exact allowed.elim
    · simp only [first, cuts] at allowed
      exact allowed.elim

end LexicalUnit

/-! ## Categories and their lexemes -/

/-- Keywords and identifiers. -/
def Category.isWord : Category → Bool
  | .keyword _ | .identifier => true
  | _ => false

/-- A category with a lexeme that the language has for it. -/
inductive WellFormed : Category × String → Prop
  | operator (op : Operator) : WellFormed (.operator op, String.ofList op.spelling)
  | keyword (word : Keyword) : WellFormed (.keyword word, word.spelling)
  | identifier {letters : List Char} :
      (LexicalUnit.word letters).InGrammar →
      (∀ word : Keyword, word.spelling ≠ String.ofList letters) →
      WellFormed (.identifier, String.ofList letters)
  | number {whole fraction : List Char} :
      (LexicalUnit.number whole fraction).InGrammar →
      WellFormed (.number, String.ofList (LexicalUnit.number whole fraction).text)
  | string {content : List Char} :
      '"' ∉ content → WellFormed (.string, String.ofList ('"' :: (content ++ ['"'])))

/-- Two categories whose lexemes grow together when one directly follows the other. -/
def Touches (p q : Category) : Prop :=
  (p.isWord = true ∧ (q.isWord = true ∨ q = .number)) ∨
  (p = .number ∧ q = .number) ∨
  ((p = .operator .bang ∨ p = .operator .equal ∨ p = .operator .greater ∨ p = .operator .less) ∧
    (q = .operator .equal ∨ q = .operator .equalEqual)) ∨
  (p = .operator .slash ∧ q = .operator .slash)

/-- Somewhere in the list two lexemes grow together, or a number without a fraction, a point
and a number stand in a row. -/
def Fuses (kinds : List (Category × String)) : Prop :=
  (∃ p q, [p, q] <:+: kinds ∧ Touches p.1 q.1) ∨
  ∃ p q r, [p, q, r] <:+: kinds ∧ p.1 = .number ∧ '.' ∉ p.2.toList ∧
    q.1 = .operator .dot ∧ r.1 = .number

/-- Neighbours that grow together at the head of a list. -/
def FusesAtHead (kinds : List (Category × String)) : Prop :=
  (∃ p q rest, kinds = p :: q :: rest ∧ Touches p.1 q.1) ∨
  ∃ p q r rest, kinds = p :: q :: r :: rest ∧ p.1 = .number ∧ '.' ∉ p.2.toList ∧
    q.1 = .operator .dot ∧ r.1 = .number

theorem fuses_nil : ¬ Fuses [] := by
  rintro (⟨p, q, here, -⟩ | ⟨p, q, r, here, -⟩)
  · cases List.eq_nil_of_infix_nil here
  · cases List.eq_nil_of_infix_nil here

/-- A list fuses at its head or behind it. -/
theorem fuses_cons {p : Category × String} {kinds : List (Category × String)} :
    Fuses (p :: kinds) ↔ FusesAtHead (p :: kinds) ∨ Fuses kinds := by
  constructor
  · rintro (⟨p', q, here, touches⟩ | ⟨p', q, r, here, number⟩)
    · rcases List.infix_cons_iff.mp here with ⟨rest, first⟩ | later
      · exact .inl (.inl ⟨p', q, rest, first.symm, touches⟩)
      · exact .inr (.inl ⟨p', q, later, touches⟩)
    · rcases List.infix_cons_iff.mp here with ⟨rest, first⟩ | later
      · exact .inl (.inr ⟨p', q, r, rest, first.symm, number⟩)
      · exact .inr (.inr ⟨p', q, r, later, number⟩)
  · rintro ((⟨p', q, rest, first, touches⟩ | ⟨p', q, r, rest, first, number⟩) | later)
    · exact .inl ⟨p', q, ⟨[], rest, first.symm⟩, touches⟩
    · exact .inr ⟨p', q, r, ⟨[], rest, first.symm⟩, number⟩
    · rcases later with ⟨p', q, here, touches⟩ | ⟨p', q, r, here, number⟩
      · exact .inl ⟨p', q, List.infix_cons here, touches⟩
      · exact .inr ⟨p', q, r, List.infix_cons here, number⟩

namespace LexicalUnit

/-! ## Tokens and units -/

theorem inGrammar_spelling (k : Keyword) : (word k.spelling.toList).InGrammar := by
  cases k <;> exact ⟨_, _, rfl, rfl, List.all_eq_true.mp rfl⟩

theorem exists_unit_of_wellFormed {kind : Category × String} (wellFormed : WellFormed kind) :
    ∃ u : LexicalUnit, u.InGrammar ∧ u.kind? = some kind := by
  cases wellFormed with
  | operator op => exact ⟨operator op, trivial, rfl⟩
  | keyword w =>
    refine ⟨word w.spelling.toList, inGrammar_spelling w, ?_⟩
    simp [kind?, text, Category.ofWord, Keyword.ofSpelling?_spelling]
  | @identifier letters allowed free =>
    refine ⟨word letters, allowed, ?_⟩
    have unreserved : Keyword.ofSpelling? (String.ofList letters) = none := by
      refine Option.eq_none_iff_forall_ne_some.mpr fun w found => free w ?_
      exact Keyword.ofSpelling?_eq_some_iff.mp found
    simp [kind?, text, Category.ofWord, unreserved]
  | number allowed => exact ⟨number _ _, allowed, rfl⟩
  | string noQuote => exact ⟨string _, noQuote, rfl⟩

theorem isWord_ofWord (letters : String) : (Category.ofWord letters).isWord = true := by
  unfold Category.ofWord
  split <;> rfl

theorem ofWord_ne (category : Category) (noWord : category.isWord = false) (letters : String) :
    Category.ofWord letters ≠ category := by
  rintro rfl
  rw [isWord_ofWord] at noWord
  cases noWord

theorem isWordPart_iff {c : Char} :
    isWordPart c = true ↔ isWordStart c = true ∨ c.isDigit = true := by
  simp only [isWordPart, isWordStart, Char.isAlphanum, Bool.or_eq_true]
  exact or_right_comm

/-- The first character of a token tells the categories apart that can continue another. -/
theorem head_of_kind {v : LexicalUnit} {q : Category × String} (allowed : v.InGrammar)
    (kind : v.kind? = some q) :
    ∃ c more, v.text = c :: more ∧
      (c.isDigit = true ↔ q.1 = .number) ∧
      (isWordPart c = true ↔ q.1.isWord = true ∨ q.1 = .number) ∧
      (c = '=' ↔ q.1 = .operator .equal ∨ q.1 = .operator .equalEqual) ∧
      (c = '/' ↔ q.1 = .operator .slash) ∧
      (c = '.' ↔ q.1 = .operator .dot) := by
  cases v with
  | operator op =>
    cases kind
    cases op <;> exact ⟨_, _, rfl, by decide⟩
  | string content =>
    cases kind
    refine ⟨_, _, rfl, ?_⟩
    dsimp only
    decide
  | number whole fraction =>
    cases kind
    obtain ⟨c, more, starts⟩ := List.exists_cons_of_ne_nil (text_ne_nil_of_inGrammar allowed)
    have digit := isDigit_head_number allowed starts
    have other : ∀ d : Char, d.isDigit = false → c ≠ d := by
      rintro d noDigit rfl
      rw [digit] at noDigit
      cases noDigit
    refine ⟨c, more, starts, ?_⟩
    simp [digit, isWordPart_iff, other '=' rfl, other '/' rfl, other '.' rfl]
  | word letters =>
    cases kind
    -- What starts a word starts no other token, and a keyword is a word all the same.
    obtain ⟨c, more, rfl, start, -⟩ := allowed
    have other : ∀ d : Char, isWordStart d = false → c ≠ d := by
      rintro d noStart rfl
      rw [start] at noStart
      cases noStart
    refine ⟨c, more, rfl, ?_⟩
    simp [isWordPart_iff, start, isDigit_of_isWordStart start, isWord_ofWord,
      ofWord_ne .number rfl, ofWord_ne (.operator _) rfl,
      other '=' rfl, other '/' rfl, other '.' rfl]
  | _ => cases kind

/-- What continues an operator. -/
theorem growsBy_iff {op : Operator} {c : Char} :
    GrowsBy op c ↔
      ((op = .bang ∨ op = .equal ∨ op = .greater ∨ op = .less) ∧ c = '=') ∨
      (op = .slash ∧ c = '/') := by
  constructor
  · rintro (⟨longer, spelled⟩ | slash)
    · left
      rcases spelling_length op with ⟨d, single⟩ | ⟨d, e, double⟩
      · rw [single] at spelled
        cases longer <;> cases spelled
        · exact ⟨.inl (eq_of_spelling single), rfl⟩
        · exact ⟨.inr (.inl (eq_of_spelling single)), rfl⟩
        · exact ⟨.inr (.inr (.inl (eq_of_spelling single))), rfl⟩
        · exact ⟨.inr (.inr (.inr (eq_of_spelling single))), rfl⟩
      · rw [double] at spelled
        cases longer <;> cases spelled
    · exact .inr slash
  · rintro (⟨rfl | rfl | rfl | rfl, rfl⟩ | slash)
    · exact .inl ⟨.bangEqual, rfl⟩
    · exact .inl ⟨.equalEqual, rfl⟩
    · exact .inl ⟨.greaterEqual, rfl⟩
    · exact .inl ⟨.lessEqual, rfl⟩
    · exact .inr slash

/-- White space ends every unit, though only a line break ends a comment. -/
theorem endsBefore_blank {u : LexicalUnit} (allowed : u.InGrammar) {c : Char}
    (white : (blank c).InGrammar) (newline : (∃ line, u = comment line) → c = '\n')
    (rest : List Char) : u.EndsBefore (c :: rest) := by
  have foreign : c.isDigit = false ∧ isWordPart c = false ∧ c ≠ '=' ∧ c ≠ '/' ∧ c ≠ '.' := by
    rcases white with rfl | rfl | rfl | rfl <;> decide
  obtain ⟨noDigit, noPart, noEqual, noSlash, noPoint⟩ := foreign
  cases u with
  | comment line =>
    rw [newline ⟨line, rfl⟩]
    exact stopsAt_cons.mpr (bne_self_eq_false '\n')
  | operator op => simp [EndsBefore, growsBy_iff, noEqual, noSlash]
  | number whole fraction =>
    cases fraction with
    | nil =>
      refine ⟨stopsAt_cons.mpr noDigit, ?_⟩
      rintro ⟨d, more, point, -⟩
      exact noPoint (List.cons_eq_cons.mp point).1
    | cons d places => exact stopsAt_cons.mpr noDigit
  | word letters => exact stopsAt_cons.mpr noPart
  | stray d => exact allowed.elim
  | unclosed content => exact allowed.elim
  | _ => trivial

/-! ## What a token lets follow -/

/-- The unit of a token with its kind. -/
def Lexeme (u : LexicalUnit) (kind : Category × String) : Prop :=
  u.InGrammar ∧ u.kind? = some kind

/-- A number without a fraction, and a point behind it with a digit behind that. -/
def MakesFraction (p q : Category × String) (rest : List Char) : Prop :=
  p.1 = .number ∧ '.' ∉ p.2.toList ∧ q.1 = .operator .dot ∧ ¬ StopsAt Char.isDigit rest

theorem text_of_kind {u : LexicalUnit} {p : Category × String} (kind : u.kind? = some p) :
    p.2.toList = u.text := by
  cases u <;> cases kind <;> exact String.toList_ofList

theorem endsBefore_nil {u : LexicalUnit} {p : Category × String} (kind : u.kind? = some p) :
    u.EndsBefore [] := by
  cases u with
  | operator op =>
    intro c head
    cases head
  | string content => trivial
  | number whole fraction =>
    cases fraction with
    | nil =>
      refine ⟨stopsAt_nil _, ?_⟩
      rintro ⟨c, more, starts, -⟩
      cases starts
    | cons d places => exact stopsAt_nil _
  | word letters => exact stopsAt_nil _
  | _ => cases kind

theorem eq_operator_of_kind {v : LexicalUnit} {q : Category × String} {op : Operator}
    (kind : v.kind? = some q) (same : q.1 = .operator op) : v = operator op := by
  cases v with
  | operator other =>
    cases kind
    cases same
    rfl
  | word letters =>
    cases kind
    exact absurd same (ofWord_ne _ rfl _)
  | _ => cases kind <;> cases same

/-- Only a point starts with a point, and there is nothing behind it. -/
theorem startsFraction_text_append {v : LexicalUnit} {q : Category × String}
    (lexeme : Lexeme v q) (rest : List Char) :
    StartsFraction (v.text ++ rest) ↔ q.1 = .operator .dot ∧ ¬ StopsAt Char.isDigit rest := by
  obtain ⟨allowed, kind⟩ := lexeme
  obtain ⟨c, more, starts, -, -, -, -, dot⟩ := head_of_kind allowed kind
  constructor
  · rintro ⟨d, behind, whole, digit⟩
    rw [starts, List.cons_append, List.cons_eq_cons] at whole
    have isDot := dot.mp whole.1
    cases eq_operator_of_kind kind isDot
    cases starts
    rw [List.nil_append] at whole
    rw [whole.2, stopsAt_cons, digit]
    exact ⟨isDot, Bool.noConfusion⟩
  · rintro ⟨isDot, goesOn⟩
    cases eq_operator_of_kind kind isDot
    cases rest with
    | nil => exact absurd (stopsAt_nil _) goesOn
    | cons d behind =>
      rw [stopsAt_cons, Bool.not_eq_false] at goesOn
      exact ⟨d, behind, rfl, goesOn⟩

/-- A token ends before the next one unless the two grow together, or the next one is the
point of a fraction. -/
theorem endsBefore_text_append {u v : LexicalUnit} {p q : Category × String}
    (first : Lexeme u p) (second : Lexeme v q) (rest : List Char) :
    u.EndsBefore (v.text ++ rest) ↔ ¬ Touches p.1 q.1 ∧ ¬ MakesFraction p q rest := by
  have fraction := startsFraction_text_append second rest
  obtain ⟨c, more, starts, digit, part, equal, slash, -⟩ := head_of_kind second.1 second.2
  obtain ⟨allowed, kind⟩ := first
  cases u with
  | operator op =>
    cases kind
    have head : (v.text ++ rest).head? = some c := by rw [starts]; rfl
    simp [EndsBefore, head, growsBy_iff, equal, slash, Touches, MakesFraction, Category.isWord]
  | string content =>
    cases kind
    simp [EndsBefore, Touches, MakesFraction, Category.isWord]
  | number whole places =>
    cases kind
    -- Only without a fraction a point behind the number can matter.
    cases places with
    | nil =>
      have noPoint : '.' ∉ whole := fun member => by cases allowed.2.1 '.' member
      rw [starts, List.cons_append] at fraction ⊢
      simp [EndsBefore, fraction, stopsAt_cons, ← digit, text_number_nil, noPoint, Touches,
        MakesFraction, Category.isWord]
    | cons d behind =>
      simp [EndsBefore, starts, stopsAt_cons, ← digit, text_number_cons, Touches, MakesFraction,
        Category.isWord]
  | word letters =>
    cases kind
    simp [EndsBefore, starts, stopsAt_cons, ← part, isWord_ofWord, Touches, MakesFraction,
      ofWord_ne .number rfl, ofWord_ne (.operator _) rfl]
  | _ => cases kind

/-! ## Lists of tokens -/

/-- Behind the text of further tokens a number goes on when the first of them is a number. -/
theorem not_stopsAt_flatMap_text {units : List LexicalUnit} {kinds : List (Category × String)}
    (lexemes : List.Forall₂ Lexeme units kinds) :
    ¬ StopsAt Char.isDigit (units.flatMap text) ↔ ∃ r rest, kinds = r :: rest ∧ r.1 = .number := by
  cases lexemes with
  | nil =>
    refine iff_of_false (fun goesOn => goesOn (stopsAt_nil _)) ?_
    rintro ⟨r, rest, none, -⟩
    cases none
  | @cons u r units kinds lexeme later =>
    obtain ⟨c, more, starts, digit, -⟩ := head_of_kind lexeme.1 lexeme.2
    rw [List.flatMap_cons, starts, List.cons_append, stopsAt_cons, Bool.not_eq_false, digit]
    constructor
    · intro number
      exact ⟨r, kinds, rfl, number⟩
    · rintro ⟨r, rest, same, number⟩
      cases same
      exact number

/-- The first token ends where the text of the others begins unless it fuses with them. -/
theorem endsBefore_flatMap_text {u : LexicalUnit} {p : Category × String}
    {units : List LexicalUnit} {kinds : List (Category × String)} (first : Lexeme u p)
    (lexemes : List.Forall₂ Lexeme units kinds) :
    u.EndsBefore (units.flatMap text) ↔ ¬ FusesAtHead (p :: kinds) := by
  cases lexemes with
  | nil =>
    refine iff_of_true (endsBefore_nil first.2) ?_
    rintro (⟨p, q, rest, whole, -⟩ | ⟨p, q, r, rest, whole, -⟩)
    · cases whole
    · cases whole
  | @cons v q units kinds second later =>
    rw [List.flatMap_cons, endsBefore_text_append first second, ← not_or, not_iff_not,
      MakesFraction, not_stopsAt_flatMap_text later]
    constructor
    · rintro (touches | ⟨number, noPoint, dot, r, rest, rfl, digits⟩)
      · exact .inl ⟨p, q, kinds, rfl, touches⟩
      · exact .inr ⟨p, q, r, rest, rfl, number, noPoint, dot, digits⟩
    · rintro (⟨p, q, rest, whole, touches⟩ | ⟨p, q, r, rest, whole, number, noPoint, dot, digits⟩)
      · cases whole
        exact .inl touches
      · cases whole
        exact .inr ⟨number, noPoint, dot, r, rest, rfl, digits⟩

/-- Tokens are separated when no neighbours among them fuse, and only then. -/
theorem separated_iff {units : List LexicalUnit} {kinds : List (Category × String)}
    (lexemes : List.Forall₂ Lexeme units kinds) : Separated units ↔ ¬ Fuses kinds := by
  induction lexemes with
  | nil => exact iff_of_true trivial fuses_nil
  | @cons u p units kinds first later ih =>
    rw [Separated, endsBefore_flatMap_text first later, ih, fuses_cons, not_or]
    exact and_iff_right first.1

theorem exists_units {kinds : List (Category × String)} (wellFormed : ∀ p ∈ kinds, WellFormed p) :
    ∃ units, List.Forall₂ Lexeme units kinds := by
  induction kinds with
  | nil => exact ⟨[], .nil⟩
  | cons p kinds ih =>
    rw [List.forall_mem_cons] at wellFormed
    obtain ⟨u, lexeme⟩ := exists_unit_of_wellFormed wellFormed.1
    obtain ⟨units, lexemes⟩ := ih wellFormed.2
    exact ⟨u :: units, .cons lexeme lexemes⟩

theorem flatMap_text_of_lexemes {units : List LexicalUnit} {kinds : List (Category × String)}
    (lexemes : List.Forall₂ Lexeme units kinds) :
    (String.join (kinds.map Prod.snd)).toList = units.flatMap text := by
  rw [String.toList_join]
  induction lexemes with
  | nil => rfl
  | cons lexeme _ ih =>
    rw [List.map_cons, List.flatMap_cons, List.flatMap_cons, ih, text_of_kind lexeme.2]

theorem filterMap_kind_of_lexemes {units : List LexicalUnit} {kinds : List (Category × String)}
    (lexemes : List.Forall₂ Lexeme units kinds) : units.filterMap kind? = kinds := by
  induction lexemes with
  | nil => rfl
  | cons lexeme _ ih => rw [List.filterMap_cons, lexeme.2, ih]

theorem complaint?_of_kind {u : LexicalUnit} {p : Category × String}
    (kind : u.kind? = some p) : u.complaint? = none := by
  cases u <;> first | rfl | cases kind

theorem filterMap_complaint_of_lexemes {units : List LexicalUnit}
    {kinds : List (Category × String)} (lexemes : List.Forall₂ Lexeme units kinds) :
    units.filterMap complaint? = [] := by
  induction lexemes with
  | nil => rfl
  | cons lexeme _ ih => rw [List.filterMap_cons, complaint?_of_kind lexeme.2, ih]

/-! ## Tokens found again -/

theorem lexeme_of_mem {source : List Char} {u : LexicalUnit} {p : Category × String}
    (member : u ∈ ofSource source) (kind : u.kind? = some p) : Lexeme u p := by
  rcases sound_ofSource member with allowed | ⟨c, rfl⟩ | ⟨content, rfl⟩
  · exact ⟨allowed, kind⟩
  · cases kind
  · cases kind

/-- The lexemes of some units are no longer than their texts. -/
theorem length_lexemes_le (units : List LexicalUnit) :
    ((units.filterMap kind?).flatMap (·.2.toList)).length ≤ (units.flatMap text).length := by
  induction units with
  | nil => exact Nat.le_refl 0
  | cons u units ih =>
    rw [List.flatMap_cons, List.length_append]
    cases kind : u.kind? with
    | none =>
      rw [List.filterMap_cons, kind]
      exact Nat.le_add_left_of_le ih
    | some p =>
      rw [List.filterMap_cons, kind, List.flatMap_cons, List.length_append, text_of_kind kind]
      exact Nat.add_le_add_left ih _

/-- Units are all tokens when their lexemes are all of their text. -/
theorem lexemes_of_flatMap_text {source : List Char} {units : List LexicalUnit}
    (found : ∀ u ∈ units, u ∈ ofSource source)
    (same : (units.filterMap kind?).flatMap (·.2.toList) = units.flatMap text) :
    List.Forall₂ Lexeme units (units.filterMap kind?) := by
  induction units with
  | nil => exact .nil
  | cons u units ih =>
    rw [List.forall_mem_cons] at found
    cases kind : u.kind? with
    | none =>
      -- The text of this unit is in no lexeme, and the others are too short to make up for it.
      rw [List.filterMap_cons, kind] at same
      have short := length_lexemes_le units
      have long := List.length_pos_of_ne_nil (text_ne_nil_of_mem found.1)
      rw [same, List.flatMap_cons, List.length_append] at short
      omega
    | some p =>
      rw [List.filterMap_cons, kind, List.flatMap_cons, text_of_kind kind, List.flatMap_cons]
        at same
      rw [List.filterMap_cons, kind]
      exact .cons (lexeme_of_mem found.1 kind) (ih found.2 (List.append_cancel_left same))

/-- A text that gives back the tokens it was written from has no other units. -/
theorem lexemes_ofSource {kinds : List (Category × String)} {source : List Char}
    (written : kinds.flatMap (·.2.toList) = source)
    (found : (ofSource source).filterMap kind? = kinds) :
    List.Forall₂ Lexeme (ofSource source) kinds := by
  rw [← found]
  refine lexemes_of_flatMap_text (fun u member => member) ?_
  rw [found, written, text_ofSource]

theorem inGrammar_of_lexemes {units : List LexicalUnit} {kinds : List (Category × String)}
    (lexemes : List.Forall₂ Lexeme units kinds) : ∀ u ∈ units, u.InGrammar := by
  induction lexemes with
  | nil => exact List.forall_mem_nil _
  | cons lexeme _ ih => exact List.forall_mem_cons.mpr ⟨lexeme.1, ih⟩

end LexicalUnit

/-! ## Scans -/

open LexicalUnit in
/-- Tokens written one behind the other without anything between them are scanned again as
they are, and without a report, exactly when no neighbours among them fuse. -/
theorem scan_join_eq_iff {kinds : List (Category × String)}
    (wellFormed : ∀ p ∈ kinds, WellFormed p) :
    ((Scan.ofSource (String.join (kinds.map Prod.snd))).tokens.map Token.kind
        = kinds ++ [(.eof, "")] ∧
      Scan.calls (String.join (kinds.map Prod.snd)) = []) ↔ ¬ Fuses kinds := by
  rw [Scan.kinds_ofSource, List.append_left_inj, ← List.map_eq_nil_iff (f := Prod.snd),
    Scan.complaints_calls]
  constructor
  · -- The converse: the units that were found are tokens, and units are separated.
    rintro ⟨found, -⟩
    have written : kinds.flatMap (·.2.toList) = (String.join (kinds.map Prod.snd)).toList := by
      rw [String.toList_join, List.flatMap_map]
    have lexemes := lexemes_ofSource written found
    exact (separated_iff lexemes).mp (separated_ofSource (inGrammar_of_lexemes lexemes))
  · intro apart
    obtain ⟨units, lexemes⟩ := exists_units wellFormed
    rw [flatMap_text_of_lexemes lexemes, ofSource_flatMap_text ((separated_iff lexemes).mpr apart)]
    exact ⟨filterMap_kind_of_lexemes lexemes, filterMap_complaint_of_lexemes lexemes⟩

theorem wellFormed_numbers_around_point {whole fraction places : List Char}
    (first : (LexicalUnit.number whole fraction).InGrammar)
    (last : (LexicalUnit.number places []).InGrammar) :
    ∀ p ∈ [(.number, String.ofList (LexicalUnit.number whole fraction).text),
      (.operator .dot, "."), (.number, String.ofList places)], WellFormed p := by
  rw [List.forall_mem_cons, List.forall_mem_cons, List.forall_mem_singleton]
  refine ⟨.number first, .operator .dot, ?_⟩
  have number := WellFormed.number last
  rwa [LexicalUnit.text_number_nil] at number

/-- `7.5` is a number and not three tokens, while `1.2.3` is three tokens again. -/
theorem scan_join_points :
    ((∀ p ∈ [(.number, "7"), (.operator .dot, "."), (.number, "5")], WellFormed p) ∧
      ¬ ((Scan.ofSource (String.join ["7", ".", "5"])).tokens.map Token.kind
          = [(.number, "7"), (.operator .dot, "."), (.number, "5")] ++ [(.eof, "")] ∧
        Scan.calls (String.join ["7", ".", "5"]) = [])) ∧
    ((∀ p ∈ [(.number, "1.2"), (.operator .dot, "."), (.number, "3")], WellFormed p) ∧
      (Scan.ofSource (String.join ["1.2", ".", "3"])).tokens.map Token.kind
          = [(.number, "1.2"), (.operator .dot, "."), (.number, "3")] ++ [(.eof, "")] ∧
        Scan.calls (String.join ["1.2", ".", "3"]) = []) := by
  have digit : ∀ c : Char, c.isDigit = true → (LexicalUnit.number [c] []).InGrammar := by
    intro c digit
    exact ⟨List.cons_ne_nil _ _, List.forall_mem_singleton.mpr digit, List.forall_mem_nil _⟩
  constructor
  · have wellFormed := wellFormed_numbers_around_point (digit '7' rfl) (digit '5' rfl)
    refine ⟨wellFormed, fun same => (scan_join_eq_iff wellFormed).mp same (.inr ?_)⟩
    exact ⟨_, _, _, List.infix_refl _, rfl, by decide, rfl, rfl⟩
  · have fraction : (LexicalUnit.number ['1'] ['2']).InGrammar :=
      ⟨List.cons_ne_nil _ _, List.forall_mem_singleton.mpr rfl, List.forall_mem_singleton.mpr rfl⟩
    have wellFormed := wellFormed_numbers_around_point fraction (digit '3' rfl)
    refine ⟨wellFormed, (scan_join_eq_iff wellFormed).mpr ?_⟩
    simp [fuses_cons, fuses_nil, FusesAtHead, Touches, Category.isWord, LexicalUnit.text]

end ScriptScan
