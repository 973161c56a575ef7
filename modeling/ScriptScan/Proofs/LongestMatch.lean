import ScriptScan.Proofs.Tokens

/-!
# The longest match

`LexicalUnit.Munched` cuts a source by the grammar alone: at each place the longest unit of
the grammar is taken, and where there is none, a stray character or the rest of the source
behind an opening quote. Of two units of the grammar at one place the longer one wins, and
two that are equally long are equal (`isLongest_unique`), so a source can be munched in one
way only (`munched_iff`).

`scan_longest_match` is the main result: a scan goes through the source in this way, and its
tokens and reports are those of the units that it meets.
-/

namespace ScriptScan
namespace LexicalUnit

/-! ## Longest matches -/

/-- The unit is the longest one of the grammar at the head of the source. Every other one
there is shorter. -/
structure IsLongest (u : LexicalUnit) (source : List Char) : Prop where
  inGrammar : u.InGrammar
  isPrefix : u.text <+: source
  longest : ∀ v : LexicalUnit, v.InGrammar → v.text <+: source → v ≠ u →
    v.text.length < u.text.length

/-- No unit of the grammar stands at the head of the source. -/
def NoMatch (source : List Char) : Prop := ∀ v : LexicalUnit, v.InGrammar → ¬ v.text <+: source

/-- The units are cut from the source by the longest match. Where the grammar has none, a
quote takes the rest of the source, and every other character stands alone. -/
inductive Munched : List Char → List LexicalUnit → Prop
  | done : Munched [] []
  | longest {u : LexicalUnit} {rest : List Char} {units : List LexicalUnit} :
      IsLongest u (u.text ++ rest) → Munched rest units → Munched (u.text ++ rest) (u :: units)
  | unclosed {content : List Char} :
      NoMatch ('"' :: content) → Munched ('"' :: content) [.unclosed content]
  | stray {c : Char} {rest : List Char} {units : List LexicalUnit} :
      c ≠ '"' → NoMatch (c :: rest) → Munched rest units → Munched (c :: rest) (.stray c :: units)

theorem isLongest_unique {u v : LexicalUnit} {source : List Char} (hu : IsLongest u source)
    (hv : IsLongest v source) : u = v := by
  by_contra differ
  have shorter := hv.longest u hu.inGrammar hu.isPrefix differ
  have longer := hu.longest v hv.inGrammar hv.isPrefix (Ne.symm differ)
  omega

/-- Only strings start with a quote. -/
theorem eq_string_of_quote {u : LexicalUnit} {more : List Char} (allowed : u.InGrammar)
    (starts : u.text = '"' :: more) : ∃ content, u = string content := by
  cases u with
  | blank c =>
    cases starts
    rcases allowed with h | h | h | h <;> cases h
  | comment line => cases starts
  | operator op =>
    have first : op.spelling.head? = some '"' := by
      rw [show op.spelling = '"' :: more from starts]
      rfl
    exact absurd rfl (head_spelling first).2.1
  | string content => exact ⟨content, rfl⟩
  | number whole fraction =>
    have parts : (number whole fraction).text ++ [] = '"' :: more := by rw [List.append_nil, starts]
    by_cases ends : (number whole fraction).EndsBefore []
    · cases (cutNumber_of_endsBefore allowed ends parts).1
    · cases (length_lt_cutNumber allowed ends parts).1
  | word letters =>
    obtain ⟨first, rest, rfl, start, -⟩ := allowed
    cases starts
    cases start
  | stray c => exact allowed.elim
  | unclosed content => exact allowed.elim

/-- A unit of the grammar at the head of the source is the one that is cut off, or shorter. -/
theorem eq_or_length_lt_cut {v : LexicalUnit} {c : Char} {source : List Char}
    (allowed : v.InGrammar) (here : v.text <+: c :: source) :
    v = (cut c source).1 ∨ v.text.length < (cut c source).1.text.length := by
  obtain ⟨rest, whole⟩ := here
  by_cases ends : v.EndsBefore rest
  · exact .inl (congrArg Prod.fst (cut_of_endsBefore allowed ends whole)).symm
  · exact .inr (length_lt_cut allowed ends whole)

theorem isLongest_cut {c : Char} {source : List Char} (allowed : (cut c source).1.InGrammar) :
    IsLongest (cut c source).1 (c :: source) where
  inGrammar := allowed
  isPrefix := ⟨(cut c source).2, text_cut c source⟩
  longest := fun _ other here differ =>
    (eq_or_length_lt_cut other here).resolve_left differ

theorem noMatch_stray {c : Char} {source : List Char} (cuts : cut c source = (stray c, source)) :
    NoMatch (c :: source) := by
  intro v allowed here
  have shorter := eq_or_length_lt_cut allowed here
  rw [cuts] at shorter
  rcases shorter with rfl | shorter
  · exact allowed
  · -- A stray character is a single one, and no unit of the grammar is empty.
    have nonempty := List.length_pos_iff.mpr (text_ne_nil_of_inGrammar allowed)
    have single : v.text.length < 1 := shorter
    omega

theorem noMatch_unclosed {source : List Char} (noQuote : '"' ∉ source) :
    NoMatch ('"' :: source) := by
  intro v allowed here
  obtain ⟨rest, whole⟩ := here
  obtain ⟨first, more, starts⟩ := List.exists_cons_of_ne_nil (text_ne_nil_of_inGrammar allowed)
  rw [starts, List.cons_append, List.cons_eq_cons] at whole
  rw [whole.1] at starts
  obtain ⟨content, rfl⟩ := eq_string_of_quote allowed starts
  cases starts
  exact noQuote (by rw [← whole.2]; simp)

/-! ## Munching -/

/-- The units of a source are cut from it by the longest match. -/
theorem munched_ofSource (source : List Char) : Munched source (ofSource source) := by
  fun_induction ofSource source with
  | case1 => exact .done
  | case2 c source first ih =>
    rcases cut_sound c source with ⟨allowed, -⟩ | ⟨rfl, noQuote, cuts⟩ | ⟨noQuote, cuts⟩
    · have longest := isLongest_cut allowed
      rw [← text_cut c source] at longest ⊢
      exact .longest longest ih
    · simp only [first, cuts, ofSource]
      exact .unclosed (noMatch_unclosed noQuote)
    · simp only [first, cuts] at ih ⊢
      exact .stray noQuote (noMatch_stray cuts) ih

theorem inGrammar_cut_of_match {v : LexicalUnit} {c : Char} {source : List Char}
    (allowed : v.InGrammar) (here : v.text <+: c :: source) : (cut c source).1.InGrammar := by
  rcases cut_sound c source with ⟨sound, -⟩ | ⟨rfl, noQuote, -⟩ | ⟨-, cuts⟩
  · exact sound
  · exact absurd here (noMatch_unclosed noQuote v allowed)
  · exact absurd here (noMatch_stray cuts v allowed)

/-- The longest match cuts a source in one way, and this is how the units of a source are
found. -/
theorem munched_iff {source : List Char} {units : List LexicalUnit} :
    Munched source units ↔ units = ofSource source := by
  constructor
  · intro munched
    induction munched with
    | done => simp [ofSource]
    -- In each case the cut takes the same rule, since the other rules need another match.
    | @longest u rest units isLongest _ ih =>
      obtain ⟨c, more, starts⟩ :=
        List.exists_cons_of_ne_nil (text_ne_nil_of_inGrammar isLongest.inGrammar)
      rw [starts, List.cons_append] at isLongest ⊢
      have allowed := inGrammar_cut_of_match isLongest.inGrammar isLongest.isPrefix
      have same := isLongest_unique isLongest (isLongest_cut allowed)
      have whole := text_cut c (more ++ rest)
      rw [← same, starts, List.cons_append, List.cons_eq_cons] at whole
      rw [ofSource, ← same, List.append_cancel_left whole.2, ih]
    | @unclosed content noMatch =>
      rcases cut_sound '"' content with ⟨allowed, -⟩ | ⟨-, -, cuts⟩ | ⟨other, -⟩
      · exact absurd ⟨_, text_cut '"' content⟩ (noMatch _ allowed)
      · simp [ofSource, cuts]
      · exact absurd rfl other
    | @stray c rest units noQuote noMatch _ ih =>
      rcases cut_sound c rest with ⟨allowed, -⟩ | ⟨quote, -⟩ | ⟨-, cuts⟩
      · exact absurd ⟨_, text_cut c rest⟩ (noMatch _ allowed)
      · exact absurd quote noQuote
      · simp [ofSource, cuts, ih]
  · rintro rfl
    exact munched_ofSource source

end LexicalUnit

/-! ## Scans -/

open LexicalUnit in
/-- The units of a source are those into which the longest match cuts it, and no others. They
are not empty and their texts are the source. The tokens of a scan are those of the operators,
strings, numbers and words among them, each with the text and the category of its unit, and
the end of the source; the reports are those of the error units. -/
theorem scan_longest_match (source : String) :
    (∀ units, Munched source.toList units ↔ units = LexicalUnit.ofSource source.toList) ∧
    (LexicalUnit.ofSource source.toList).flatMap text = source.toList ∧
    (∀ u ∈ LexicalUnit.ofSource source.toList, u.text ≠ []) ∧
    (Scan.ofSource source).tokens.map Token.kind
      = (LexicalUnit.ofSource source.toList).filterMap kind? ++ [(.eof, "")] ∧
    (Scan.calls source).map Prod.snd
      = (LexicalUnit.ofSource source.toList).filterMap complaint? := by
  refine ⟨fun units => munched_iff, text_ofSource source.toList, fun u => text_ne_nil_of_mem, ?_, ?_⟩
  · exact Scan.kinds_ofSource source
  · exact Scan.complaints_calls source

end ScriptScan
