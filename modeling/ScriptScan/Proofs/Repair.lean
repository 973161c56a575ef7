import ScriptScan.Proofs.Continuation

/-!
# Errors blanked out

A scan goes on behind an error as if the wrong text were not there. `Scan.repaired` takes it out
of a source: a stray character becomes a space, and of a string that is never closed only the
line breaks stay. This file proves the following.

* `LexicalUnit.endsBefore_mended`: a unit ends before repaired text where it ended before the
  wrong one. Only a number looks beyond the first character, and a point stays where it is.
* `LexicalUnit.ofSource_mended`: so the units of the repaired source are the units of the source
  with blanks in place of the error units.
* `scan_repaired`: a scan of the repaired source returns the same tokens on the same lines, and
  reports nothing.
-/

namespace ScriptScan

/-! ## Repair -/

/-- The text that stands for a unit in the repaired source. What is reported as a stray character
is replaced by a space, and what is reported as an open string by its line breaks. -/
def PlacedUnit.repaired (p : PlacedUnit) : List Char :=
  match p.error? with
  | some ⟨_, .unexpectedCharacter _⟩ => [' ']
  | some ⟨_, .unterminatedString⟩ => p.unit.text.filter (· == '\n')
  | _ => p.unit.text

/-- The source with everything replaced that a scan reports. -/
def Scan.repaired (source : String) : String :=
  String.ofList ((unitsOf source).flatMap PlacedUnit.repaired)

namespace LexicalUnit

/-- The units that stand for a unit in the repaired source. -/
def mended : LexicalUnit → List LexicalUnit
  | stray _ => [blank ' ']
  | unclosed content => (content.filter (· == '\n')).map blank
  | u => [u]

/-- The repaired text of a source, read off its units. -/
def mendedText (source : List Char) : List Char := ((ofSource source).flatMap mended).flatMap text

theorem flatMap_text_blanks (line : List Char) : (line.map blank).flatMap text = line := by
  rw [List.flatMap_map]
  exact List.flatMap_singleton' line

theorem repaired_eq {source : List Char} {p : PlacedUnit} (member : p.unit ∈ ofSource source) :
    p.repaired = p.unit.mended.flatMap text := by
  obtain ⟨u, line⟩ := p
  cases u with
  | number whole fraction =>
    rw [PlacedUnit.repaired, PlacedUnit.error?_number (number_ofSource member)]
    exact (List.flatMap_singleton text (number whole fraction)).symm
  | unclosed content => exact (flatMap_text_blanks _).symm
  | stray c => rfl
  | _ => exact (List.append_nil _).symm

theorem toList_repaired (source : String) :
    (Scan.repaired source).toList = mendedText source.toList := by
  have each : (Scan.unitsOf source).flatMap PlacedUnit.repaired
      = (Scan.unitsOf source).flatMap fun p => p.unit.mended.flatMap text :=
    List.flatMap_congr fun p member => repaired_eq (Scan.unit_mem_unitsOf member)
  rw [Scan.repaired, String.toList_ofList, each, mendedText, List.flatMap_assoc,
    ← PlacedUnit.unit_place 1 (ofSource source.toList), List.flatMap_map]
  rfl

/-! ## Where repaired text begins -/

theorem mended_of_inGrammar {u : LexicalUnit} (allowed : u.InGrammar) : u.mended = [u] := by
  cases u with
  | stray c => exact allowed.elim
  | unclosed content => exact allowed.elim
  | _ => rfl

theorem mendedText_text_append {u : LexicalUnit} {rest : List Char} (allowed : u.InGrammar)
    (ends : u.EndsBefore rest) : mendedText (u.text ++ rest) = u.text ++ mendedText rest := by
  rw [mendedText, ofSource_text_append allowed ends, List.flatMap_cons,
    mended_of_inGrammar allowed, List.singleton_append, List.flatMap_cons, mendedText]

/-- The repaired text begins as the source does, or with a blank. -/
theorem head_mendedText {source : List Char} {c : Char}
    (head : (mendedText source).head? = some c) :
    source.head? = some c ∨ c = ' ' ∨ c = '\n' := by
  cases source with
  | nil =>
    rw [mendedText, ofSource] at head
    cases head
  | cons d source =>
    rcases cut_sound d source with ⟨allowed, ends⟩ | ⟨rfl, -, cuts⟩ | ⟨-, cuts⟩
    · rw [← text_cut d source, mendedText_text_append allowed ends,
        List.head?_append_of_ne_nil _ (text_ne_nil d source)] at head
      rw [← text_cut d source, List.head?_append_of_ne_nil _ (text_ne_nil d source)]
      exact .inl head
    · rw [mendedText, ofSource, cuts, ofSource, List.flatMap_singleton, mended,
        flatMap_text_blanks] at head
      have lineBreak := (List.mem_filter.mp (List.mem_of_head? head)).2
      exact .inr (.inr (beq_iff_eq.mp lineBreak))
    · rw [mendedText, ofSource, cuts] at head
      cases head
      exact .inr (.inl rfl)

/-- What ends before the source ends before the repaired text, if blanks end it. -/
theorem stopsAt_mendedText {p : Char → Bool} (space : p ' ' = false) (lineBreak : p '\n' = false)
    {source : List Char} (stops : StopsAt p source) : StopsAt p (mendedText source) := by
  intro c head
  rcases head_mendedText head with same | rfl | rfl
  · exact stops c same
  · exact space
  · exact lineBreak

/-- A point is a unit of its own, so it is repaired to itself. -/
theorem mendedText_point (rest : List Char) :
    mendedText ('.' :: rest) = '.' :: mendedText rest := by
  have ends : (operator .dot).EndsBefore rest := by simp [EndsBefore, growsBy_iff]
  exact mendedText_text_append (u := operator .dot) trivial ends

theorem startsFraction_of_mendedText {source : List Char}
    (starts : StartsFraction (mendedText source)) : StartsFraction source := by
  have kept : ∀ {text : List Char} {c : Char} {more : List Char},
      mendedText text = c :: more → c ≠ ' ' → c ≠ '\n' → ∃ rest, text = c :: rest := by
    intro text c more begins noSpace noBreak
    rcases head_mendedText (List.head?_eq_some_iff.mpr ⟨more, begins⟩) with same | space | lineBreak
    · exact List.head?_eq_some_iff.mp same
    · exact absurd space noSpace
    · exact absurd lineBreak noBreak
  obtain ⟨d, more, begins, digit⟩ := starts
  obtain ⟨rest, rfl⟩ := kept begins (by decide) (by decide)
  rw [mendedText_point, List.cons_eq_cons] at begins
  obtain ⟨behind, rfl⟩ := kept begins.2 (by rintro rfl; cases digit) (by rintro rfl; cases digit)
  exact ⟨d, behind, rfl, digit⟩

/-- A unit ends before the repaired text where it ended before the source. -/
theorem endsBefore_mended {u : LexicalUnit} {rest : List Char} (allowed : u.InGrammar)
    (ends : u.EndsBefore rest) : u.EndsBefore (mendedText rest) := by
  cases u with
  | comment line =>
    -- Only a line break ends a comment, and a line break is a unit of the grammar.
    cases rest with
    | nil =>
      rw [mendedText, ofSource]
      exact ends
    | cons c rest =>
      have lineBreak : c = '\n' := by simpa using stopsAt_cons.mp ends
      rw [lineBreak]
      have kept : mendedText ('\n' :: rest) = '\n' :: mendedText rest :=
        mendedText_text_append (u := blank '\n') (.inr (.inr (.inr rfl))) trivial
      rw [kept]
      exact stopsAt_cons.mpr (by decide)
  | operator op =>
    intro c head
    rcases head_mendedText head with same | rfl | rfl
    · exact ends c same
    · simp [growsBy_iff]
    · simp [growsBy_iff]
  | number whole fraction =>
    cases fraction with
    | nil =>
      obtain ⟨stops, noFraction⟩ := ends
      exact ⟨stopsAt_mendedText rfl rfl stops,
        fun starts => noFraction (startsFraction_of_mendedText starts)⟩
    | cons d places => exact stopsAt_mendedText rfl rfl ends
  | word letters => exact stopsAt_mendedText rfl rfl ends
  | stray c => exact allowed.elim
  | unclosed content => exact allowed.elim
  | _ => trivial

/-! ## Units of the repaired source -/

theorem separated_blanks {line : List Char} (blanks : ∀ c ∈ line, (blank c).InGrammar) :
    Separated (line.map blank) := by
  induction line with
  | nil => trivial
  | cons c line ih =>
    obtain ⟨here, later⟩ := List.forall_mem_cons.mp blanks
    exact ⟨here, trivial, ih later⟩

theorem separated_mended (source : List Char) : Separated ((ofSource source).flatMap mended) := by
  fun_induction ofSource source with
  | case1 => trivial
  | case2 c source first ih =>
    rcases cut_sound c source with ⟨allowed, ends⟩ | ⟨-, -, cuts⟩ | ⟨-, cuts⟩
    · rw [List.flatMap_cons, mended_of_inGrammar allowed]
      exact ⟨allowed, endsBefore_mended allowed ends, ih⟩
    · simp only [first, cuts, ofSource, List.flatMap_singleton, mended]
      refine separated_blanks fun d member => ?_
      exact .inr (.inr (.inr (beq_iff_eq.mp (List.mem_filter.mp member).2)))
    · simp only [first, cuts] at ih ⊢
      exact ⟨.inl rfl, trivial, ih⟩

/-- The units of the repaired source are those of the source, with blanks in place of the error
units. -/
theorem ofSource_mended (source : List Char) :
    ofSource (mendedText source) = (ofSource source).flatMap mended :=
  ofSource_flatMap_text (separated_mended source)

/-! ## Lines of the repaired source -/

/-- A line break is no stray character. -/
theorem newline_not_stray (source : List Char) : stray '\n' ∉ ofSource source := by
  fun_induction ofSource source with
  | case1 => exact List.not_mem_nil
  | case2 c source first ih =>
    intro member
    rcases List.mem_cons.mp member with same | later
    · have whole := text_cut c source
      rw [← same, text, List.singleton_append, List.cons_eq_cons] at whole
      rw [show first = cut c source from rfl, ← whole.1, cut_blank rfl] at same
      cases same
    · exact ih later

/-- The repair of a unit leaves its line breaks. -/
theorem count_mended {u : LexicalUnit} (noBreak : u ≠ stray '\n') :
    (u.mended.flatMap text).count '\n' = u.text.count '\n' := by
  cases u with
  | stray c =>
    have other : c ≠ '\n' := fun same => noBreak (congrArg stray same)
    simp [mended, text, other]
  | unclosed content =>
    rw [mended, flatMap_text_blanks, List.count_filter (p := (· == '\n')) rfl]
    simp [text]
  | _ => simp [mended]

theorem count_flatMap_mended {units : List LexicalUnit} (noBreak : stray '\n' ∉ units) :
    ((units.flatMap mended).flatMap text).count '\n' = (units.flatMap text).count '\n' := by
  rw [List.flatMap_assoc, List.count_flatMap, List.count_flatMap]
  refine congrArg List.sum (List.map_congr_left fun u member => count_mended ?_)
  rintro rfl
  exact noBreak member

theorem complaint?_mended {u v : LexicalUnit} (member : v ∈ u.mended) : v.complaint? = none := by
  cases u with
  | unclosed content =>
    obtain ⟨c, -, rfl⟩ := List.mem_map.mp member
    rfl
  | _ =>
    rw [List.mem_singleton.mp member]
    rfl

end LexicalUnit

open LexicalUnit

/-! ## Tokens of the repaired source -/

theorem token?_blanks (line : UInt32) (blanks : List Char) :
    (PlacedUnit.place line (blanks.map blank)).filterMap PlacedUnit.token? = [] := by
  refine List.filterMap_eq_nil_iff.mpr fun p member => ?_
  have inside := List.mem_map_of_mem (f := PlacedUnit.unit) member
  rw [PlacedUnit.unit_place] at inside
  obtain ⟨c, -, isBlank⟩ := List.mem_map.mp inside
  rw [PlacedUnit.token?, ← isBlank]

/-- The repair of a unit leaves its token, if it has one. -/
theorem token?_mended (line : UInt32) (u : LexicalUnit) :
    (PlacedUnit.place line u.mended).filterMap PlacedUnit.token?
      = (PlacedUnit.place line [u]).filterMap PlacedUnit.token? := by
  cases u with
  | stray c => rfl
  | unclosed content => exact token?_blanks line _
  | _ => rfl

/-- The repair of units leaves their tokens on their lines. -/
theorem tokens_mended (line : UInt32) {units : List LexicalUnit} (noBreak : stray '\n' ∉ units) :
    (PlacedUnit.place line (units.flatMap mended)).filterMap PlacedUnit.token?
      = (PlacedUnit.place line units).filterMap PlacedUnit.token? := by
  induction units generalizing line with
  | nil => rfl
  | cons u units ih =>
    obtain ⟨here, later⟩ := not_or.mp (mt List.mem_cons.mpr noBreak)
    have next : lineAfter line (u.mended.flatMap text) = lineAfter line u.text := by
      rw [lineAfter, lineAfter, count_mended (Ne.symm here)]
    have first : PlacedUnit.place line (u :: units)
        = PlacedUnit.place line [u] ++ PlacedUnit.place (lineAfter line u.text) units := rfl
    rw [List.flatMap_cons, place_append, List.filterMap_append, token?_mended, next, ih _ later,
      first, List.filterMap_append]

/-! ## Scans -/

/-- Recovery from errors is the same as blanking them out. The units of a source make it up, and
when every character among them that a scan reports as stray is replaced by a space, and an open
string by the line breaks in it, a scan returns the same tokens on the same lines and reports
nothing. -/
theorem scan_repaired (source : String) :
    (Scan.unitsOf source).flatMap (fun p => p.unit.text) = source.toList ∧
    (Scan.ofSource (Scan.repaired source)).tokens = (Scan.ofSource source).tokens ∧
    Scan.calls (Scan.repaired source) = [] := by
  have units : LexicalUnit.ofSource (Scan.repaired source).toList
      = (LexicalUnit.ofSource source.toList).flatMap mended := by
    rw [toList_repaired, ofSource_mended]
  have noBreak := newline_not_stray source.toList
  refine ⟨?_, ?_, ?_⟩
  · rw [← List.flatMap_map, Scan.unitsOf, PlacedUnit.unit_place, text_ofSource]
  · have last : lineAfter 1 (Scan.repaired source).toList = lineAfter 1 source.toList := by
      rw [lineAfter, toList_repaired, mendedText, count_flatMap_mended noBreak, text_ofSource,
        lineAfter]
    simp only [Scan.ofSource, Scan.unitsOf, units, last, tokens_mended 1 noBreak]
  · rw [← List.map_eq_nil_iff (f := Prod.snd), Scan.complaints_calls, units,
      List.filterMap_eq_nil_iff]
    intro v member
    obtain ⟨u, -, inside⟩ := List.mem_flatMap.mp member
    exact complaint?_mended inside

/-- A point stays apart from the digit behind a stray character, and of an open string the line
break is left. -/
example : Scan.repaired "7.@5!#=\"a\nb" = "7. 5! =\n" := by decide +kernel

end ScriptScan
