import ScriptScan.Proofs.Adjacency
import ScriptScan.Proofs.Lines

/-!
# Sources that go on

What a scan makes of the beginning of a source hardly depends on what comes later. A unit ends
for good as soon as there is a character behind it that is no part of it
(`LexicalUnit.endsBefore_append`); only a number without a fraction looks one character
further, at the one behind a point.

* `LexicalUnit.ofSource_append_newline`: a line break closes every end but that of a string.
* `LexicalUnit.exists_kept_units`: all units but those of an open end stay when the source goes
  on. An open end is the last unit, or a number and the point behind it.
* `scan_append` is the result for scans: the source that goes on has the same tokens, but for
  the last one or for such a number and its point, and the same reports, but for that of a
  string that is not closed yet.
-/

namespace ScriptScan
namespace LexicalUnit

/-- No string is left open. -/
def Closed (source : List Char) : Prop := ∀ content, unclosed content ∉ ofSource source

/-- The source ends in a number without a fraction and a point directly behind it. -/
def EndsInPoint (source : List Char) : Prop :=
  ∃ units whole, ofSource source = units ++ [number whole [], operator .dot]

/-! ## Ends that stay -/

/-- A unit that ends before some text ends there also when the text goes on, unless the text is
the point behind a number and a digit comes next. -/
theorem endsBefore_append {u : LexicalUnit} {rest more : List Char} (ends : u.EndsBefore rest)
    (behind : rest ≠ [])
    (noDigit : (∃ whole, u = number whole []) → rest = ['.'] → StopsAt Char.isDigit more) :
    u.EndsBefore (rest ++ more) := by
  obtain ⟨c, tail, rfl⟩ := List.exists_cons_of_ne_nil behind
  -- But for the number, a unit looks at the character `c` only.
  cases u with
  | number whole fraction =>
    cases fraction with
    | nil =>
      obtain ⟨stops, noFraction⟩ := ends
      refine ⟨stops, ?_⟩
      rintro ⟨d, later, starts, digit⟩
      rw [List.cons_append, List.cons_eq_cons] at starts
      obtain ⟨rfl, starts⟩ := starts
      cases tail with
      | nil =>
        have outside := noDigit ⟨whole, rfl⟩ rfl
        rw [List.nil_append] at starts
        rw [starts, stopsAt_cons, digit] at outside
        cases outside
      | cons e tail =>
        cases starts
        exact noFraction ⟨d, tail, rfl, digit⟩
    | cons d places => exact ends
  | unclosed content => exact absurd ends behind
  | _ => exact ends

theorem endsBefore_append_newline {u : LexicalUnit} {rest : List Char} (allowed : u.InGrammar)
    (ends : u.EndsBefore rest) (more : List Char) : u.EndsBefore (rest ++ '\n' :: more) := by
  by_cases behind : rest = []
  · rw [behind, List.nil_append]
    exact endsBefore_blank allowed (.inr (.inr (.inr rfl))) (fun _ => rfl) more
  · exact endsBefore_append ends behind fun _ _ => stopsAt_cons.mpr (by decide)

/-! ## Stray characters -/

/-- Where no operator is cut off, the character starts none. -/
theorem head_ne_of_cutOperator? {c : Char} {source : List Char}
    (none_found : cutOperator? c source = none) (op : Operator) : op.spelling.head? ≠ some c := by
  intro first
  -- The first character of an operator is an operator itself.
  have alone : (Operator.ofSpelling? [c]).isSome = true := by
    cases op <;> cases first <;> rfl
  cases source with
  | nil =>
    rw [cutOperator?, Option.map_eq_none_iff] at none_found
    rw [none_found] at alone
    cases alone
  | cons d rest =>
    simp only [cutOperator?] at none_found
    split at none_found
    · cases none_found
    · rw [Option.map_eq_none_iff] at none_found
      rw [none_found] at alone
      cases alone

/-- A stray character is one whatever stands behind it. -/
theorem cut_stray {c : Char} {source : List Char} (cuts : cut c source = (stray c, source))
    (more : List Char) : cut c more = (stray c, more) := by
  unfold cut at cuts
  split at cuts
  · cases cuts
  next noBlank =>
  split at cuts
  · cases cuts
  split at cuts
  · cases cuts
  next foreign =>
  split at cuts
  · unfold cutQuoted at cuts
    split at cuts <;> cases cuts
  next noQuote =>
  split at cuts
  · cases cuts
  next noDigit =>
  split at cuts
  · cases cuts
  next noStart =>
  rw [cut_of_foreign (Bool.not_eq_true _ ▸ noBlank) (head_ne_of_cutOperator? foreign)]
  simp [noQuote, noDigit, noStart]

/-! ## A line break -/

theorem ofSource_cons_of_inGrammar {c : Char} {source more : List Char}
    (allowed : (cut c source).1.InGrammar)
    (ends : (cut c source).1.EndsBefore ((cut c source).2 ++ more)) :
    ofSource (c :: source ++ more) = (cut c source).1 :: ofSource ((cut c source).2 ++ more) := by
  rw [← text_cut c source, List.append_assoc, ofSource_text_append allowed ends]

/-- A source that leaves no string open is finished by a line break. -/
theorem ofSource_append_newline {source : List Char} (closed : Closed source)
    (more : List Char) :
    ofSource (source ++ '\n' :: more) = ofSource source ++ blank '\n' :: ofSource more := by
  unfold Closed at closed
  fun_induction ofSource source with
  | case1 => exact ofSource_text_append (u := blank '\n') (.inr (.inr (.inr rfl))) trivial
  | case2 c source first ih =>
    have later := ih fun content member => closed content (List.mem_cons_of_mem _ member)
    rcases cut_sound c source with ⟨allowed, ends⟩ | ⟨-, -, cuts⟩ | ⟨-, cuts⟩
    · rw [ofSource_cons_of_inGrammar allowed (endsBefore_append_newline allowed ends more), later,
        List.cons_append]
    · exact absurd (List.mem_cons.mpr (.inl (congrArg Prod.fst cuts).symm)) (closed source)
    · simp only [first, cuts] at later ⊢
      rw [List.cons_append, ofSource, cut_stray cuts, later, List.cons_append]

/-! ## The units that stay -/

/-- The units at the end of a source that may become others when it goes on. -/
inductive OpenEnd : List LexicalUnit → Prop
  | none : OpenEnd []
  | last {u : LexicalUnit} : (∀ c, u ≠ stray c) → OpenEnd [u]
  | point {whole : List Char} : OpenEnd [number whole [], operator .dot]

theorem OpenEnd.ne_stray {units : List LexicalUnit} (isOpen : OpenEnd units) :
    ∀ u ∈ units, ∀ c, u ≠ stray c := by
  cases isOpen with
  | none => exact List.forall_mem_nil _
  | last noStray => exact List.forall_mem_singleton.mpr noStray
  | point => simp

theorem OpenEnd.length_le_one_or {units : List LexicalUnit} (isOpen : OpenEnd units) :
    units.length ≤ 1 ∨ ∃ whole, units = [number whole [], operator .dot] := by
  cases isOpen with
  | none => exact .inl (Nat.zero_le 1)
  | last => exact .inl (Nat.le_refl 1)
  | point => exact .inr ⟨_, rfl⟩

theorem ofSource_point : ofSource ['.'] = [operator .dot] := by
  have first : ofSource ((operator .dot).text ++ []) = operator .dot :: ofSource [] :=
    ofSource_text_append trivial fun c head => by cases head
  rwa [List.append_nil, ofSource] at first

/-- The units before an open end stay when the source goes on, and no string is open among
them. -/
theorem exists_kept_units (source more : List Char) :
    ∃ kept last, ofSource source = kept ++ last ∧ kept <+: ofSource (source ++ more) ∧
      (∀ content, unclosed content ∉ kept) ∧ OpenEnd last := by
  fun_induction ofSource source with
  | case1 => exact ⟨[], [], rfl, List.nil_prefix, fun _ => List.not_mem_nil, .none⟩
  | case2 c source first ih =>
    obtain ⟨kept, last, parts, stays, closed, isOpen⟩ := ih
    rcases cut_sound c source with ⟨allowed, ends⟩ | ⟨-, -, cuts⟩ | ⟨-, cuts⟩
    · have allowed : first.1.InGrammar := allowed
      by_cases behind : first.2 = []
      · have noStray : ∀ d, first.1 ≠ stray d := by
          intro d same
          rw [same] at allowed
          exact allowed
        rw [behind, ofSource]
        exact ⟨[], _, rfl, List.nil_prefix, fun _ => List.not_mem_nil, .last noStray⟩
      by_cases point : (∃ whole, first.1 = number whole []) ∧ first.2 = ['.']
      · obtain ⟨⟨whole, isNumber⟩, isPoint⟩ := point
        rw [isNumber, isPoint, ofSource_point]
        exact ⟨[], _, rfl, List.nil_prefix, fun _ => List.not_mem_nil, .point⟩
      have endsStill : first.1.EndsBefore (first.2 ++ more) :=
        endsBefore_append ends behind fun isNumber isPoint => absurd ⟨isNumber, isPoint⟩ point
      refine ⟨first.1 :: kept, last, by rw [parts, List.cons_append], ?_, ?_, isOpen⟩
      · rw [ofSource_cons_of_inGrammar allowed endsStill]
        exact (List.prefix_cons_inj _).mpr stays
      · intro content member
        rcases List.mem_cons.mp member with same | later
        · rw [← same] at allowed
          exact allowed
        · exact closed content later
    · simp only [first, cuts, ofSource]
      exact ⟨[], _, rfl, List.nil_prefix, fun _ => List.not_mem_nil, .last (by simp)⟩
    · simp only [first, cuts] at parts stays ⊢
      refine ⟨stray c :: kept, last, by rw [parts, List.cons_append], ?_, ?_, isOpen⟩
      · rw [List.cons_append, ofSource, cut_stray cuts]
        exact (List.prefix_cons_inj _).mpr stays
      · simpa using closed

/-- A stray character and an open string are complained about in different words. -/
theorem complaint?_eq_some {u : LexicalUnit} {message : String}
    (complains : u.complaint? = some message) :
    (∃ c, u = stray c ∧ message ≠ "Unterminated string.") ∨
      ∃ content, u = unclosed content ∧ message = "Unterminated string." := by
  cases u with
  | stray c =>
    cases complains
    refine .inl ⟨c, rfl, fun same => ?_⟩
    have letters := congrArg String.toList same
    simp [String.toList_append] at letters
  | unclosed content =>
    cases complains
    exact .inr ⟨content, rfl, rfl⟩
  | _ => cases complains

theorem closed_of_calls {source : String}
    (closed : "Unterminated string." ∉ (Scan.calls source).map Prod.snd) :
    Closed source.toList := by
  intro content member
  rw [Scan.complaints_calls] at closed
  exact closed (List.mem_filterMap.mpr ⟨_, member, rfl⟩)

end LexicalUnit

/-! ## Scans -/

theorem place_append (line : UInt32) (units later : List LexicalUnit) :
    PlacedUnit.place line (units ++ later)
      = PlacedUnit.place line units
        ++ PlacedUnit.place (lineAfter line (units.flatMap LexicalUnit.text)) later := by
  induction units generalizing line with
  | nil =>
    rw [List.nil_append, List.flatMap_nil, lineAfter_of_not_mem line List.not_mem_nil]
    rfl
  | cons u rest ih =>
    rw [List.cons_append, PlacedUnit.place, ih, PlacedUnit.place, List.flatMap_cons,
      lineAfter_append, List.cons_append]

/-- The units behind a line break are placed on the lines behind it. -/
theorem place_append_newline (line : UInt32) {source : List Char}
    (closed : LexicalUnit.Closed source) (more : List Char) :
    PlacedUnit.place line (LexicalUnit.ofSource (source ++ '\n' :: more))
      = PlacedUnit.place line (LexicalUnit.ofSource source)
        ++ ⟨.blank '\n', lineAfter line source⟩
          :: PlacedUnit.place (lineAfter line (source ++ ['\n'])) (LexicalUnit.ofSource more) := by
  rw [LexicalUnit.ofSource_append_newline closed, place_append, LexicalUnit.text_ofSource,
    lineAfter_append]
  rfl

namespace Scan

open LexicalUnit

/-- The tokens of a scan without the end of the source. -/
def body (source : String) : List Token := (ofSource source).tokens.dropLast

theorem body_eq (source : String) :
    body source = (unitsOf source).filterMap PlacedUnit.token? := by
  simp [body, ofSource]

/-- The placed units that stay when a source goes on. -/
theorem exists_kept_places (a b : String) :
    ∃ kept last, unitsOf a = kept ++ last ∧ kept <+: unitsOf (a ++ b) ∧
      (∀ p ∈ kept, ∀ content, p.unit ≠ unclosed content) ∧ OpenEnd (last.map PlacedUnit.unit) ∧
      ∃ units, LexicalUnit.ofSource a.toList = units ++ last.map PlacedUnit.unit := by
  obtain ⟨kept, last, parts, ⟨later, stays⟩, closed, isOpen⟩ :=
    exists_kept_units a.toList b.toList
  refine ⟨PlacedUnit.place 1 kept,
    PlacedUnit.place (lineAfter 1 (kept.flatMap LexicalUnit.text)) last, ?_, ?_, ?_, ?_, kept, ?_⟩
  · rw [unitsOf, parts, place_append]
  · rw [unitsOf, String.toList_append, ← stays, place_append]
    exact List.prefix_append _ _
  · intro p member content same
    have inside := List.mem_map_of_mem (f := PlacedUnit.unit) member
    rw [PlacedUnit.unit_place, same] at inside
    exact closed content inside
  · rwa [PlacedUnit.unit_place]
  · rw [PlacedUnit.unit_place, parts]

/-- A call reports the complaint about one of the units. -/
theorem exists_of_mem_complaints {places : List PlacedUnit} {call : UInt32 × String}
    (member : call ∈ places.filterMap fun p => p.unit.complaint?.map (p.complaintLine, ·)) :
    ∃ p ∈ places, p.unit.complaint? = some call.2 := by
  obtain ⟨p, inside, complains⟩ := List.mem_filterMap.mp member
  obtain ⟨message, found, rfl⟩ := Option.map_eq_some_iff.mp complains
  exact ⟨p, inside, found⟩

/-- The reports but for that of an open string are the complaints about the units that stay. -/
theorem filter_calls_of_kept {source : String} {kept last : List PlacedUnit}
    (parts : unitsOf source = kept ++ last)
    (closed : ∀ p ∈ kept, ∀ content, p.unit ≠ unclosed content)
    (isOpen : OpenEnd (last.map PlacedUnit.unit)) :
    (calls source).filter (fun call => call.2 ≠ "Unterminated string.")
      = kept.filterMap fun p => p.unit.complaint?.map (p.complaintLine, ·) := by
  -- No string is open among the units that stay, and none is stray among the others.
  have other : ∀ call ∈ kept.filterMap fun p => p.unit.complaint?.map (p.complaintLine, ·),
      decide (call.2 ≠ "Unterminated string.") = true := by
    intro call member
    obtain ⟨p, inside, complains⟩ := exists_of_mem_complaints member
    rcases complaint?_eq_some complains with ⟨-, -, differs⟩ | ⟨content, isUnclosed, -⟩
    · exact decide_eq_true differs
    · exact absurd isUnclosed (closed p inside content)
  have unterminated : ∀ call ∈ last.filterMap fun p => p.unit.complaint?.map (p.complaintLine, ·),
      ¬ decide (call.2 ≠ "Unterminated string.") = true := by
    intro call member
    obtain ⟨p, inside, complains⟩ := exists_of_mem_complaints member
    rcases complaint?_eq_some complains with ⟨c, isStray, -⟩ | ⟨-, -, same⟩
    · exact absurd isStray (isOpen.ne_stray p.unit (List.mem_map_of_mem inside) c)
    · rw [decide_eq_true_eq]
      exact not_not_intro same
  rw [calls_eq_complaints, parts, List.filterMap_append, List.filter_append,
    List.filter_eq_self.mpr other, List.filter_eq_nil_iff.mpr unterminated, List.append_nil]

theorem take_prefix_of_append {γ : Type} {kept last : List γ} {count : Nat}
    (short : last.length ≤ count) :
    (kept ++ last).take ((kept ++ last).length - count) <+: kept := by
  rw [List.length_append, List.take_append_of_le_length (by omega)]
  exact List.take_prefix _ kept

end Scan

open LexicalUnit Scan in
/-- When a source goes on, its tokens stay with their lines, but for the last one. Only where
the source ends in a number without a fraction and a point, the last two may become others. The
reports stay too, but for that of a string that is not closed yet. -/
theorem scan_append (a b : String) :
    (body a).take ((body a).length - 2) <+: body (a ++ b) ∧
    (EndsInPoint a.toList ∨ (body a).take ((body a).length - 1) <+: body (a ++ b)) ∧
    (calls a).filter (fun call => call.2 ≠ "Unterminated string.") <+: calls (a ++ b) := by
  obtain ⟨kept, last, parts, stays, closed, isOpen, units, whole⟩ := exists_kept_places a b
  have tokensStay : kept.filterMap PlacedUnit.token? <+: body (a ++ b) := by
    rw [body_eq]
    exact stays.filterMap PlacedUnit.token?
  have few := List.length_filterMap_le PlacedUnit.token? last
  have short := isOpen.length_le_one_or
  rw [List.length_map] at short
  rw [body_eq a, parts, List.filterMap_append]
  refine ⟨?_, ?_, ?_⟩
  · have two : last.length ≤ 2 := by
      rcases short with one | ⟨digits, point⟩
      · omega
      · have length := congrArg List.length point
        rw [List.length_map] at length
        exact Nat.le_of_eq length
    exact (take_prefix_of_append (few.trans two)).trans tokensStay
  · rcases short with one | ⟨digits, point⟩
    · exact .inr ((take_prefix_of_append (few.trans one)).trans tokensStay)
    · exact .inl ⟨units, digits, by rw [whole, point]⟩
  · rw [filter_calls_of_kept parts closed isOpen, calls_eq_complaints]
    exact stays.filterMap _

/-- A digit behind the point takes the last two tokens. -/
example : (Scan.body "7.").map Token.kind = [(.number, "7"), (.operator .dot, ".")] ∧
    (Scan.body "7.5").map Token.kind = [(.number, "7.5")] := by
  decide +kernel

end ScriptScan
