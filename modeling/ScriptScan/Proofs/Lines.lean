import Mathlib.Algebra.Group.Nat.Defs
import ScriptScan.Proofs.Tokens

/-!
# Lines

The line of a unit is counted in 32 bits, in steps of whole units. `LexicalUnit.located`
keeps the text that stands before each unit instead, and says where a unit really is.

* `place_eq_located`: the line of a unit is the one that is reached behind the text before it.
* `toNat_lineAfter`: behind a text with fewer than 2 ^ 32 - 1 line breaks the counter has not
  wrapped.
* `lines_count_newlines`: so tokens and reports have the lines on which they stand, also
  behind strings of several lines.
-/

namespace ScriptScan
namespace LexicalUnit

/-! ## Where units stand -/

/-- The units with the text that stands before each of them. -/
def located (before : List Char) : List LexicalUnit → List (List Char × LexicalUnit)
  | [] => []
  | u :: rest => (before, u) :: located (before ++ u.text) rest

/-- The text before a unit, the unit and what comes later are the whole text. -/
theorem text_of_mem_located {before : List Char} {units : List LexicalUnit}
    {p : List Char × LexicalUnit} (member : p ∈ located before units) :
    ∃ after, before ++ units.flatMap text = p.1 ++ p.2.text ++ after := by
  induction units generalizing before with
  | nil => cases member
  | cons u rest ih =>
    rcases List.mem_cons.mp member with rfl | later
    · exact ⟨rest.flatMap text, by rw [List.flatMap_cons, List.append_assoc]⟩
    · obtain ⟨after, whole⟩ := ih later
      exact ⟨after, by rw [← whole, List.flatMap_cons, List.append_assoc]⟩

/-- A string that is never closed reaches to the end of the source. -/
theorem located_unclosed {before content : List Char} (source start : List Char)
    (member : (before, unclosed content) ∈ located start (ofSource source)) :
    start ++ source = before ++ '"' :: content := by
  revert start
  fun_induction ofSource source with
  | case1 =>
    intro start member
    cases member
  | case2 c source first ih =>
    intro start member
    rcases cut_sound c source with ⟨allowed, -⟩ | ⟨rfl, -, cuts⟩ | ⟨-, cuts⟩
    · rcases List.mem_cons.mp member with same | later
      · obtain ⟨rfl, open_c⟩ := Prod.mk.inj same
        rw [← open_c] at allowed
        exact allowed.elim
      · rw [← ih _ later, List.append_assoc, text_cut]
    · -- The open string takes the rest, so it is the only unit here.
      simp only [first, cuts, ofSource] at member
      cases List.mem_singleton.mp member
      rfl
    · simp only [first, cuts] at ih member
      rcases List.mem_cons.mp member with same | later
      · cases (Prod.mk.inj same).2
      · rw [← ih _ later, List.append_assoc]
        rfl

/-- The token of a unit, and the line on which the unit starts. -/
def kindLine? (p : List Char × LexicalUnit) : Option ((Category × String) × Nat) :=
  p.2.kind?.map fun kind => (kind, 1 + p.1.count '\n')

/-- The report of an error unit in a source, and its line: that of a stray character, and the
last line of the source when a string is never closed. -/
def complaintLine? (source : List Char) (p : List Char × LexicalUnit) : Option (Nat × String) :=
  p.2.complaint?.map fun message =>
    match p.2 with
    | unclosed _ => (1 + source.count '\n', message)
    | _ => (1 + p.1.count '\n', message)

end LexicalUnit

/-! ## The counter -/

theorem lineAfter_append (line : UInt32) (a b : List Char) :
    lineAfter line (a ++ b) = lineAfter (lineAfter line a) b := by
  simp only [lineAfter, List.count_append, UInt32.ofNat_add, UInt32.add_assoc]

theorem lineAfter_of_not_mem (line : UInt32) {text : List Char} (noBreak : '\n' ∉ text) :
    lineAfter line text = line := by
  rw [lineAfter, List.count_eq_zero_of_not_mem noBreak]
  simp

/-- A counter that has room for the line breaks of a text does not wrap. -/
theorem toNat_lineAfter (line : UInt32) {text : List Char}
    (room : line.toNat + text.count '\n' < 2 ^ 32) :
    (lineAfter line text).toNat = line.toNat + text.count '\n' := by
  rw [lineAfter, UInt32.toNat_add, UInt32.toNat_ofNat', Nat.add_mod_mod, Nat.mod_eq_of_lt room]

/-- The lines of units are those behind the texts before them. -/
theorem place_eq_located (before : List Char) (units : List LexicalUnit) :
    PlacedUnit.place (lineAfter 1 before) units
      = (LexicalUnit.located before units).map fun p => ⟨p.2, lineAfter 1 p.1⟩ := by
  induction units generalizing before with
  | nil => rfl
  | cons u rest ih =>
    rw [PlacedUnit.place, ← lineAfter_append, ih]
    rfl

namespace Scan

open LexicalUnit

theorem unitsOf_eq_located (source : String) :
    unitsOf source = (located [] (LexicalUnit.ofSource source.toList)).map
      fun p => ⟨p.2, lineAfter 1 p.1⟩ :=
  place_eq_located [] (LexicalUnit.ofSource source.toList)

/-- The counter fits every line of a source with fewer than 2 ^ 32 - 1 line breaks. -/
theorem toNat_lineAfter_prefix {source before : List Char}
    (few : source.count '\n' < 2 ^ 32 - 1) (here : before <+: source) :
    (lineAfter 1 before).toNat = 1 + before.count '\n' := by
  obtain ⟨after, rfl⟩ := here
  rw [List.count_append] at few
  -- The counter starts at one, which is the line that the bound leaves free.
  refine toNat_lineAfter 1 ?_
  rw [UInt32.toNat_one]
  omega

theorem prefix_of_mem_located {source : List Char} {p : List Char × LexicalUnit}
    (member : p ∈ located [] (LexicalUnit.ofSource source)) : p.1 ++ p.2.text <+: source := by
  obtain ⟨after, whole⟩ := text_of_mem_located member
  rw [List.nil_append, text_ofSource] at whole
  exact ⟨after, whole.symm⟩

theorem toNat_line_of_mem_located {source : List Char} {p : List Char × LexicalUnit}
    (few : source.count '\n' < 2 ^ 32 - 1)
    (member : p ∈ located [] (LexicalUnit.ofSource source)) :
    (lineAfter 1 p.1).toNat = 1 + p.1.count '\n' :=
  toNat_lineAfter_prefix few ((List.prefix_append p.1 p.2.text).trans (prefix_of_mem_located member))

theorem toNat_complaintLine {source : List Char} {p : List Char × LexicalUnit}
    (few : source.count '\n' < 2 ^ 32 - 1)
    (member : p ∈ located [] (LexicalUnit.ofSource source)) :
    (p.2.complaint?.map fun message =>
      (((⟨p.2, lineAfter 1 p.1⟩ : PlacedUnit).complaintLine).toNat, message))
      = complaintLine? source p := by
  obtain ⟨before, u⟩ := p
  cases u with
  | stray c =>
    have here := toNat_line_of_mem_located few member
    simp only [complaintLine?, complaint?, PlacedUnit.complaintLine, here]
  | unclosed content =>
    have whole := located_unclosed source [] member
    rw [List.nil_append] at whole
    have last := toNat_lineAfter_prefix few List.prefix_rfl
    rw [whole, lineAfter_append] at last
    simp only [complaintLine?, complaint?, PlacedUnit.complaintLine, PlacedUnit.nextLine, text,
      last, whole]
  | _ => rfl

theorem kindLines_ofSource {source : String} (few : source.toList.count '\n' < 2 ^ 32 - 1) :
    (ofSource source).tokens.map (fun t => (t.kind, t.line.toNat))
      = (located [] (LexicalUnit.ofSource source.toList)).filterMap kindLine?
        ++ [((.eof, ""), 1 + source.toList.count '\n')] := by
  have lines := congrArg (List.map fun t => (t.1.1, t.2.toNat)) (tokens_ofSource source)
  rw [List.map_map, List.map_append, List.map_filterMap, unitsOf_eq_located,
    List.filterMap_map] at lines
  have each := List.filterMap_congr (l := located [] (LexicalUnit.ofSource source.toList))
    (f := fun p => (p.2.kind?.map fun kind => (kind, (lineAfter 1 p.1).toNat)))
    (g := kindLine?) fun p member => by rw [toNat_line_of_mem_located few member, kindLine?]
  have last := toNat_lineAfter_prefix few List.prefix_rfl
  simpa [Function.comp_def, reading?, Token.reading, each, last] using lines

theorem complaintLines_calls {source : String} (few : source.toList.count '\n' < 2 ^ 32 - 1) :
    (calls source).map (fun call => (call.1.toNat, call.2))
      = (located [] (LexicalUnit.ofSource source.toList)).filterMap
          (complaintLine? source.toList) := by
  rw [calls_eq_complaints, List.map_filterMap, unitsOf_eq_located, List.filterMap_map]
  refine List.filterMap_congr fun p member => ?_
  rw [← toNat_complaintLine few member]
  simp [Function.comp_def]

/-- A step from one unit to the next does not wrap the counter. -/
theorem toNat_nextLine {source : String} (few : source.toList.count '\n' < 2 ^ 32 - 1)
    {u : PlacedUnit} (member : u ∈ unitsOf source) :
    u.nextLine.toNat = u.line.toNat + u.unit.text.count '\n' := by
  rw [unitsOf_eq_located] at member
  obtain ⟨p, located_p, rfl⟩ := List.mem_map.mp member
  have behind := toNat_lineAfter_prefix few (prefix_of_mem_located located_p)
  rw [lineAfter_append, List.count_append] at behind
  rw [PlacedUnit.nextLine, behind, toNat_line_of_mem_located few located_p, Nat.add_assoc]

end Scan

open LexicalUnit in
/-- The lines of a scan are lines of its source, for every source with fewer than 2 ^ 32 - 1
line breaks. A token and a stray character stand on the line that the line breaks before them
count, a string that is never closed is reported for the last line, and the end of the source
is on the last line. The counter never wraps: behind every part of the source that is read,
and in every step from unit to unit, it has the value that the line breaks count. -/
theorem lines_count_newlines (source : String)
    (few : source.toList.count '\n' < 2 ^ 32 - 1) :
    (Scan.ofSource source).tokens.map (fun t => (t.kind, t.line.toNat))
      = (located [] (LexicalUnit.ofSource source.toList)).filterMap kindLine?
        ++ [((.eof, ""), 1 + source.toList.count '\n')] ∧
    (Scan.calls source).map (fun call => (call.1.toNat, call.2))
      = (located [] (LexicalUnit.ofSource source.toList)).filterMap
          (complaintLine? source.toList) ∧
    (∀ p ∈ located [] (LexicalUnit.ofSource source.toList),
      p.1 ++ p.2.text <+: source.toList) ∧
    (∀ before, before <+: source.toList →
      (lineAfter 1 before).toNat = 1 + before.count '\n') ∧
    ∀ u ∈ Scan.unitsOf source, u.nextLine.toNat = u.line.toNat + u.unit.text.count '\n' :=
  ⟨Scan.kindLines_ofSource few, Scan.complaintLines_calls few,
    fun _ => Scan.prefix_of_mem_located, fun _ => Scan.toNat_lineAfter_prefix few,
    fun _ => Scan.toNat_nextLine few⟩

/-- A string of two lines, a stray character behind it and a string that is never closed. -/
theorem lines_behind_open_strings :
    "\"a\nb\" x@\n\"c\n".toList.count '\n' < 2 ^ 32 - 1 ∧
    (Scan.ofSource "\"a\nb\" x@\n\"c\n").tokens.map (fun t => (t.kind, t.line.toNat))
      = [((.string, "\"a\nb\""), 1), ((.identifier, "x"), 2), ((.eof, ""), 4)] ∧
    (Scan.calls "\"a\nb\" x@\n\"c\n").map (fun call => (call.1.toNat, call.2))
      = [(2, "Unexpected character '@'."), (4, "Unterminated string.")] := by
  have few : "\"a\nb\" x@\n\"c\n".toList.count '\n' < 2 ^ 32 - 1 := by decide
  obtain ⟨tokens, calls, -⟩ := lines_count_newlines "\"a\nb\" x@\n\"c\n" few
  refine ⟨few, ?_, ?_⟩
  · rw [tokens]
    decide +kernel
  · rw [calls]
    decide +kernel

end ScriptScan
