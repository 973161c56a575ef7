import ScriptScan.Proofs.Continuation

/-!
# Scans of joined sources

The scanner carries nothing from one line to the next but the number of the line. So the scan of
two sources with a line break between them is made of the scans of the two: the second one stands
as many lines lower as the first one and the line break have.

* `place_lineAfter`: units that are placed behind a text stand lower by its line breaks.
* `Scan.unitsOf_join_newline`: the units of joined sources are those of the first one, a line break
  and those of the second one placed lower.
* `Scan.filterMap_join_newline`: so is all that is read off the units with the lines that it
  belongs to. The lines do not wrap, since none is beyond the last one (`Scan.toNat_line_le`).
* `scan_join_newline` is the result, for tokens and for reports.
-/

namespace ScriptScan

open LexicalUnit

/-! ## Units further down -/

theorem lineAfter_right_comm (line : UInt32) (a b : List Char) :
    lineAfter (lineAfter line a) b = lineAfter (lineAfter line b) a := by
  simp only [lineAfter, UInt32.add_assoc, UInt32.add_comm (UInt32.ofNat (a.count '\n'))]

/-- The unit, placed lower by the line breaks of a text. -/
def PlacedUnit.below (front : List Char) (p : PlacedUnit) : PlacedUnit :=
  { p with line := lineAfter p.line front }

theorem place_lineAfter (line : UInt32) (front : List Char) (units : List LexicalUnit) :
    PlacedUnit.place (lineAfter line front) units
      = (PlacedUnit.place line units).map (PlacedUnit.below front) := by
  induction units generalizing line with
  | nil => rfl
  | cons u units ih =>
    rw [PlacedUnit.place, lineAfter_right_comm, ih]
    rfl

theorem complaintLine_below (front : List Char) (p : PlacedUnit) :
    (p.below front).complaintLine = lineAfter p.complaintLine front := by
  obtain ⟨u, line⟩ := p
  cases u with
  | unclosed content => exact lineAfter_right_comm line front _
  | _ => rfl

namespace Scan

/-! ## The last line -/

theorem toNat_line_le {source : String} (few : source.toList.count '\n' < 2 ^ 32 - 1)
    {p : PlacedUnit} (member : p ∈ unitsOf source) :
    p.line.toNat + p.unit.text.count '\n' ≤ 1 + source.toList.count '\n' := by
  rw [unitsOf_eq_located] at member
  obtain ⟨q, located_q, rfl⟩ := List.mem_map.mp member
  have inside := (prefix_of_mem_located located_q).sublist.count_le '\n'
  rw [List.count_append] at inside
  rw [toNat_line_of_mem_located few located_q, Nat.add_assoc]
  exact Nat.add_le_add_left inside 1

theorem toNat_complaintLine_le {source : String} (few : source.toList.count '\n' < 2 ^ 32 - 1)
    {p : PlacedUnit} (member : p ∈ unitsOf source) :
    p.complaintLine.toNat ≤ 1 + source.toList.count '\n' := by
  have last := toNat_line_le few member
  have next := toNat_nextLine few member
  unfold PlacedUnit.complaintLine
  split <;> omega

/-! ## Units of joined sources -/

theorem toList_join_newline (a b : String) :
    (a ++ "\n" ++ b).toList = a.toList ++ '\n' :: b.toList := by
  simp [String.toList_append]

theorem unitsOf_join_newline {a : String} (closed : Closed a.toList) (b : String) :
    unitsOf (a ++ "\n" ++ b)
      = unitsOf a ++ ⟨blank '\n', lineAfter 1 a.toList⟩
        :: (unitsOf b).map (PlacedUnit.below (a.toList ++ ['\n'])) := by
  rw [unitsOf, toList_join_newline, place_append_newline 1 closed, place_lineAfter]
  rfl

/-- What is read off the units of joined sources, with the lines that it belongs to. Lines that
move down with their units and are lines of the second source do not wrap. -/
theorem filterMap_join_newline {γ : Type} {f : LexicalUnit → Option γ}
    (skips : ∀ c, f (blank c) = none) {line : PlacedUnit → UInt32}
    (moves : ∀ front p, line (PlacedUnit.below front p) = lineAfter (line p) front) {a b : String}
    (few : (a ++ "\n" ++ b).toList.count '\n' < 2 ^ 32 - 1)
    (inside : ∀ p ∈ unitsOf b, (line p).toNat ≤ 1 + b.toList.count '\n')
    (closed : Closed a.toList) :
    (unitsOf (a ++ "\n" ++ b)).filterMap (fun p => (f p.unit).map ((line p).toNat, ·))
      = (unitsOf a).filterMap (fun p => (f p.unit).map ((line p).toNat, ·))
        ++ ((unitsOf b).filterMap fun p => (f p.unit).map ((line p).toNat, ·)).map
          fun r => (r.1 + (1 + a.toList.count '\n'), r.2) := by
  rw [toList_join_newline, List.count_append, List.count_cons_self] at few
  have lower : ∀ p ∈ unitsOf b,
      (f p.unit).map ((line (p.below (a.toList ++ ['\n']))).toNat, ·)
        = ((f p.unit).map ((line p).toNat, ·)).map
          fun r => (r.1 + (1 + a.toList.count '\n'), r.2) := by
    intro p member
    have count : (a.toList ++ ['\n']).count '\n' = 1 + a.toList.count '\n' := by
      rw [List.count_append, List.count_singleton_self, Nat.add_comm]
    have bound := inside p member
    rw [moves, toNat_lineAfter (line p) (by omega), count, Option.map_map]
    rfl
  rw [unitsOf_join_newline closed, List.filterMap_append, List.filterMap_cons, skips,
    List.filterMap_map, List.map_filterMap, ← List.filterMap_congr lower]
  rfl

/-- The tokens of a scan with their lines are those of its units. -/
theorem numbered_tokens (source : String) :
    (ofSource source).tokens.map (fun t => (t.line.toNat, t.reading))
      = (unitsOf source).filterMap (fun p => p.unit.reading?.map (p.line.toNat, ·))
        ++ [((lineAfter 1 source.toList).toNat, ((.eof, ""), .absent))] := by
  have tokens := congrArg (List.map fun t => (t.2.toNat, t.1)) (tokens_ofSource source)
  rw [List.map_map, List.map_append, List.map_filterMap] at tokens
  simpa [Function.comp_def] using tokens

theorem numbered_body (source : String) :
    (body source).map (fun t => (t.line.toNat, t.reading))
      = (unitsOf source).filterMap fun p => p.unit.reading?.map (p.line.toNat, ·) := by
  rw [body, List.map_dropLast, numbered_tokens, List.dropLast_concat]

/-- The calls of a scan with their lines are those for its units. -/
theorem numbered_calls (source : String) :
    (calls source).map (fun call => (call.1.toNat, call.2))
      = (unitsOf source).filterMap fun p =>
          p.unit.complaint?.map (p.complaintLine.toNat, ·) := by
  rw [calls_eq_complaints, List.map_filterMap]
  simp only [Option.map_map, Function.comp_def]

/-! ## Joined scans -/

theorem few_of_join_newline {a b : String}
    (few : (a ++ "\n" ++ b).toList.count '\n' < 2 ^ 32 - 1) :
    b.toList.count '\n' < 2 ^ 32 - 1 := by
  rw [toList_join_newline, List.count_append, List.count_cons_self] at few
  omega

/-- The last line of joined sources is the last line of the second one, placed lower. -/
theorem toNat_last_join_newline {a b : String}
    (few : (a ++ "\n" ++ b).toList.count '\n' < 2 ^ 32 - 1) :
    (lineAfter 1 (a ++ "\n" ++ b).toList).toNat
      = (lineAfter 1 b.toList).toNat + (1 + a.toList.count '\n') := by
  have whole := toNat_lineAfter_prefix few List.prefix_rfl
  have second := toNat_lineAfter_prefix (few_of_join_newline few) List.prefix_rfl
  rw [whole, second, toList_join_newline, List.count_append, List.count_cons_self]
  omega

theorem numbered_tokens_join_newline {a b : String}
    (few : (a ++ "\n" ++ b).toList.count '\n' < 2 ^ 32 - 1) (closed : Closed a.toList) :
    (ofSource (a ++ "\n" ++ b)).tokens.map (fun t => (t.line.toNat, t.reading))
      = (body a).map (fun t => (t.line.toNat, t.reading))
        ++ ((ofSource b).tokens.map fun t => (t.line.toNat, t.reading)).map
          fun r => (r.1 + (1 + a.toList.count '\n'), r.2) := by
  have inside : ∀ p ∈ unitsOf b, p.line.toNat ≤ 1 + b.toList.count '\n' := fun p member =>
    Nat.le_of_add_right_le (toNat_line_le (few_of_join_newline few) member)
  have joined := filterMap_join_newline (f := reading?) (fun _ => rfl) (fun _ _ => rfl) few inside
    closed
  rw [numbered_tokens, joined, toNat_last_join_newline few, ← numbered_body, numbered_tokens,
    List.map_append, List.append_assoc]
  rfl

theorem numbered_calls_join_newline {a b : String}
    (few : (a ++ "\n" ++ b).toList.count '\n' < 2 ^ 32 - 1) (closed : Closed a.toList) :
    (calls (a ++ "\n" ++ b)).map (fun call => (call.1.toNat, call.2))
      = (calls a).map (fun call => (call.1.toNat, call.2))
        ++ ((calls b).map fun call => (call.1.toNat, call.2)).map
          fun r => (r.1 + (1 + a.toList.count '\n'), r.2) := by
  have joined := filterMap_join_newline (f := complaint?) (fun _ => rfl) complaintLine_below few
    (fun p => toNat_complaintLine_le (few_of_join_newline few)) closed
  rwa [← numbered_calls, ← numbered_calls, ← numbered_calls] at joined

end Scan

open Scan in
/-- Scanning goes from line to line. When a source leaves no string open, the tokens of this source
and another one with a line break between are those of the first one and those of the second one,
each of them as many lines lower as the first one has line breaks with the one between. The same
holds of the reports. -/
theorem scan_join_newline {a b : String}
    (few : (a ++ "\n" ++ b).toList.count '\n' < 2 ^ 32 - 1)
    (closed : "Unterminated string." ∉ (calls a).map Prod.snd) :
    let lines := 1 + a.toList.count '\n'
    (Scan.ofSource (a ++ "\n" ++ b)).tokens.map (fun t => (t.line.toNat, t.reading))
      = (body a).map (fun t => (t.line.toNat, t.reading))
        ++ (Scan.ofSource b).tokens.map (fun t => (t.line.toNat + lines, t.reading)) ∧
    (calls (a ++ "\n" ++ b)).map (fun call => (call.1.toNat, call.2))
      = (calls a).map (fun call => (call.1.toNat, call.2))
        ++ (calls b).map fun call => (call.1.toNat + lines, call.2) := by
  intro lines
  have noOpen := closed_of_calls closed
  have tokens := numbered_tokens_join_newline few noOpen
  have reports := numbered_calls_join_newline few noOpen
  rw [List.map_map] at tokens reports
  exact ⟨tokens, reports⟩

/-- A comment with a quote behind a number and a point, and another source with a number, a stray
character and an open string. -/
theorem scan_join_newline_openEnds :
    (("\"s\n\"@7.// \"" ++ "\n" ++ "5\n#\"w").toList.count '\n' < 2 ^ 32 - 1 ∧
      "Unterminated string." ∉ (Scan.calls "\"s\n\"@7.// \"").map Prod.snd) ∧
    (Scan.ofSource ("\"s\n\"@7.// \"" ++ "\n" ++ "5\n#\"w")).tokens.map
        (fun t => (t.line.toNat, t.reading))
      = [(1, ((.string, "\"s\n\""), .string "s\n")),
          (2, ((.number, "7"), .number ⟨0x401c000000000000⟩)),
          (2, ((.operator .dot, "."), .absent)),
          (3, ((.number, "5"), .number ⟨0x4014000000000000⟩)), (4, ((.eof, ""), .absent))] ∧
    (Scan.calls ("\"s\n\"@7.// \"" ++ "\n" ++ "5\n#\"w")).map
        (fun call => (call.1.toNat, call.2))
      = [(2, "Unexpected character '@'."), (4, "Unexpected character '#'."),
          (4, "Unterminated string.")] := by
  have few : ("\"s\n\"@7.// \"" ++ "\n" ++ "5\n#\"w").toList.count '\n' < 2 ^ 32 - 1 := by
    decide +kernel
  have closed : "Unterminated string." ∉ (Scan.calls "\"s\n\"@7.// \"").map Prod.snd := by
    decide +kernel
  obtain ⟨tokens, calls⟩ := scan_join_newline few closed
  refine ⟨⟨few, closed⟩, ?_, ?_⟩
  · rw [tokens]
    decide +kernel
  · rw [calls]
    decide +kernel

end ScriptScan
