import Mathlib.Data.List.DropRight
import ScriptScan.Diagnostics
import ScriptScan.Proofs.Lines

/-!
# Histories of a collector

A collector is used for one source after the other, with reports by hand and clears in between,
and a scan neither looks at what has been collected nor changes it.

* `Scan.tell_eq_into`: a scan that tells its receiver of an error as soon as it has read the
  unit, and returns the tokens at the end, is a scan that tells all of them at the end. What the
  receiver has become does not come back into the scan.
* `entries_apply`: an operation adds its own reports behind the entries, and a clear leaves none.
* `entries_after`: so the entries are the reports of the operations behind the last clear, for
  every history.
* `collector_after_history` puts this together with the tokens and with the flags of the
  collector.
-/

namespace ScriptScan
namespace Scan

variable {State : Type}

/-! ## Errors told on the way -/

/-- A scan that takes one unit off the source after the other, and tells the receiver of an
error before it goes on. -/
def tell (receive : State → UInt32 → String → State) (line : UInt32) (state : State) :
    List Char → List Token × State
  | [] => ([Token.eof line], state)
  | c :: source =>
    let first := LexicalUnit.cut c source
    let u : PlacedUnit := ⟨first.1, line⟩
    let told := u.error?.elim state fun e => receive state e.line e.message
    let later := tell receive u.nextLine told first.2
    (u.token?.toList ++ later.1, later.2)
  termination_by source => source.length
  decreasing_by exact LexicalUnit.length_cut_lt c source

/-- From every line and every state of the receiver, the errors that are told on the way are
those of the units, and they leave the receiver in the same state. -/
theorem tell_eq_place (receive : State → UInt32 → String → State) (line : UInt32) (state : State)
    (source : List Char) :
    tell receive line state source
      = ((PlacedUnit.place line (LexicalUnit.ofSource source)).filterMap PlacedUnit.token?
          ++ [Token.eof (lineAfter line source)],
        ((PlacedUnit.place line (LexicalUnit.ofSource source)).filterMap PlacedUnit.error?).foldl
          (fun s e => receive s e.line e.message) state) := by
  fun_induction tell receive line state source with
  | case1 line state => simp [LexicalUnit.ofSource, PlacedUnit.place, lineAfter]
  | case2 line state c source first u told later ih =>
    have here : lineAfter line (c :: source) = lineAfter u.nextLine first.2 := by
      rw [PlacedUnit.nextLine, ← lineAfter_append, LexicalUnit.text_cut]
    rw [LexicalUnit.ofSource, PlacedUnit.place, here]
    show (u.token?.toList ++ later.1, later.2)
      = ((u :: PlacedUnit.place u.nextLine (LexicalUnit.ofSource first.2)).filterMap
          PlacedUnit.token? ++ _,
        ((u :: PlacedUnit.place u.nextLine (LexicalUnit.ofSource first.2)).filterMap
          PlacedUnit.error?).foldl (fun s e => receive s e.line e.message) state)
    rw [show later = _ from ih, List.filterMap_cons, List.filterMap_cons]
    refine Prod.ext ?_ ?_
    · cases u.token? <;> rfl
    · cases error : u.error? <;> simp [told, error]

/-- The scan that tells its errors on the way is the scan that hands them over at the end. -/
theorem tell_eq_into (source : String) (receive : State → UInt32 → String → State)
    (state : State) : tell receive 1 state source.toList = into source receive state :=
  tell_eq_place receive 1 state source.toList

end Scan

namespace Diagnostics

/-! ## One operation -/

/-- What an operation reports: a scan what it reports to an empty collector, a clear nothing. -/
def Operation.reports : Operation → List Diagnostic
  | .report line message => [⟨line, message⟩]
  | .scan source => (empty.scan source).2.entries
  | .clear => []

/-- A scan adds to any collector what it adds to an empty one. -/
theorem entries_scan_eq_append (d : Diagnostics) (source : String) :
    (d.scan source).2.entries = d.entries ++ (empty.scan source).2.entries := by
  rw [entries_scan, entries_scan]
  rfl

/-- The operation adds its reports behind the entries, or it is a clear and leaves none. -/
theorem entries_apply (d : Diagnostics) (operation : Operation) :
    (d.apply operation).2.entries
      = if operation = .clear then [] else d.entries ++ operation.reports := by
  cases operation with
  | report line message => rfl
  | scan source =>
    rw [if_neg (by rintro ⟨⟩)]
    exact entries_scan_eq_append d source
  | clear => rfl

/-! ## A whole history -/

theorem after_concat (d : Diagnostics) (history : List Operation) (operation : Operation) :
    d.after (history ++ [operation]) = ((d.after history).apply operation).2 :=
  List.foldl_concat ..

/-- The operations behind the last clear, or all of them if nothing was cleared. -/
def sinceClear (history : List Operation) : List Operation :=
  history.rtakeWhile (· != .clear)

/-- A clear is where the operations behind it start anew, any other operation is one more. -/
theorem sinceClear_concat (history : List Operation) (operation : Operation) :
    sinceClear (history ++ [operation])
      = if operation = .clear then [] else sinceClear history ++ [operation] := by
  unfold sinceClear
  rw [List.rtakeWhile_concat]
  by_cases clears : operation = .clear <;> simp [clears]

/-- The entries are the reports since the last clear, in order. -/
theorem entries_after (history : List Operation) :
    (empty.after history).entries = (sinceClear history).flatMap Operation.reports := by
  -- The last operation is the one that is done to what the others have left.
  induction history using List.reverseRecOn with
  | nil => rfl
  | append_singleton history operation ih =>
    rw [after_concat, entries_apply, sinceClear_concat, ih]
    by_cases clears : operation = .clear
    · rw [if_pos clears, if_pos clears]
      rfl
    · rw [if_neg clears, if_neg clears, List.flatMap_append, List.flatMap_singleton]

/-- Whatever receives the errors of a source is told the diagnostics that an empty collector
keeps. -/
theorem into_eq_foldl_entries {State : Type} (source : String)
    (receive : State → UInt32 → String → State) (state : State) :
    Scan.into source receive state
      = ((empty.scan source).1,
        (empty.scan source).2.entries.foldl (fun s d => receive s d.line d.message) state) := by
  rw [entries_scan]
  show _ = (_, ((Scan.ofSource source).errors.map Diagnostic.ofError).foldl _ state)
  rw [List.foldl_map]
  rfl

/-! ## Flags -/

/-- The collector has had an error when it is not empty, and when it has more than no entry. -/
theorem hadError_eq_decide (d : Diagnostics) : d.hadError = decide (0 < d.size) := by
  obtain ⟨entries⟩ := d
  cases entries with
  | nil => rfl
  | cons first rest => exact (decide_eq_true (Nat.succ_pos rest.length)).symm

theorem hadError_iff (d : Diagnostics) : d.hadError = true ↔ d.entries ≠ [] := by
  rw [hadError, Bool.not_eq_true', List.isEmpty_eq_false_iff]

theorem hadError_after (history : List Operation) :
    (empty.after history).hadError = true ↔
      ∃ operation ∈ sinceClear history, operation.reports ≠ [] := by
  rw [hadError_iff, entries_after, ne_eq, List.flatMap_eq_nil_iff]
  push Not
  rfl

/-- A collector after any history of reports, scans and clears. Its entries are the reports of
the operations since the last clear, in order, and every scan reports what it reports to an empty
collector. The next scan returns the tokens of a scan for an empty collector and adds the
entries of that. Any other receiver of the errors of a source, also when it is told of each as
soon as the unit is read and lines are counted from one, gets the same tokens and is told the
same. The flags and the size say whether there are entries, which is whether an operation since
the last clear has reported something. -/
theorem collector_after_history (history : List Operation) :
    (empty.after history).entries = (sinceClear history).flatMap Operation.reports ∧
    (∀ source : String,
      ((empty.after history).scan source).1 = (empty.scan source).1 ∧
      ((empty.after history).scan source).2.entries
        = (empty.after history).entries ++ (empty.scan source).2.entries) ∧
    (∀ (source : String) (State : Type) (receive : State → UInt32 → String → State)
      (state : State),
      Scan.tell receive 1 state source.toList = Scan.into source receive state ∧
      Scan.into source receive state
        = ((empty.scan source).1,
          (empty.scan source).2.entries.foldl (fun s d => receive s d.line d.message) state)) ∧
    (empty.after history).size = ((sinceClear history).flatMap Operation.reports).length ∧
    ((empty.after history).hadError = !(empty.after history).isEmpty) ∧
    ((empty.after history).hadError = decide (0 < (empty.after history).size)) ∧
    ((empty.after history).hadError = true ↔ (empty.after history).entries ≠ []) ∧
    ((empty.after history).hadError = true ↔
      ∃ operation ∈ sinceClear history, operation.reports ≠ []) := by
  have entries := entries_after history
  exact ⟨entries, fun source => ⟨rfl, entries_scan_eq_append _ source⟩,
    fun source State receive state =>
      ⟨Scan.tell_eq_into source receive state, into_eq_foldl_entries source receive state⟩,
    congrArg List.length entries, rfl, hadError_eq_decide _, hadError_iff _,
    hadError_after history⟩

/-- A report, two scans and a clear between them: the line of the second scan starts at one
again, and what stood before the clear is gone. -/
example : (empty.after [.report 7 "m", .scan "@\n#", .clear, .scan "\n\"", .report 7 "m"]).entries
    = [⟨2, "Unterminated string."⟩, ⟨7, "m"⟩] := by
  decide +kernel

end Diagnostics
end ScriptScan
