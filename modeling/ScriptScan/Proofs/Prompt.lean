import Mathlib.Algebra.Group.Nat.Defs
import ScriptScan.Proofs.Continuation
import ScriptScan.Proofs.Layout
import ScriptScan.Proofs.TextLines

/-!
# A prompt and a script

A prompt scans a text line by line, each line without the line feed and the carriage returns
at its end, and a script is scanned as a whole. As long as no line leaves a string open, both
find the same.

* `LexicalUnit.filterMap_lineEnds`: carriage returns and line feeds at the end of a source leave
  no trace. A comment takes up the carriage returns behind it, all other units end before them.
* `filterMap_place_of_cutIntoLines`: the units of a text are those of its lines, and each of them
  stands on the line that the lines before it count.
* `runPrompt_eq`: a prompt shows and logs one scan for each line, up to one that is no text.
* `prompt_finds_what_script_finds` puts them together.
-/

namespace ScriptScan
namespace LexicalUnit

variable {γ : Type}

/-! ## Line ends -/

/-- The function has one value at all open strings. -/
def SameAtOpen (f : LexicalUnit → Option γ) : Prop := ∀ a b, f (unclosed a) = f (unclosed b)

/-- Only a comment does not end before a character of a line break. -/
theorem endsBefore_lineEnd {u : LexicalUnit} {rest : List Char} (allowed : u.InGrammar)
    (ends : u.EndsBefore rest) {c : Char} (isEnd : c = '\r' ∨ c = '\n') :
    u.EndsBefore (rest ++ [c]) ∨ (∃ line, u = comment line) ∧ rest = [] := by
  by_cases behind : rest = []
  · by_cases isComment : ∃ line, u = comment line
    · exact .inr ⟨isComment, behind⟩
    · rw [behind]
      exact .inl (endsBefore_blank allowed (.inr (.inr isEnd)) (fun is => absurd is isComment) [])
  · refine .inl (endsBefore_append ends behind fun _ _ => stopsAt_cons.mpr ?_)
    rcases isEnd with rfl | rfl <;> rfl

theorem lastGap_comment_lineEnd {line : List Char} (noBreak : '\n' ∉ line) {c : Char}
    (isEnd : c = '\r' ∨ c = '\n') : LastGap ('/' :: '/' :: (line ++ [c])) := by
  rcases isEnd with rfl | rfl
  · have inside : '\n' ∉ line ++ ['\r'] := by simp [noBreak]
    exact .comment .nil inside
  · exact .gap (.comment noBreak .nil)

theorem filterMap_lineEnd {f : LexicalUnit → Option γ} (skips : SkipsGaps f)
    (same : SameAtOpen f) {c : Char} (isEnd : c = '\r' ∨ c = '\n') (source : List Char) :
    (ofSource (source ++ [c])).filterMap f = (ofSource source).filterMap f := by
  fun_induction ofSource source with
  | case1 => rw [List.nil_append, filterMap_blank skips (.inr (.inr isEnd)), ofSource]
  | case2 d source first ih =>
    rcases cut_sound d source with ⟨allowed, ends⟩ | ⟨rfl, noQuote, cuts⟩ | ⟨-, cuts⟩
    · rcases endsBefore_lineEnd allowed ends isEnd with endsStill | ⟨⟨line, isComment⟩, last⟩
      · rw [ofSource_cons_of_inGrammar allowed endsStill, List.filterMap_cons, ih,
          List.filterMap_cons]
      · rw [isComment] at allowed
        have whole := text_cut d source
        rw [isComment, last, List.append_nil] at whole
        rw [← whole]
        simp only [first, isComment, last, ofSource, List.filterMap_cons, skips.2]
        exact filterMap_lastGap skips (lastGap_comment_lineEnd allowed isEnd)
    · have open_on : '"' ∉ source ++ [c] := by
        rcases isEnd with rfl | rfl <;> simp [noQuote]
      have whole : ofSource ('"' :: (source ++ [c])) = [unclosed (source ++ [c])] := by
        rw [ofSource, cut_quote, cutQuoted_unclosed open_on, ofSource]
      simp only [first, cuts, List.cons_append, whole, ofSource, List.filterMap_cons,
        same source (source ++ [c])]
    · simp only [first, cuts] at ih ⊢
      rw [List.cons_append, ofSource, cut_stray cuts, List.filterMap_cons, ih,
        List.filterMap_cons]

/-- Carriage returns and line feeds at the end of a source leave no trace. -/
theorem filterMap_lineEnds {f : LexicalUnit → Option γ} (skips : SkipsGaps f)
    (same : SameAtOpen f) {ends : List Char} (areEnds : ∀ c ∈ ends, c = '\r' ∨ c = '\n')
    (source : List Char) :
    (ofSource (source ++ ends)).filterMap f = (ofSource source).filterMap f := by
  induction ends generalizing source with
  | nil => rw [List.append_nil]
  | cons c ends ih =>
    obtain ⟨isEnd, areEnds⟩ := List.forall_mem_cons.mp areEnds
    rw [← List.singleton_append, ← List.append_assoc, ih areEnds,
      filterMap_lineEnd skips same isEnd]

end LexicalUnit

open LexicalUnit

/-! ## Units of one line -/

theorem place_of_not_mem (line : UInt32) {units : List LexicalUnit}
    (noBreak : '\n' ∉ units.flatMap LexicalUnit.text) :
    PlacedUnit.place line units = units.map fun u => ⟨u, line⟩ := by
  induction units with
  | nil => rfl
  | cons u rest ih =>
    rw [List.flatMap_cons, List.mem_append, not_or] at noBreak
    rw [PlacedUnit.place, lineAfter_of_not_mem line noBreak.1, ih noBreak.2, List.map_cons]

/-- In a source of one line everything is reported for this line. -/
theorem calls_of_not_mem {source : String} (noBreak : '\n' ∉ source.toList) :
    Scan.calls source
      = ((LexicalUnit.ofSource source.toList).filterMap complaint?).map
          fun message => (1, message) := by
  have whole := text_ofSource source.toList
  rw [← whole] at noBreak
  rw [Scan.calls_eq_complaints, Scan.unitsOf, place_of_not_mem 1 noBreak, List.filterMap_map,
    List.map_filterMap]
  refine List.filterMap_congr fun u member => ?_
  have here : (⟨u, 1⟩ : PlacedUnit).complaintLine = 1 := by
    have inside : '\n' ∉ u.text := fun c => noBreak (List.mem_flatMap.mpr ⟨u, member, c⟩)
    cases u with
    | unclosed content => exact lineAfter_of_not_mem 1 inside
    | _ => rfl
  simp only [Function.comp_apply, here]

namespace Program

/-! ## Trimmed lines -/

/-- A line is what is left of it when it is trimmed, and a line end. -/
theorem exists_lineEnds (line : List Char) :
    ∃ ends, line = (trimLineEnd (String.ofList line)).toList ++ ends ∧
      ∀ c ∈ ends, c = '\r' ∨ c = '\n' := by
  refine ⟨(line.reverse.takeWhile fun c => c == '\n' || c == '\r').reverse, ?_, ?_⟩
  · rw [trimLineEnd, String.toList_ofList, String.toList_ofList, ← List.reverse_append,
      List.takeWhile_append_dropWhile, List.reverse_reverse]
  · intro c member
    have isEnd := List.mem_takeWhile_imp (List.mem_reverse.mp member)
    rw [Bool.or_eq_true, beq_iff_eq, beq_iff_eq] at isEnd
    exact isEnd.symm

theorem trimLineEnd_append_newline (line : List Char) :
    trimLineEnd (String.ofList (line ++ ['\n'])) = trimLineEnd (String.ofList line) := by
  simp [trimLineEnd]

/-- The line feed that ends a line is trimmed off. -/
theorem newline_not_mem_trimLineEnd {text : List Char} {pieces : List (List Char)}
    (cut : CutIntoLines text pieces) :
    ∀ piece ∈ pieces, '\n' ∉ (trimLineEnd (String.ofList piece)).toList := by
  have stays : ∀ {line : List Char}, '\n' ∉ line →
      '\n' ∉ (trimLineEnd (String.ofList line)).toList := by
    intro line noBreak member
    obtain ⟨ends, parts, -⟩ := exists_lineEnds line
    rw [parts] at noBreak
    exact noBreak (List.mem_append_left ends member)
  induction cut with
  | nil => exact List.forall_mem_nil _
  | last noBreak _ => exact List.forall_mem_singleton.mpr (stays noBreak)
  | cons noBreak _ ih =>
    refine List.forall_mem_cons.mpr ⟨?_, ih⟩
    rw [trimLineEnd_append_newline]
    exact stays noBreak

theorem filterMap_trimLineEnd {γ : Type} {f : LexicalUnit → Option γ} (skips : SkipsGaps f)
    (same : SameAtOpen f) (line : List Char) :
    (LexicalUnit.ofSource (trimLineEnd (String.ofList line)).toList).filterMap f
      = (LexicalUnit.ofSource line).filterMap f := by
  obtain ⟨ends, parts, areEnds⟩ := exists_lineEnds line
  rw [← filterMap_lineEnds skips same areEnds, ← parts]

/-! ## Units of a text by lines -/

theorem closed_of_cutIntoLines {text : List Char} {pieces : List (List Char)}
    (cut : CutIntoLines text pieces) (closed : ∀ line ∈ text.splitOn '\n', Closed line) :
    Closed text := by
  induction cut with
  | nil => simp [Closed, LexicalUnit.ofSource]
  | last noBreak _ =>
    rw [List.splitOn_eq_singleton noBreak] at closed
    exact List.forall_mem_singleton.mp closed
  | cons noBreak _ ih =>
    rw [List.splitOn_append_cons_self_of_not_mem noBreak] at closed
    obtain ⟨here, later⟩ := List.forall_mem_cons.mp closed
    intro content member
    rw [ofSource_append_newline here, List.mem_append, List.mem_cons] at member
    rcases member with inside | same | behind
    · exact here content inside
    · cases same
    · exact ih later content behind

/-- The units of a text are those of its trimmed lines, and each unit is placed on its line. -/
theorem filterMap_place_of_cutIntoLines {γ : Type} {f : Nat → LexicalUnit → Option γ}
    (skips : ∀ n, SkipsGaps (f n)) (same : ∀ n, SameAtOpen (f n)) {text : List Char}
    {pieces : List (List Char)} (cut : CutIntoLines text pieces)
    (closed : ∀ line ∈ text.splitOn '\n', Closed line) (line : UInt32)
    (room : line.toNat + text.count '\n' < 2 ^ 32) :
    (PlacedUnit.place line (LexicalUnit.ofSource text)).filterMap (fun p => f p.line.toNat p.unit)
      = (pieces.zipIdx line.toNat).flatMap fun piece =>
          (LexicalUnit.ofSource (trimLineEnd (String.ofList piece.1)).toList).filterMap
            (f piece.2) := by
  have onOneLine : ∀ {front : List Char} (line : UInt32), '\n' ∉ front →
      (PlacedUnit.place line (LexicalUnit.ofSource front)).filterMap
          (fun p => f p.line.toNat p.unit)
        = (LexicalUnit.ofSource (trimLineEnd (String.ofList front)).toList).filterMap
            (f line.toNat) := by
    intro front line noBreak
    rw [← text_ofSource front] at noBreak
    rw [place_of_not_mem line noBreak, List.filterMap_map,
      filterMap_trimLineEnd (skips _) (same _)]
    rfl
  induction cut generalizing line with
  | nil => simp [LexicalUnit.ofSource, PlacedUnit.place]
  | last noBreak _ => simp [onOneLine line noBreak]
  | @cons front rest more noBreak _ ih =>
    rw [List.splitOn_append_cons_self_of_not_mem noBreak] at closed
    obtain ⟨here, later⟩ := List.forall_mem_cons.mp closed
    rw [List.count_append, List.count_cons_self] at room
    have next : (lineAfter line ['\n']).toNat = line.toNat + 1 :=
      toNat_lineAfter line (by rw [List.count_singleton_self]; omega)
    have behind := ih later (lineAfter line ['\n']) (by rw [next]; omega)
    rw [next] at behind
    rw [place_append_newline line here, lineAfter_append, lineAfter_of_not_mem line noBreak,
      List.filterMap_append, onOneLine line noBreak, List.filterMap_cons, (skips _).1,
      List.zipIdx_cons, List.flatMap_cons, trimLineEnd_append_newline]
    exact congrArg _ behind

/-! ## The scans of a prompt -/

/-- The scans of a prompt, with the diagnostics of each. There is one for each line, up to one
that is no text. -/
def promptScans (before : Diagnostics) : List (List UInt8) → List (List Token × Diagnostics)
  | [] => []
  | line :: rest =>
    match decode? line with
    | none => []
    | some text =>
      let scanned := before.scan (trimLineEnd text)
      scanned :: promptScans scanned.2.clear rest

/-- A prompt shows and logs its scans one by one. It ends well unless a line is no text. -/
theorem runPrompt_eq (quiet : Bool) (before : Diagnostics) (input : List (List UInt8)) :
    runPrompt quiet before input =
      let scans := promptScans before input
      let allTexts := input.all fun line => (decode? line).isSome
      ⟨String.join (scans.map fun s => promptMark ++ if quiet then "" else echo s.1)
          ++ promptMark ++ (if allTexts then "\n" else ""),
        scans.flatMap (fun s => scanRecords s.1 s.2)
          ++ (if allTexts then [] else [⟨.error, "Failed to read from stdin: " ++ invalidText⟩]),
        if allTexts then success else inputError⟩ := by
  induction input generalizing before with
  | nil => simp [runPrompt, promptScans]
  | cons line rest ih =>
    cases decoded : decode? line with
    | none => simp [runPrompt, runLine, decoded, promptScans, success, inputError]
    | some text =>
      have later := ih (before.scan (trimLineEnd text)).2.clear
      simp only [runPrompt, runLine, decoded, runSource, promptScans, if_true, later]
      simp [decoded, String.append_assoc]

/-- On lines of a text every scan of a prompt starts with an empty collector. -/
theorem promptScans_encode (pieces : List (List Char)) :
    promptScans .empty (pieces.map encode)
      = pieces.map fun piece => Diagnostics.empty.scan (trimLineEnd (String.ofList piece)) := by
  induction pieces with
  | nil => rfl
  | cons piece more ih =>
    rw [List.map_cons, promptScans, decode?_encode, List.map_cons, ← ih]
    rfl

theorem runPrompt_encode (quiet : Bool) (pieces : List (List Char)) :
    runPrompt quiet .empty (pieces.map encode) =
      let scans := promptScans .empty (pieces.map encode)
      ⟨String.join (scans.map fun s => promptMark ++ if quiet then "" else echo s.1)
          ++ promptMark ++ "\n",
        scans.flatMap fun s => scanRecords s.1 s.2, success⟩ := by
  have allTexts : ((pieces.map encode).all fun line => (decode? line).isSome) = true := by
    simp [decode?_encode]
  rw [runPrompt_eq]
  simp only [allTexts, if_true, List.append_nil]

/-- A script is scanned as a whole. -/
theorem runScript_eq {bytes : List UInt8} {text : String} (isText : decode? bytes = some text)
    (quiet : Bool) (path : String) :
    runScript quiet path (.content bytes) =
      let script := Diagnostics.empty.scan text
      ⟨if quiet then "" else echo script.1,
        ⟨.debug, "Scanning file: " ++ path⟩ :: scanRecords script.1 script.2,
        if script.2.hadError then dataError else success⟩ := by
  simp only [runScript, textOf, isText, runSource]
  rfl

/-! ## Scans into an empty collector -/

theorem readings_scan (source : String) :
    (Diagnostics.empty.scan source).1.dropLast.map Token.reading
      = (LexicalUnit.ofSource source.toList).filterMap reading? := by
  have readings := congrArg List.dropLast (Scan.readings_ofSource source)
  rw [List.dropLast_concat, ← List.map_dropLast] at readings
  exact readings

theorem map_entries_scan {γ : Type} (source : String) (f : UInt32 × String → γ) :
    (Diagnostics.empty.scan source).2.entries.map (fun d => f (d.line, d.message))
      = (Scan.calls source).map f := by
  rw [Diagnostics.entries_scan, Scan.calls_eq, List.map_append, List.map_map, List.map_map]
  rfl

theorem room_of_few {text : List Char} (few : text.count '\n' < 2 ^ 32 - 1) :
    (1 : UInt32).toNat + text.count '\n' < 2 ^ 32 := by
  rw [UInt32.toNat_one]
  omega

theorem readings_of_cutIntoLines {text : String} {pieces : List (List Char)}
    (cut : CutIntoLines text.toList pieces)
    (closed : ∀ line ∈ text.toList.splitOn '\n', Closed line)
    (few : text.toList.count '\n' < 2 ^ 32 - 1) :
    (LexicalUnit.ofSource text.toList).filterMap reading?
      = pieces.flatMap fun piece =>
          (LexicalUnit.ofSource (trimLineEnd (String.ofList piece)).toList).filterMap reading? := by
  have byLines := filterMap_place_of_cutIntoLines (f := fun _ => reading?)
    (fun _ => ⟨fun _ => rfl, fun _ => rfl⟩) (fun _ _ _ => rfl) cut closed 1 (room_of_few few)
  rw [← Scan.filterMap_unit_unitsOf, ← List.zipIdx_map_fst 1 pieces, List.flatMap_map]
  exact byLines

theorem line_of_mem_entries {source : String} (noBreak : '\n' ∉ source.toList) {d : Diagnostic}
    (reported : d ∈ (Diagnostics.empty.scan source).2.entries) : d.line = 1 := by
  have told := List.mem_map_of_mem (f := fun d => d.line) reported
  rw [map_entries_scan source Prod.fst, calls_of_not_mem noBreak, List.map_map] at told
  obtain ⟨message, -, first⟩ := List.mem_map.mp told
  exact first.symm

theorem calls_of_cutIntoLines {text : String} {pieces : List (List Char)}
    (cut : CutIntoLines text.toList pieces)
    (closed : ∀ line ∈ text.toList.splitOn '\n', Closed line)
    (few : text.toList.count '\n' < 2 ^ 32 - 1) :
    (Scan.calls text).map (fun call => (call.1.toNat, call.2))
      = (pieces.zipIdx 1).flatMap fun piece =>
          (Scan.calls (trimLineEnd (String.ofList piece.1))).map fun call => (piece.2, call.2) := by
  have byLines := filterMap_place_of_cutIntoLines
    (f := fun n u => u.complaint?.map fun message => (n, message))
    (fun _ => ⟨fun _ => rfl, fun _ => rfl⟩) (fun _ _ _ => rfl) cut closed 1
    (room_of_few few)
  have here : ∀ p ∈ Scan.unitsOf text,
      (p.unit.complaint?.map (p.complaintLine, ·)).map (fun call => (call.1.toNat, call.2))
        = p.unit.complaint?.map fun message => (p.line.toNat, message) := by
    intro p member
    have inside := Scan.unit_mem_unitsOf member
    obtain ⟨u, line⟩ := p
    cases u with
    | unclosed content => exact absurd inside (closed_of_cutIntoLines cut closed content)
    | _ => rfl
  rw [Scan.calls_eq_complaints, List.map_filterMap, List.filterMap_congr here]
  refine byLines.trans (List.flatMap_congr fun piece _ => ?_)
  have messages := Scan.complaints_calls (trimLineEnd (String.ofList piece.1))
  rw [← List.map_filterMap, ← messages, List.map_map]
  rfl

/-! ## Agreement -/

/-- A prompt that is given a text and a script of this text find the same tokens and the same
problems, as long as no line of the text leaves a string open: the tokens of the lines, each
without its end of the source, are those of the text, and what the prompt reports on a line,
always as line one, is reported for this line of the text. -/
theorem prompt_finds_what_script_finds {bytes : List UInt8} {text : String}
    (isText : decode? bytes = some text) (few : text.toList.count '\n' < 2 ^ 32 - 1)
    (closed : ∀ line ∈ text.toList.splitOn '\n',
      "Unterminated string." ∉ (Scan.calls (String.ofList line)).map Prod.snd) :
    let script := Diagnostics.empty.scan text
    let scans := promptScans .empty (lines bytes)
    (∀ quiet path, runScript quiet path (.content bytes)
      = ⟨if quiet then "" else echo script.1,
          ⟨.debug, "Scanning file: " ++ path⟩ :: scanRecords script.1 script.2,
          if script.2.hadError then dataError else success⟩) ∧
    (∀ quiet, runPrompt quiet .empty (lines bytes)
      = ⟨String.join (scans.map fun s => promptMark ++ if quiet then "" else echo s.1)
            ++ promptMark ++ "\n",
          scans.flatMap fun s => scanRecords s.1 s.2, success⟩) ∧
    scans.length = (lines bytes).length ∧
    (scans.flatMap fun s => s.1.dropLast.map Token.reading)
      = script.1.dropLast.map Token.reading ∧
    script.2.entries.map (fun d => (d.line.toNat, d.message))
      = (scans.zipIdx 1).flatMap (fun s => s.1.2.entries.map fun d => (s.2, d.message)) ∧
    ∀ s ∈ scans, ∀ d ∈ s.2.entries, d.line = 1 := by
  intro script scans
  obtain ⟨pieces, cut⟩ := exists_cutIntoLines text.toList
  have closed : ∀ line ∈ text.toList.splitOn '\n', Closed line := by
    intro line member
    have noOpen := closed_of_calls (closed line member)
    rwa [String.toList_ofList] at noOpen
  have pieces_lines : lines bytes = pieces.map encode := by
    rw [eq_encode_of_decode? isText, lines_of_cutIntoLines cut]
  have scans_eq : scans
      = pieces.map fun piece => Diagnostics.empty.scan (trimLineEnd (String.ofList piece)) := by
    rw [← promptScans_encode, ← pieces_lines]
  refine ⟨runScript_eq isText, fun quiet => ?_, ?_, ?_, ?_, ?_⟩
  · simp only [scans, pieces_lines]
    exact runPrompt_encode quiet pieces
  · rw [scans_eq, pieces_lines, List.length_map, List.length_map]
  · rw [scans_eq, List.flatMap_map, readings_scan, readings_of_cutIntoLines cut closed few]
    exact List.flatMap_congr fun piece _ => readings_scan _
  · rw [map_entries_scan text fun call => (call.1.toNat, call.2),
      calls_of_cutIntoLines cut closed few, scans_eq, List.zipIdx_map, List.flatMap_map]
    exact List.flatMap_congr fun piece _ => (map_entries_scan _ fun call => (piece.2, call.2)).symm
  · intro s member d reported
    rw [scans_eq] at member
    obtain ⟨piece, inside, rfl⟩ := List.mem_map.mp member
    exact line_of_mem_entries (newline_not_mem_trimLineEnd cut piece inside) reported

/-- A comment with a quote and two carriage returns, a stray character, an empty line and a line
without a line feed. -/
def fourLines : List Char := "1. // \"\r\r\n@\r\n\n\"s\"#".toList

/-- The carriage returns and the quote in the comment do no harm, and the reports keep their
lines. -/
theorem prompt_finds_what_script_finds_fourLines :
    (decode? (encode fourLines) = some (String.ofList fourLines) ∧
      fourLines.count '\n' < 2 ^ 32 - 1 ∧
      ∀ line ∈ fourLines.splitOn '\n',
        "Unterminated string." ∉ (Scan.calls (String.ofList line)).map Prod.snd) ∧
    (promptScans .empty (lines (encode fourLines))).flatMap
        (fun s => s.1.dropLast.map Token.reading)
      = [((.number, "1"), .number ⟨0x3ff0000000000000⟩), ((.operator .dot, "."), .absent),
          ((.string, "\"s\""), .string "s")] ∧
    (promptScans .empty (lines (encode fourLines))).map (fun s => s.2.entries)
      = [[], [⟨1, "Unexpected character '@'."⟩], [], [⟨1, "Unexpected character '#'."⟩]] ∧
    (Diagnostics.empty.scan (String.ofList fourLines)).2.entries
      = [⟨2, "Unexpected character '@'."⟩, ⟨4, "Unexpected character '#'."⟩] := by
  have isText := decode?_encode fourLines
  have few : (String.ofList fourLines).toList.count '\n' < 2 ^ 32 - 1 := by decide +kernel
  have closed : ∀ line ∈ (String.ofList fourLines).toList.splitOn '\n',
      "Unterminated string." ∉ (Scan.calls (String.ofList line)).map Prod.snd := by decide +kernel
  obtain ⟨-, -, -, tokens, -, -⟩ := prompt_finds_what_script_finds isText few closed
  rw [String.toList_ofList] at few closed
  refine ⟨⟨isText, few, closed⟩, ?_, ?_, ?_⟩
  · rw [tokens]
    decide +kernel
  · decide +kernel
  · decide +kernel

end Program
end ScriptScan
