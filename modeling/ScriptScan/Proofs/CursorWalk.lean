import ScriptScan.Proofs.CursorTurns

/-!
# The walk of a cursor

All that a scan by a cursor does is put together from its turns.

* `Head.sound`: at the head of every loop the two offsets are in order and on boundaries, and
  the line counts the line breaks in front.
* `Head.walks`: from every head the scan comes to the end of the source, moves forward on the
  way, and leaves what the units of the source give.
* `Cursor.Reached.head`: every head that a scan comes to is one of these.
* `scan_walks_on_boundaries` is the main result.
-/

namespace ScriptScan
namespace Cursor

open LexicalUnit

variable {source : String} {rest : List Char} {c d : Cursor}

/-! ## Heads are sound -/

/-- What holds at the head of every loop. -/
structure Sound (source : String) (c : Cursor) : Prop where
  start_le_current : c.start ≤ c.current
  current_le_size : c.current ≤ source.utf8ByteSize
  start_onBoundary : OnBoundary source c.start
  current_onBoundary : OnBoundary source c.current
  /-- The opening quote of a string is one byte. -/
  content : c.loop = .string → c.start + 1 ≤ c.current ∧ OnBoundary source (c.start + 1)
  line : ∃ before, slice source 0 c.current = .ok before ∧
    (source.toList.count '\n' < 2 ^ 32 - 1 → c.line.toNat = 1 + before.toList.count '\n')

theorem onBoundary_of_split {before : List Char} (split : source.toList = before ++ rest) :
    OnBoundary source (byteSize before) := by
  refine ⟨String.ofList before, String.ofList rest, ?_, rfl⟩
  rw [← String.ofList_append, ← split, String.ofList_toList]

/-- The text in front of the unit and the text that has been taken of it, as the cursor shows
them. -/
theorem Head.place {begun : Nat} (h : Head source c begun rest) :
    ∃ before taken, source.toList = before ++ taken ++ rest ∧ c.start = byteSize before ∧
      c.current = byteSize (before ++ taken) ∧ c.line = lineAfter 1 (before ++ taken) ∧
      (c.loop = .string → ∃ content, taken = '"' :: content) := by
  cases h with
  | @between units rest between =>
    obtain ⟨before, last, passed, start⟩ := between.start
    have whole := source_eq_of_units between.units_eq
    have current := between.current_eq
    have line := between.line_eq
    rw [passed] at whole current line
    refine ⟨before, last, whole, start, current, line, fun loop => ?_⟩
    rw [between.loop_eq] at loop
    cases loop
  | @within units taken rest within holds =>
    refine ⟨units.flatMap text, taken, within.source_eq, within.start_eq, within.current_eq,
      within.line_eq, fun loop => ?_⟩
    rw [loop] at holds
    obtain ⟨content, starts, -⟩ := holds
    exact ⟨content, starts⟩

theorem Head.sound {begun : Nat} (h : Head source c begun rest) : c.Sound source := by
  obtain ⟨before, taken, split, start, current, line, string⟩ := h.place
  have size := congrArg byteSize split
  rw [byteSize_toList, byteSize_append _ rest, ← current] at size
  have ordered : c.current = c.start + byteSize taken := by rw [current, byteSize_append, start]
  exact {
    start_le_current := by omega
    current_le_size := by omega
    start_onBoundary := by
      rw [start]
      exact onBoundary_of_split (split.trans (List.append_assoc _ _ _))
    current_onBoundary := by rw [current]; exact onBoundary_of_split split
    content := fun loop => by
      obtain ⟨content, rfl⟩ := string loop
      have behind : c.start + 1 = byteSize (before ++ ['"']) := by
        rw [byteSize_append, byteSize_singleton, start]
        rfl
      refine ⟨?_, ?_⟩
      · rw [ordered, ← List.singleton_append, byteSize_append, byteSize_singleton]
        exact Nat.add_le_add_left (Nat.le_add_right 1 _) _
      · rw [behind]
        have quote : source.toList = (before ++ ['"']) ++ (content ++ rest) := by
          rw [split, List.append_assoc, List.append_assoc]
          rfl
        exact onBoundary_of_split quote
    line := by
      refine ⟨String.ofList (before ++ taken), ?_, fun few => ?_⟩
      · rw [current]
        exact slice_toList (show source.toList = [] ++ (before ++ taken) ++ rest from split)
      · rw [line, String.toList_ofList]
        exact Scan.toNat_lineAfter_prefix few ⟨rest, split.symm⟩ }

/-! ## Turns move forward -/

/-- The second cursor is not behind the first one, and at least a character ahead if a unit
has been begun in between. -/
def Ahead (source : String) (c d : Cursor) : Prop :=
  ∃ text, slice source c.current d.current = .ok text ∧ (c.loop = .units → text ≠ "")

theorem Ahead.trans {e : Cursor} (first : Ahead source c d) (second : Ahead source d e) :
    Ahead source c e := by
  obtain ⟨text, slice_text, moved⟩ := first
  obtain ⟨more, slice_more, -⟩ := second
  refine ⟨text ++ more, slice_append slice_text slice_more, fun loop nothing => moved loop ?_⟩
  exact (String.append_eq_empty_iff.mp nothing).1

theorem Head.ahead {begun begun' : Nat} {passed left : List Char}
    (h : Head source c begun (passed ++ left)) (next : Head source d begun' left)
    (moved : c.loop = .units → passed ≠ []) : Ahead source c d := by
  obtain ⟨before, taken, split, -, current, -⟩ := h.place
  obtain ⟨before', taken', split', -, current', -⟩ := next.place
  have passed_eq : before' ++ taken' = before ++ taken ++ passed := by
    rw [split, ← List.append_assoc] at split'
    exact (List.append_cancel_right split').symm
  refine ⟨String.ofList passed, ?_, fun loop nothing => moved loop ?_⟩
  · rw [current, current', passed_eq]
    exact slice_toList (split.trans (List.append_assoc _ _ _).symm)
  · rw [← String.toList_ofList (l := passed), nothing]
    rfl

/-- A turn of the loop over the units begins here. -/
def begins (source : String) (c : Cursor) : Bool :=
  c.loop = .units ∧ c.current < source.utf8ByteSize

/-- There is a turn to begin when text is left. -/
theorem Head.begins_iff {begun : Nat} (h : Head source c begun rest) :
    c.begins source = true ↔ c.loop = .units ∧ rest ≠ [] := by
  obtain ⟨before, taken, split, -, current, -⟩ := h.place
  rw [begins, decide_eq_true_eq, current, ← Nat.not_le, utf8ByteSize_le_iff split]

/-! ## Walks -/

/-- From the head of a loop a scan comes to the end of the source. It leaves what the units
give, later heads are ahead of earlier ones, and each turn of the loop over the units begins
one unit. -/
theorem Head.walks {begun : Nat} (h : Head source c begun rest) :
    ∃ heads, Walks source c heads (Scan.ofSource source) ∧ heads.Pairwise (Ahead source) ∧
      (∀ d ∈ heads, d = c ∨ Ahead source c d) ∧
      begun + heads.countP (begins source) = (ofSource source.toList).length := by
  -- A turn takes a character, or it comes back to the loop over the units.
  generalize size : 2 * rest.length + (if c.loop = .units then 0 else 1) = n
  induction n using Nat.strongRecOn generalizing c begun rest with
  | _ n ih =>
    rcases h.step with ⟨loop, rfl, all, ends⟩ | ⟨d, begun', passed, left, turn, next, rfl, moves⟩
    · refine ⟨[c], .ends ends, List.pairwise_singleton _ _, ?_, ?_⟩
      · intro d member
        exact .inl (List.mem_singleton.mp member)
      · have none : ¬ c.begins source = true := by simp [h.begins_iff]
        rw [List.countP_cons_of_neg none, List.countP_nil, all]
        rfl
    · have ahead : Ahead source c d := h.ahead next fun loop => by
        rcases moves with ⟨-, -, moved⟩ | ⟨inner, -⟩
        · exact moved
        · exact absurd loop inner
      have smaller : 2 * left.length + (if d.loop = .units then 0 else 1) < n := by
        rw [List.length_append] at size
        rcases moves with ⟨loop, -, moved⟩ | ⟨inner, -, moved | home⟩
        · have some_char := List.length_pos_iff.mpr moved
          split <;> omega
        · have some_char := List.length_pos_iff.mpr moved
          rw [if_neg inner] at size
          split <;> omega
        · rw [if_neg inner] at size
          rw [if_pos home]
          omega
      obtain ⟨heads, walks, pairwise, behind, count⟩ := ih _ smaller next rfl
      have later : ∀ e ∈ heads, Ahead source c e := by
        intro e member
        rcases behind e member with rfl | further
        · exact ahead
        · exact ahead.trans further
      refine ⟨c :: heads, .goesTo turn walks, List.pairwise_cons.mpr ⟨later, pairwise⟩, ?_, ?_⟩
      · intro e member
        rcases List.mem_cons.mp member with rfl | member
        · exact .inl rfl
        · exact .inr (later e member)
      · rw [List.countP_cons]
        rcases moves with ⟨loop, rfl, moved⟩ | ⟨inner, rfl, -⟩
        · have starts : c.begins source = true :=
            h.begins_iff.mpr ⟨loop, fun nothing => moved (List.append_eq_nil_iff.mp nothing).1⟩
          rw [if_pos starts]
          omega
        · have goesOn : ¬ c.begins source = true := fun starts => inner (h.begins_iff.mp starts).1
          rw [if_neg goesOn]
          omega

theorem Walks.head_mem {heads : List Cursor} {scan : Scan} (walks : Walks source c heads scan) :
    c ∈ heads := by
  cases walks with
  | ends => exact List.mem_cons_self
  | goesTo => exact List.mem_cons_self

/-- A turn from a head of a walk leads to the next head of the walk. -/
theorem Walks.step_mem {heads : List Cursor} {scan : Scan} (walks : Walks source c heads scan)
    {d e : Cursor} (member : d ∈ heads) (turn : d.step source = .ok (.goesTo e)) : e ∈ heads := by
  induction walks with
  | ends last =>
    rw [List.mem_singleton.mp member, last] at turn
    cases turn
  | goesTo next walks ih =>
    refine List.mem_cons_of_mem _ ?_
    rcases List.mem_cons.mp member with rfl | later
    · rw [next] at turn
      cases turn
      exact walks.head_mem
    · exact ih later

theorem Walks.reached {heads : List Cursor} {scan : Scan} (walks : Walks source c heads scan)
    (start : Reached source c) : ∀ d ∈ heads, Reached source d := by
  induction walks with
  | ends =>
    intro d member
    rw [List.mem_singleton.mp member]
    exact start
  | goesTo next _ ih =>
    intro d member
    rcases List.mem_cons.mp member with rfl | later
    · exact start
    · exact ih (start.step next) d later

/-- A walk from the beginning comes to all heads that can be reached. -/
theorem Walks.mem_iff_reached {heads : List Cursor} {scan : Scan}
    (walks : Walks source initial heads scan) (d : Cursor) : d ∈ heads ↔ Reached source d := by
  refine ⟨walks.reached .initial d, fun reached => ?_⟩
  induction reached with
  | initial => exact walks.head_mem
  | step _ turn ih => exact walks.step_mem ih turn

/-! ## From the beginning -/

theorem head_initial (source : String) : Head source initial 0 source.toList :=
  .between (show Between source [] source.toList initial from {
    units_eq := rfl
    loop_eq := rfl
    start := ⟨[], [], rfl, rfl⟩
    current_eq := rfl
    line_eq := rfl
    tokens_eq := rfl
    errors_eq := rfl })

theorem Reached.head (reached : Reached source c) :
    ∃ begun rest, Head source c begun rest := by
  induction reached with
  | initial => exact ⟨0, source.toList, head_initial source⟩
  | step _ turn ih =>
    obtain ⟨begun, rest, head⟩ := ih
    rcases head.step with ⟨-, -, -, ends⟩ | ⟨d, begun', passed, left, next, later, -⟩
    · rw [ends] at turn
      cases turn
    · rw [next] at turn
      cases turn
      exact ⟨begun', left, later⟩

/-- No turn of a scan takes a bad slice. -/
theorem Reached.exists_step (reached : Reached source c) :
    ∃ motion, c.step source = .ok motion := by
  obtain ⟨begun, rest, head⟩ := reached.head
  rcases head.step with ⟨-, -, -, ends⟩ | ⟨d, -, -, -, next, -⟩
  · exact ⟨_, ends⟩
  · exact ⟨_, next⟩

end Cursor

/-! ## Units and what they leave -/

theorem PlacedUnit.token?_eq_none_or_error?_eq_none (u : PlacedUnit) :
    u.token? = none ∨ u.error? = none := by
  obtain ⟨unit, line⟩ := u
  cases unit with
  | number whole fraction =>
    cases read : Binary64.ofText? (LexicalUnit.number whole fraction).text with
    | some value => exact .inr (by simp [error?, read])
    | none => exact .inl (by simp [token?, read])
  | operator op => exact .inr rfl
  | string content => exact .inr rfl
  | word letters => exact .inr rfl
  | _ => exact .inl rfl

theorem PlacedUnit.length_tokens_add_errors_le (units : List PlacedUnit) :
    (units.filterMap token?).length + (units.filterMap error?).length ≤ units.length := by
  induction units with
  | nil => exact Nat.le_refl 0
  | cons u units ih =>
    rw [List.filterMap_cons, List.filterMap_cons, List.length_cons]
    rcases u.token?_eq_none_or_error?_eq_none with none | none
    · rw [none]
      cases u.error? <;> simp only [List.length_cons] <;> omega
    · rw [none]
      cases u.token? <;> simp only [List.length_cons] <;> omega

/-- Every unit has a character. -/
theorem LexicalUnit.length_ofSource_le (source : List Char) :
    (ofSource source).length ≤ source.length := by
  fun_induction ofSource source with
  | case1 => exact Nat.le_refl 0
  | case2 c source first ih =>
    have shorter : first.2.length < (c :: source).length := length_cut_lt c source
    rw [List.length_cons]
    omega

/-- A unit leaves a token or a report, or nothing. -/
theorem Scan.length_body_add_calls_le (source : String) :
    (body source).length + (calls source).length
      ≤ (LexicalUnit.ofSource source.toList).length := by
  rw [body_eq, calls_eq, List.length_map, ofSource,
    ← PlacedUnit.unit_place 1 (LexicalUnit.ofSource source.toList), List.length_map]
  exact PlacedUnit.length_tokens_add_errors_le (unitsOf source)

open Cursor in
/-- A scan by a cursor is safe for every source. At the head of every loop that it comes to,
the offsets of the unit and of the cursor are in order, inside of the source and on
boundaries, and the line counts the line breaks in front of the cursor, if there are fewer
than 2 ^ 32 - 1 of them. From there a turn never takes a bad slice, and a slice is bad only
when its bounds are out of order or not both on a boundary. The scan comes to its end and
leaves the tokens and the errors of the units. On the way it moves forward by at least a
character with each turn of the loop over the units, so there are at most as many turns as the
source has characters, and at most as many tokens and reports as turns. -/
theorem scan_walks_on_boundaries (source : String) :
    (∀ c, Reached source c → c.Sound source ∧ ∃ motion, c.step source = .ok motion) ∧
    (∀ first last, (∃ text, slice source first last = .ok text) ↔
      first ≤ last ∧ OnBoundary source first ∧ OnBoundary source last) ∧
    ∃ heads, Walks source initial heads (Scan.ofSource source) ∧
      (∀ c, c ∈ heads ↔ Reached source c) ∧
      heads.Pairwise (Ahead source) ∧
      heads.countP (begins source) ≤ source.length ∧
      (Scan.body source).length + (Scan.calls source).length ≤ heads.countP (begins source) := by
  obtain ⟨heads, walks, pairwise, -, count⟩ := (head_initial source).walks
  rw [Nat.zero_add] at count
  refine ⟨fun c reached => ?_, fun first last => exists_slice_iff, heads, walks,
    walks.mem_iff_reached, pairwise, ?_, ?_⟩
  · obtain ⟨begun, rest, head⟩ := reached.head
    exact ⟨head.sound, reached.exists_step⟩
  · rw [count, ← String.length_toList]
    exact LexicalUnit.length_ofSource_le source.toList
  · rw [count]
    exact Scan.length_body_add_calls_le source

/-- The head at the closing quote of a string of two lines, behind a character of two bytes
that is an error. -/
def Cursor.atClosingQuote : Cursor :=
  ⟨.string, 2, 6, 2, 1, [], [⟨1, .unexpectedCharacter 'é'⟩]⟩

open Cursor in
/-- A scan of two characters of two bytes each, one of them in a string of two lines. -/
theorem scan_walks_on_boundaries_atClosingQuote :
    "é\"ü\n\"7".toList.count '\n' < 2 ^ 32 - 1 ∧
    Reached "é\"ü\n\"7" atClosingQuote ∧
    (∃ motion, atClosingQuote.step "é\"ü\n\"7" = .ok motion) ∧
    (OnBoundary "é\"ü\n\"7" 2 ∧ OnBoundary "é\"ü\n\"7" 3 ∧ OnBoundary "é\"ü\n\"7" 6) ∧
    (∃ before, slice "é\"ü\n\"7" 0 6 = .ok before ∧ 2 = 1 + before.toList.count '\n') ∧
    ∃ content, slice "é\"ü\n\"7" 3 6 = .ok content := by
  have few : "é\"ü\n\"7".toList.count '\n' < 2 ^ 32 - 1 := by decide
  have atQuote : Reached "é\"ü\n\"7"
      ⟨.units, 0, 2, 1, 1, [], [⟨1, .unexpectedCharacter 'é'⟩]⟩ := .step .initial rfl
  have behindQuote : Reached "é\"ü\n\"7"
      ⟨.string, 2, 3, 1, 1, [], [⟨1, .unexpectedCharacter 'é'⟩]⟩ := .step atQuote rfl
  have atBreak : Reached "é\"ü\n\"7"
      ⟨.string, 2, 5, 1, 1, [], [⟨1, .unexpectedCharacter 'é'⟩]⟩ := .step behindQuote rfl
  have reached : Reached "é\"ü\n\"7" atClosingQuote := .step atBreak rfl
  obtain ⟨safe, slices, -⟩ := scan_walks_on_boundaries "é\"ü\n\"7"
  obtain ⟨sound, turn⟩ := safe atClosingQuote reached
  obtain ⟨before, passed, line⟩ := sound.line
  obtain ⟨inOrder, content⟩ := sound.content rfl
  exact ⟨few, reached, turn, ⟨sound.start_onBoundary, content, sound.current_onBoundary⟩,
    ⟨before, passed, line few⟩, (slices 3 6).mpr ⟨inOrder, content, sound.current_onBoundary⟩⟩

end ScriptScan
