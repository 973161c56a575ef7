import ScriptScan.Proofs.Continuation
import ScriptScan.Proofs.Cursor

/-!
# The turns of a cursor

What one turn of a loop does, in the characters of the source instead of its bytes. A cursor
stands behind complete units (`Cursor.Between`), or within a unit of which some text has been
taken (`Cursor.Within`); then `Cursor.Taken` says what the loop knows of that text. Both fix
the offsets and the lines of the cursor, and what has been collected.

* `Within.ahead`, `Within.lexeme` and `Within.endString_closed`: so the slices are there, and
  they are the text that is left, the text that has been taken and the content of a string.
* `Within.finish`: when a unit is complete, it is the next one of the source, and its token or
  its error has been added.
* `Within.goOn` is a turn of the loop of a unit, `Between.nextUnit` one of the loop over the
  units, `Between.step_end` the end of the scan.
* `Head.step` puts them together: from the head of a loop a turn leads to the head of a loop.
-/

namespace ScriptScan

/-- A line break is the only character that counts. -/
theorem lineAfter_singleton (line : UInt32) (c : Char) :
    lineAfter line [c] = if c = '\n' then line + 1 else line := by
  split
  · next newline => rw [newline]; rfl
  · next other => exact lineAfter_of_not_mem line (by simpa using Ne.symm other)

namespace Cursor

open LexicalUnit

variable {source : String} {units : List LexicalUnit} {taken rest : List Char} {c : Cursor}

/-! ## Where a cursor is -/

/-- The cursor is behind these units and the text that has been taken of the next one. -/
structure Within (source : String) (units : List LexicalUnit) (taken rest : List Char)
    (c : Cursor) : Prop where
  units_eq : ofSource source.toList = units ++ ofSource (taken ++ rest)
  start_eq : c.start = byteSize (units.flatMap text)
  current_eq : c.current = byteSize (units.flatMap text ++ taken)
  startLine_eq : c.startLine = lineAfter 1 (units.flatMap text)
  line_eq : c.line = lineAfter 1 (units.flatMap text ++ taken)
  tokens_eq : c.tokens = (PlacedUnit.place 1 units).filterMap PlacedUnit.token?
  errors_eq : c.errors = (PlacedUnit.place 1 units).filterMap PlacedUnit.error?

/-- The cursor is behind these units, and the start of the last one is still marked. -/
structure Between (source : String) (units : List LexicalUnit) (rest : List Char)
    (c : Cursor) : Prop where
  units_eq : ofSource source.toList = units ++ ofSource rest
  loop_eq : c.loop = .units
  start : ∃ before last, units.flatMap text = before ++ last ∧ c.start = byteSize before
  current_eq : c.current = byteSize (units.flatMap text)
  line_eq : c.line = lineAfter 1 (units.flatMap text)
  tokens_eq : c.tokens = (PlacedUnit.place 1 units).filterMap PlacedUnit.token?
  errors_eq : c.errors = (PlacedUnit.place 1 units).filterMap PlacedUnit.error?

theorem source_eq_of_units (found : ofSource source.toList = units ++ ofSource rest) :
    source.toList = units.flatMap text ++ rest := by
  have whole := congrArg (List.flatMap text) found
  rwa [text_ofSource, List.flatMap_append, text_ofSource] at whole

theorem Within.source_eq (h : Within source units taken rest c) :
    source.toList = units.flatMap text ++ taken ++ rest := by
  rw [source_eq_of_units h.units_eq, List.append_assoc]

/-- The end of the source has been reached when no text is left. -/
theorem utf8ByteSize_le_iff {before : List Char} (split : source.toList = before ++ rest) :
    source.utf8ByteSize ≤ byteSize before ↔ rest = [] := by
  rw [← byteSize_toList, split, byteSize_append, ← byteSize_eq_zero_iff]
  omega

/-! ## What it reads -/

theorem Within.ahead (h : Within source units taken rest c) :
    c.ahead source = .ok (String.ofList rest) := by
  have split : source.toList = (units.flatMap text ++ taken) ++ rest ++ [] := by
    rw [List.append_nil, h.source_eq]
  have sliced := slice_toList split
  rwa [← h.source_eq, byteSize_toList, ← h.current_eq] at sliced

theorem Within.peek (h : Within source units taken rest c) :
    c.peek source = .ok rest.head? := by
  rw [Cursor.peek, h.ahead, ok_bind, String.toList_ofList]
  rfl

theorem Within.peekSecond (h : Within source units taken rest c) :
    c.peekSecond source = .ok rest[1]? := by
  rw [Cursor.peekSecond, h.ahead, ok_bind, String.toList_ofList]
  rfl

/-- The slice of a token's text. -/
theorem Within.lexeme (h : Within source units taken rest c) :
    slice source c.start c.current = .ok (String.ofList taken) := by
  rw [h.start_eq, h.current_eq]
  exact slice_toList h.source_eq

/-- The cursor behind one more character, with the lines counted. -/
def take (c : Cursor) (char : Char) : Cursor :=
  { c with current := c.current + char.utf8Size, line := lineAfter c.line [char] }

theorem behind_eq_take {char : Char} (noBreak : char ≠ '\n') (c : Cursor) :
    c.behind char = c.take char := by
  rw [behind, take, lineAfter_singleton, if_neg noBreak]

theorem Within.take {char : Char} (h : Within source units taken (char :: rest) c) :
    Within source units (taken ++ [char]) rest (c.take char) where
  units_eq := by rw [h.units_eq, List.append_assoc]; rfl
  start_eq := h.start_eq
  current_eq := by
    show c.current + char.utf8Size = _
    rw [h.current_eq, ← List.append_assoc, byteSize_append _ [char], byteSize_singleton]
  startLine_eq := h.startLine_eq
  line_eq := by
    show lineAfter c.line [char] = _
    rw [h.line_eq, ← lineAfter_append, List.append_assoc]
  tokens_eq := h.tokens_eq
  errors_eq := h.errors_eq

theorem Within.advance {char : Char} (h : Within source units taken (char :: rest) c) :
    c.advance source = .ok (some char, c.behind char) := by
  rw [Cursor.advance, h.peek]
  rfl

theorem Within.expect?_next {char : Char} (h : Within source units taken (char :: rest) c) :
    c.expect? source char = .ok (some (c.behind char)) := by
  rw [Cursor.expect?, h.peek, ok_bind, List.head?_cons, if_pos rfl]
  rfl

theorem Within.expect?_other {expected : Char} (h : Within source units taken rest c)
    (other : rest.head? ≠ some expected) : c.expect? source expected = .ok none := by
  rw [Cursor.expect?, h.peek, ok_bind, if_neg other]
  rfl

/-! ## The end of a unit -/

/-- The cursor behind a unit that is complete: its token or its error has been added. -/
def finish (c : Cursor) (u : LexicalUnit) : Cursor :=
  { c with
    loop := .units
    tokens := c.tokens ++ (PlacedUnit.token? ⟨u, c.startLine⟩).toList
    errors := c.errors ++ (PlacedUnit.error? ⟨u, c.startLine⟩).toList }

theorem filterMap_place_append {α : Type} (f : PlacedUnit → Option α) (units : List LexicalUnit)
    (u : LexicalUnit) :
    (PlacedUnit.place 1 (units ++ [u])).filterMap f
      = (PlacedUnit.place 1 units).filterMap f
        ++ (f ⟨u, lineAfter 1 (units.flatMap text)⟩).toList := by
  rw [place_append, List.filterMap_append, PlacedUnit.place, PlacedUnit.place,
    List.filterMap_cons]
  cases f ⟨u, lineAfter 1 (units.flatMap text)⟩ <;> rfl

/-- A unit that has been taken is one of the units of the source. -/
theorem Within.finish {u : LexicalUnit} (h : Within source units taken rest c)
    (text_eq : u.text = taken) (first : ofSource (taken ++ rest) = u :: ofSource rest) :
    Between source (units ++ [u]) rest (c.finish u) := by
  have passed : (units ++ [u]).flatMap text = units.flatMap text ++ taken := by
    rw [List.flatMap_append, List.flatMap_singleton, text_eq]
  exact {
    units_eq := by rw [h.units_eq, first, List.append_assoc]; rfl
    loop_eq := rfl
    start := ⟨units.flatMap text, taken, passed, h.start_eq⟩
    current_eq := by rw [passed]; exact h.current_eq
    line_eq := by rw [passed]; exact h.line_eq
    tokens_eq := by
      rw [filterMap_place_append, ← h.tokens_eq, ← h.startLine_eq]
      rfl
    errors_eq := by
      rw [filterMap_place_append, ← h.errors_eq, ← h.startLine_eq]
      rfl }

/-- A unit of the grammar is complete when it ends where the rest begins. -/
theorem Within.finish_of_endsBefore {u : LexicalUnit} (h : Within source units u.text rest c)
    (allowed : u.InGrammar) (ends : u.EndsBefore rest) :
    Between source (units ++ [u]) rest (c.finish u) :=
  h.finish rfl (ofSource_text_append allowed ends)

theorem Within.addToken {u : LexicalUnit} {category : Category} {literal : Literal}
    (h : Within source units taken rest c)
    (token : PlacedUnit.token? ⟨u, c.startLine⟩
      = some ⟨category, String.ofList taken, literal, c.startLine⟩)
    (noError : PlacedUnit.error? ⟨u, c.startLine⟩ = none) :
    c.addToken source category literal = .ok (c.finish u) := by
  rw [Cursor.addToken, h.lexeme, ok_bind, Cursor.finish, token, noError, Option.toList_none,
    List.append_nil]
  rfl

theorem Within.addToken_operator {op : Operator}
    (h : Within source units (operator op).text rest c) :
    c.addToken source (.operator op) .absent = .ok (c.finish (operator op)) :=
  h.addToken rfl rfl

theorem Within.endNumber {whole fraction : List Char}
    (h : Within source units (number whole fraction).text rest c) :
    c.endNumber source = .ok (c.finish (number whole fraction)) := by
  rw [Cursor.endNumber, h.lexeme, ok_bind, String.toList_ofList]
  cases read : Binary64.ofText? (number whole fraction).text with
  | some value =>
    refine h.addToken ?_ ?_
    · simp [PlacedUnit.token?, PlacedUnit.tokenOf, read]
    · simp [PlacedUnit.error?, read]
  | none =>
    simp [addError, Cursor.finish, PlacedUnit.token?, PlacedUnit.error?, read, pure, Except.pure]

theorem Within.endWord {letters : List Char} (h : Within source units (word letters).text rest c) :
    c.endWord source = .ok (c.finish (word letters)) := by
  rw [Cursor.endWord, h.lexeme]
  exact h.addToken rfl rfl

/-- A closing quote stands behind the content of a string. Both quotes have one byte, so the
content is a slice of its own. -/
theorem Within.endString_closed {content : List Char}
    (h : Within source units ('"' :: content) ('"' :: rest) c) :
    c.endString source = .ok ((c.take '"').finish (string content)) := by
  have closed : Within source units (string content).text rest (c.take '"') := h.take
  have notEnd : ¬ source.utf8ByteSize ≤ c.current := by
    rw [h.current_eq, utf8ByteSize_le_iff h.source_eq]
    exact List.cons_ne_nil _ _
  have inner : slice source (c.start + 1) c.current = .ok (String.ofList content) := by
    have split : source.toList = (units.flatMap text ++ ['"']) ++ content ++ '"' :: rest := by
      rw [h.source_eq, List.append_assoc _ ['"']]
      rfl
    have sliced := slice_toList split
    rwa [byteSize_append _ ['"'], byteSize_singleton, ← h.start_eq, List.append_assoc,
      List.singleton_append, ← h.current_eq] at sliced
  rw [Cursor.endString, if_neg notEnd, h.advance, behind_eq_take (by decide), ok_bind]
  show (do let content ← slice source (c.start + 1) c.current; _) = _
  rw [inner, ok_bind]
  exact closed.addToken rfl rfl

theorem Within.endString_open {content : List Char}
    (h : Within source units ('"' :: content) [] c) :
    c.endString source = .ok (c.finish (unclosed content)) := by
  have atEnd : source.utf8ByteSize ≤ c.current := by
    rw [h.current_eq, utf8ByteSize_le_iff h.source_eq]
  have last : c.line = PlacedUnit.nextLine ⟨unclosed content, c.startLine⟩ := by
    rw [h.line_eq, lineAfter_append, ← h.startLine_eq]
    rfl
  rw [Cursor.endString, if_pos atEnd, addError, Cursor.finish]
  simp only [PlacedUnit.token?, PlacedUnit.error?, ← last, Option.toList_none, Option.toList_some,
    List.append_nil]
  rfl

/-! ## The loop of a unit -/

/-- What the loop has taken of its unit. A point is taken when a digit follows, so the loop
behind it is never left without one. -/
def Taken : Loop → List Char → List Char → Prop
  | .units, _, _ => False
  | .comment, taken, _ => ∃ line, taken = (comment line).text ∧ (comment line).InGrammar
  | .string, taken, _ => ∃ content, taken = '"' :: content ∧ '"' ∉ content
  | .whole, taken, _ => (number taken []).InGrammar
  | .fraction, taken, rest => ∃ whole fraction, taken = whole ++ '.' :: fraction ∧
      (number whole fraction).InGrammar ∧ (fraction = [] → ∃ d ∈ rest.head?, d.isDigit = true)
  | .word, taken, _ => (word taken).InGrammar

/-- The head of a loop: the number of units that were begun, and the text that is left. -/
inductive Head (source : String) (c : Cursor) : Nat → List Char → Prop
  | between {units : List LexicalUnit} {rest : List Char} :
      Between source units rest c → Head source c units.length rest
  | within {units : List LexicalUnit} {taken rest : List Char} :
      Within source units taken rest c → Taken c.loop taken rest →
      Head source c (units.length + 1) rest

theorem head_finish {d : Cursor} {u : LexicalUnit} (h : Between source (units ++ [u]) rest d) :
    Head source d (units.length + 1) rest := by
  rw [← List.length_singleton (a := u), ← List.length_append]
  exact .between h

/-- A character that keeps the scan in the loop belongs to its unit. -/
theorem Taken.snoc {loop : Loop} {char : Char} (h : Taken loop taken (char :: rest))
    (goesOn : loop.goesOn char = true) : Taken loop (taken ++ [char]) rest := by
  have snoc (p : Char → Bool) {text : List Char} (inside : ∀ d ∈ text, p d = true)
      (here : p char = true) : ∀ d ∈ text ++ [char], p d = true :=
    List.forall_mem_append.mpr ⟨inside, List.forall_mem_singleton.mpr here⟩
  have notMem {closing : Char} {text : List Char} (absent : closing ∉ text)
      (here : (char != closing) = true) : closing ∉ text ++ [char] :=
    List.not_mem_append absent (mt List.mem_singleton.mp (bne_iff_ne.mp here).symm)
  cases loop with
  | units => exact h
  | comment =>
    obtain ⟨line, rfl, allowed⟩ := h
    exact ⟨line ++ [char], rfl, notMem allowed goesOn⟩
  | string =>
    obtain ⟨content, rfl, noQuote⟩ := h
    exact ⟨content ++ [char], rfl, notMem noQuote goesOn⟩
  | whole =>
    obtain ⟨nonempty, digits, -⟩ := h
    exact ⟨by simp, snoc Char.isDigit digits goesOn, List.forall_mem_nil _⟩
  | fraction =>
    obtain ⟨whole, fraction, rfl, ⟨nonempty, digits, places⟩, -⟩ := h
    exact ⟨whole, fraction ++ [char], by simp,
      ⟨nonempty, digits, snoc Char.isDigit places goesOn⟩, by simp⟩
  | word =>
    obtain ⟨first, more, rfl, start, parts⟩ := h
    exact ⟨first, more ++ [char], rfl, start, snoc isWordPart parts goesOn⟩

theorem Within.startsFraction (h : Within source units taken rest c) :
    ∃ found, c.startsFraction source = .ok found ∧ (found = true ↔ StartsFraction rest) := by
  rw [Cursor.startsFraction, h.peek, ok_bind]
  by_cases point : rest.head? = some '.'
  · rw [if_pos point, h.peekSecond, ok_bind]
    obtain ⟨more, rfl⟩ := List.head?_eq_some_iff.mp point
    refine ⟨_, rfl, ?_⟩
    cases more with
    | nil => simp [StartsFraction]
    | cons d places => simp [StartsFraction]
  · rw [if_neg point]
    refine ⟨false, rfl, ?_⟩
    simp only [Bool.false_eq_true, false_iff]
    rintro ⟨d, more, rfl, -⟩
    exact point rfl

theorem Within.endWhole (h : Within source units taken rest c)
    (digits : (number taken []).InGrammar) (stops : StopsAt Char.isDigit rest) :
    ∃ d passed left, c.endWhole source = .ok d ∧ Head source d (units.length + 1) left ∧
      rest = passed ++ left ∧ (passed ≠ [] ∨ d.loop = .units) := by
  obtain ⟨found, tested, found_iff⟩ := h.startsFraction
  rw [Cursor.endWhole, tested, ok_bind]
  by_cases fraction : StartsFraction rest
  · rw [if_pos (found_iff.mpr fraction)]
    obtain ⟨digit, places, rfl, isDigit⟩ := fraction
    refine ⟨{ c.take '.' with loop := .fraction }, ['.'], digit :: places, ?_, ?_, rfl,
      .inl (List.cons_ne_nil _ _)⟩
    · rw [h.advance, behind_eq_take (by decide)]
      rfl
    · have point := h.take
      exact .within { point with } ⟨taken, [], rfl, digits, fun _ => ⟨digit, rfl, isDigit⟩⟩
  · rw [if_neg (mt found_iff.mp fraction)]
    have alone : Within source units (number taken []).text rest c := by rwa [text_number_nil]
    exact ⟨_, [], rest, alone.endNumber,
      head_finish (alone.finish_of_endsBefore digits ⟨stops, fraction⟩), rfl, .inr rfl⟩

/-- Where the loop of a unit does not go on, the unit is complete, or its digits go on behind
a point. -/
theorem Within.leave (h : Within source units taken rest c) (holds : Taken c.loop taken rest)
    (stops : StopsAt c.loop.goesOn rest) :
    ∃ d passed left, c.leave source = .ok d ∧ Head source d (units.length + 1) left ∧
      rest = passed ++ left ∧ (passed ≠ [] ∨ d.loop = .units) := by
  unfold Cursor.leave
  cases loop : c.loop with
  | units =>
    rw [loop] at holds
    exact holds.elim
  | comment =>
    rw [loop] at holds stops
    obtain ⟨line, rfl, allowed⟩ := holds
    refine ⟨_, [], rest, rfl, ?_, rfl, .inr rfl⟩
    have ends := h.finish_of_endsBefore allowed stops
    rw [Cursor.finish] at ends
    simpa [PlacedUnit.token?, PlacedUnit.error?] using head_finish ends
  | string =>
    rw [loop] at holds stops
    obtain ⟨content, rfl, noQuote⟩ := holds
    cases rest with
    | nil =>
      have cuts : cut '"' content = (unclosed content, []) := by
        rw [cut_quote, cutQuoted_unclosed noQuote]
      have only : ofSource ('"' :: content ++ []) = unclosed content :: ofSource [] := by
        rw [List.append_nil, ofSource.eq_def ('"' :: content)]
        simp only [cuts]
      exact ⟨_, [], [], h.endString_open, head_finish (h.finish rfl only), rfl, .inr rfl⟩
    | cons char rest =>
      have quote : char = '"' := by simpa [Loop.goesOn] using stopsAt_cons.mp stops
      subst quote
      have closed : Within source units (string content).text rest (c.take '"') := h.take
      exact ⟨_, ['"'], rest, h.endString_closed,
        head_finish (closed.finish_of_endsBefore noQuote trivial), rfl, .inr rfl⟩
  | whole =>
    rw [loop] at holds stops
    exact h.endWhole holds stops
  | fraction =>
    rw [loop] at holds stops
    obtain ⟨whole, fraction, rfl, allowed, begun⟩ := holds
    cases fraction with
    | nil =>
      obtain ⟨d, next, digit⟩ := begun rfl
      have outside : d.isDigit = false := stops d next
      rw [outside] at digit
      cases digit
    | cons d places =>
      have number : Within source units (number whole (d :: places)).text rest c := by
        rwa [text_number_cons]
      exact ⟨_, [], rest, number.endNumber,
        head_finish (number.finish_of_endsBefore allowed stops), rfl, .inr rfl⟩
  | word =>
    rw [loop] at holds stops
    exact ⟨_, [], rest, h.endWord, head_finish (h.finish_of_endsBefore holds stops), rfl, .inr rfl⟩

/-- One turn of the loop of a unit. -/
theorem Within.goOn (h : Within source units taken rest c) (holds : Taken c.loop taken rest) :
    ∃ d passed left, c.goOn source = .ok d ∧ Head source d (units.length + 1) left ∧
      rest = passed ++ left ∧ (passed ≠ [] ∨ d.loop = .units) := by
  rw [Cursor.goOn, h.peek, ok_bind]
  cases rest with
  | nil => exact h.leave holds (stopsAt_nil _)
  | cons char rest =>
    by_cases goesOn : c.loop.goesOn char = true
    · refine ⟨c.take char, [char], rest, ?_, .within h.take (holds.snoc goesOn), rfl,
        .inl (List.cons_ne_nil _ _)⟩
      have moved : ∀ line : UInt32, Cursor.advance source { c with line := line }
          = .ok (some char, ({ c with line := line } : Cursor).behind char) := fun line => by
        rw [Cursor.advance, show Cursor.peek source { c with line := line } = _ from h.peek]
        rfl
      simp only [List.head?_cons]
      rw [if_pos goesOn, moved, ok_bind, Cursor.take, lineAfter_singleton]
      rfl
    · simp only [List.head?_cons]
      rw [if_neg goesOn]
      exact h.leave holds (stopsAt_cons.mpr (Bool.eq_false_iff.mpr goesOn))

/-! ## The loop over the units -/

theorem Between.begin (h : Between source units rest c) :
    Within source units [] rest { c with start := c.current, startLine := c.line } where
  units_eq := h.units_eq
  start_eq := h.current_eq
  current_eq := by rw [List.append_nil]; exact h.current_eq
  startLine_eq := h.line_eq
  line_eq := by rw [List.append_nil]; exact h.line_eq
  tokens_eq := h.tokens_eq
  errors_eq := h.errors_eq

theorem eq_of_spelling_two {op : Operator} {c d : Char} (spelled : op.spelling = [c, d]) :
    d = '=' := by
  cases op <;> cases spelled <;> rfl

/-- No operator has three characters. -/
theorem endsBefore_of_spelling_two {op : Operator} {c d : Char} (spelled : op.spelling = [c, d])
    (rest : List Char) : (operator op).EndsBefore rest := by
  rintro e - (⟨longer, three⟩ | ⟨rfl, -⟩)
  · rw [spelled] at three
    rcases spelling_length longer with ⟨_, short⟩ | ⟨_, _, short⟩ <;> rw [short] at three <;>
      cases three
  · cases spelled

theorem Within.readSlash (h : Within source units ['/'] rest c) :
    ∃ d passed left, c.readSlash source = .ok d ∧ Head source d (units.length + 1) left ∧
      rest = passed ++ left := by
  rw [Cursor.readSlash]
  by_cases second : rest.head? = some '/'
  · obtain ⟨more, rfl⟩ := List.head?_eq_some_iff.mp second
    have comment := h.take
    refine ⟨{ c.take '/' with loop := .comment }, ['/'], more, ?_,
      .within { comment with } ⟨[], rfl, List.not_mem_nil⟩, rfl⟩
    rw [h.expect?_next, behind_eq_take (by decide)]
    rfl
  · have slash : Within source units (operator .slash).text rest c := h
    have ends : (operator .slash).EndsBefore rest := by
      rintro d head (⟨longer, two⟩ | ⟨-, rfl⟩)
      · exact spelling_ne_slash_cons longer d two
      · exact second head
    refine ⟨_, [], rest, ?_, head_finish (slash.finish_of_endsBefore trivial ends), rfl⟩
    rw [h.expect?_other second, ok_bind]
    exact slash.addToken_operator

theorem Within.readOperator {op : Operator} {char : Char} (h : Within source units [char] rest c)
    (spelled : op.spelling = [char]) (noSlash : char ≠ '/') :
    ∃ d passed left, c.readOperator source char op = .ok d ∧
      Head source d (units.length + 1) left ∧ rest = passed ++ left := by
  have single : Within source units (operator op).text rest c := by rwa [text, spelled]
  -- Without the equals sign behind it, no operator is longer.
  have alone (shorter : ∀ longer : Operator, longer.spelling = [char, '='] → rest.head? ≠ some '=') :
      Head source (c.finish (operator op)) (units.length + 1) rest := by
    refine head_finish (single.finish_of_endsBefore trivial ?_)
    rintro d head (⟨longer, two⟩ | ⟨rfl, rfl⟩)
    · rw [spelled] at two
      have equals := eq_of_spelling_two two
      subst equals
      exact shorter longer two head
    · cases spelled
      exact noSlash rfl
  unfold Cursor.readOperator
  split
  · next longer found =>
    have two := Operator.ofSpelling?_eq_some_iff.mp found
    by_cases equals : rest.head? = some '='
    · obtain ⟨more, rfl⟩ := List.head?_eq_some_iff.mp equals
      have double : Within source units (operator longer).text more (c.take '=') := by
        rw [text, two]
        exact h.take
      refine ⟨_, ['='], more, ?_,
        head_finish (double.finish_of_endsBefore trivial (endsBefore_of_spelling_two two _)), rfl⟩
      rw [h.expect?_next, ok_bind, behind_eq_take (by decide)]
      exact double.addToken_operator
    · refine ⟨_, [], rest, ?_, alone fun _ _ => equals, rfl⟩
      rw [h.expect?_other equals, ok_bind]
      exact single.addToken_operator
  · next missing =>
    refine ⟨_, [], rest, single.addToken_operator, alone fun longer two => ?_, rfl⟩
    rw [← two, Operator.ofSpelling?_spelling] at missing
    cases missing

/-- The first character of an operator is an operator. -/
theorem exists_spelling_head {op : Operator} {c : Char} (first : op.spelling.head? = some c) :
    ∃ single : Operator, Operator.ofSpelling? [c] = some single := by
  cases op <;> cases first <;> exact ⟨_, rfl⟩

/-- A blank leaves no trace. -/
theorem Within.head_blank {char : Char} (h : Within source units [char] rest c)
    (loop : c.loop = .units) (allowed : (blank char).InGrammar) :
    Head source c (units.length + 1) rest := by
  have kept : c.finish (blank char) = c := by
    rw [Cursor.finish, ← loop]
    simp [PlacedUnit.token?, PlacedUnit.error?]
  have blanks : Within source units (blank char).text rest c := h
  have ends := blanks.finish_of_endsBefore allowed trivial
  rw [kept] at ends
  exact head_finish ends

/-- A character that starts nothing else is a unit. -/
theorem Within.addError_stray {char : Char} (h : Within source units [char] rest c)
    (noBlank : isBlank char = false) (noOperator : Operator.ofSpelling? [char] = none)
    (noQuote : char ≠ '"') (noDigit : char.isDigit ≠ true) (noWord : isWordStart char ≠ true) :
    Between source (units ++ [stray char]) rest
      (c.addError c.line (.unexpectedCharacter char)) := by
  have foreign : ∀ op : Operator, op.spelling.head? ≠ some char := fun op first => by
    obtain ⟨single, found⟩ := exists_spelling_head first
    rw [noOperator] at found
    cases found
  have cuts : cut char rest = (stray char, rest) := by
    rw [cut_of_foreign noBlank foreign, if_neg noQuote, if_neg noDigit, if_neg noWord]
  have first : ofSource ([char] ++ rest) = stray char :: ofSource rest := by
    rw [List.singleton_append, ofSource]
    simp only [cuts]
  have noBreak : char ≠ '\n' := fun same => by
    rw [same] at noBlank
    cases noBlank
  have line : c.line = c.startLine := by
    rw [h.line_eq, lineAfter_append, lineAfter_singleton, if_neg noBreak, h.startLine_eq]
  have complete := h.finish (u := stray char) rfl first
  rw [Cursor.finish] at complete
  simp only [PlacedUnit.token?, PlacedUnit.error?, Option.toList_none, Option.toList_some,
    List.append_nil] at complete
  rw [line]
  exact complete

theorem Within.readOther {char : Char} (h : Within source units [] (char :: rest) c)
    (loop : c.loop = .units) (noOperator : Operator.ofSpelling? [char] = none) :
    Head source ((c.behind char).readOther char) (units.length + 1) rest := by
  have first : Within source units [char] rest (c.take char) := h.take
  unfold Cursor.readOther
  split
  · next blank =>
    have noBreak : char ≠ '\n' := by rcases blank with rfl | rfl | rfl <;> decide
    have allowed : (LexicalUnit.blank char).InGrammar := by
      rcases blank with same | same | same <;> simp [InGrammar, same]
    rw [behind_eq_take noBreak]
    exact first.head_blank loop allowed
  next noSpace =>
  split
  · next newline =>
    subst newline
    exact first.head_blank loop (.inr (.inr (.inr rfl)))
  next noBreak =>
  rw [behind_eq_take noBreak]
  split
  · next quote =>
    subst quote
    exact .within { first with } ⟨[], rfl, List.not_mem_nil⟩
  next noQuote =>
  split
  · next digit =>
    exact .within { first with }
      ⟨List.cons_ne_nil _ _, List.forall_mem_singleton.mpr digit, List.forall_mem_nil _⟩
  next noDigit =>
  split
  · next start =>
    exact .within { first with } ⟨char, [], rfl, start, List.forall_mem_nil _⟩
  next noWord =>
  have noBlank : isBlank char = false := by
    refine Bool.eq_false_iff.mpr fun blank => ?_
    rcases isBlank_iff.mp blank with same | same | same | same
    · exact noSpace (.inl same)
    · exact noSpace (.inr (.inl same))
    · exact noSpace (.inr (.inr same))
    · exact noBreak same
  exact head_finish (first.addError_stray noBlank noOperator noQuote noDigit noWord)

theorem Within.readUnit {char : Char} (h : Within source units [] (char :: rest) c)
    (loop : c.loop = .units) :
    ∃ d passed left, (c.behind char).readUnit source char = .ok d ∧
      Head source d (units.length + 1) left ∧ rest = passed ++ left := by
  have first : Within source units [char] rest (c.take char) := h.take
  unfold Cursor.readUnit
  split
  · next slash =>
    subst slash
    rw [behind_eq_take (by decide)]
    exact first.readSlash
  next noSlash =>
  split
  · next op found =>
    have noBreak : char ≠ '\n' := by
      rintro rfl
      cases found
    rw [behind_eq_take noBreak]
    exact first.readOperator (Operator.ofSpelling?_eq_some_iff.mp found) noSlash
  · next noOperator =>
    exact ⟨_, [], rest, rfl, h.readOther loop noOperator, rfl⟩

/-- One turn of the loop over the units takes at least one character. -/
theorem Between.nextUnit {char : Char} (h : Between source units (char :: rest) c) :
    ∃ d passed left, c.nextUnit source = .ok d ∧ Head source d (units.length + 1) left ∧
      char :: rest = passed ++ left ∧ passed ≠ [] := by
  obtain ⟨d, passed, left, read, head, split⟩ := h.begin.readUnit h.loop_eq
  refine ⟨d, char :: passed, left, ?_, head, ?_, List.cons_ne_nil _ _⟩
  · rw [Cursor.nextUnit, h.begin.advance, ok_bind]
    exact read
  · rw [split, List.cons_append]

/-! ## One turn -/

/-- At the end of the source nothing is left to read, and the scan is the one that the units
of the source give. -/
theorem Between.step_end (h : Between source units [] c) :
    units = ofSource source.toList ∧ c.step source = .ok (.ends (Scan.ofSource source)) := by
  have all : ofSource source.toList = units := by simpa [ofSource] using h.units_eq
  have whole := source_eq_of_units h.units_eq
  refine ⟨all.symm, ?_⟩
  have atEnd : source.utf8ByteSize ≤ c.current := by
    rw [h.current_eq, utf8ByteSize_le_iff whole]
  rw [Cursor.step, h.loop_eq]
  simp only [if_pos atEnd]
  rw [h.tokens_eq, h.errors_eq, h.line_eq, Scan.ofSource, Scan.unitsOf, all, whole,
    List.append_nil]
  rfl

/-- One turn from the head of a loop. A scan ends when all units have been begun. A turn of
the loop over the units begins one more and takes at least a character. A turn of any other
loop takes a character too, or it is the last one of the unit. -/
theorem Head.step {begun : Nat} (h : Head source c begun rest) :
    (c.loop = .units ∧ rest = [] ∧ begun = (ofSource source.toList).length ∧
      c.step source = .ok (.ends (Scan.ofSource source))) ∨
    ∃ d begun' passed left, c.step source = .ok (.goesTo d) ∧ Head source d begun' left ∧
      rest = passed ++ left ∧
      ((c.loop = .units ∧ begun' = begun + 1 ∧ passed ≠ []) ∨
        (c.loop ≠ .units ∧ begun' = begun ∧ (passed ≠ [] ∨ d.loop = .units))) := by
  cases h with
  | @between units rest between =>
    cases rest with
    | nil =>
      obtain ⟨all, ends⟩ := between.step_end
      exact .inl ⟨between.loop_eq, rfl, by rw [all], ends⟩
    | cons char rest =>
      obtain ⟨d, passed, left, turn, head, split, moved⟩ := between.nextUnit
      have notEnd : ¬ source.utf8ByteSize ≤ c.current := by
        rw [between.current_eq, utf8ByteSize_le_iff (source_eq_of_units between.units_eq)]
        exact List.cons_ne_nil _ _
      refine .inr ⟨d, _, passed, left, ?_, head, split, .inl ⟨between.loop_eq, rfl, moved⟩⟩
      rw [Cursor.step, between.loop_eq]
      simp only [if_neg notEnd, turn]
      rfl
  | @within units taken rest within taken_eq =>
    obtain ⟨d, passed, left, turn, head, split, moved⟩ := within.goOn taken_eq
    have inner : c.loop ≠ .units := fun loop => by
      rw [loop] at taken_eq
      exact taken_eq
    refine .inr ⟨d, _, passed, left, ?_, head, split, .inr ⟨inner, rfl, moved⟩⟩
    unfold Cursor.step
    split
    · next loop => exact absurd loop inner
    · rw [turn]
      rfl

end Cursor
end ScriptScan
