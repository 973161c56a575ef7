import ScriptScan.Options.Declaration
import ScriptScan.Proofs.Choice
import ScriptScan.Proofs.UsageText

/-!
# Usage texts and the reader

What a usage text says about the arguments of a program, and what the reader does with them.

* `usage_agrees_with_reader`: the rows of the table, read back by their columns, are the options as
  the reader takes them (`Schema.Describes`), and the names on the first line are the positional
  fields in the order in which words give them.
* `usage_words_tell_what_can_be_left_out`: a name in angle brackets is never left out, and a name in
  square brackets can be left out when all names behind it are in square brackets too.
* `bracketed_field_cannot_be_left_out`: the condition on the names behind it is needed.
-/

namespace ScriptScan
namespace Options

/-! ## Rows and options -/

/-- The text of a spelling, which is empty when there is none. -/
def textOrEmpty : Option Spelling → String
  | none => ""
  | some spelling => spelling.text

namespace Schema

/-- A row tells what the reader does with the option at the place: which arguments give it, whether
they take the argument behind them as a value, and whether the option can be left out. -/
structure Describes (schema : Schema ValueType) (row : UsageRow) (f : Field ValueType)
    (index : Nat) : Prop where
  spellings : ∃ spellings, f.role.spellings? = some spellings ∧
    row.short = textOrEmpty spellings.short? ∧ row.long = textOrEmpty spellings.long?
  parameter : row.parameter
    = if f.role.content?.isSome then "<" ++ Text.upper f.name ++ ">" else ""
  owns : ∀ s, s ≠ "" → (s = row.short ∨ s = row.long ↔ schema.Owns s f index)
  alone : row.parameter = "" → ∀ s found rest, schema.Owns s f index →
    isGiven found index = false →
    schema.cut found s rest = .ok (⟨[s], index, .bool true⟩, rest)
  withValue : row.parameter ≠ "" → ∃ content, f.role.content? = some content ∧
    ∀ s found rest g left, schema.Owns s f index → isGiven found index = false →
    (schema.cut found s rest = .ok (g, left) ↔
      ∃ text value, rest = text :: left ∧ text.startsWith '-' = false ∧
        ArgumentType.read? content.type text = some value ∧ g = ⟨[s, text], index, value⟩)
  required : row.description = f.description ++ " (Required)" ↔ ¬ schema.CanOmit index
  omittable : row.description = f.description ↔ schema.CanOmit index

variable {schema : Schema ValueType} {f : Field ValueType} {index : Nat}

/-! ## What a spelling takes -/

theorem eq_of_owns {s : String} {g : Field ValueType} {place : Nat} (owns : schema.Owns s f index)
    (other : schema.Owns s g place) : f = g ∧ index = place := by
  have same := (owns_iff.mp owns).2.symm.trans (owns_iff.mp other).2
  simpa using same

theorem not_isWord_of_owns {s : String} (owns : schema.Owns s f index) : ¬ schema.IsWord s := by
  intro word
  exact word.unspelled f (List.mem_of_getElem? owns.declared) owns.spelled

/-- A flag takes no argument but its spelling. -/
theorem cut_flag {s : String} (owns : schema.Owns s f index) (flag : f.role.content? = none)
    {found : List (Group Value)} (fresh : isGiven found index = false) (rest : List String) :
    schema.cut found s rest = .ok (⟨[s], index, .bool true⟩, rest) := by
  rcases role_of_owns owns with ⟨spellings, role⟩ | ⟨spellings, content, role⟩
  · exact cut_givesOption (.flag owns role) fresh rfl
  · rw [role] at flag
    cases flag

/-- Any other option takes the argument behind its spelling, unless that starts with a dash or is no
value of its type. -/
theorem cut_option_iff {s : String} (owns : schema.Owns s f index) {content : Content ValueType}
    (takes : f.role.content? = some content) {found : List (Group Value)}
    (fresh : isGiven found index = false) {rest left : List String} {g : Group Value} :
    schema.cut found s rest = .ok (g, left) ↔
      ∃ text value, rest = text :: left ∧ text.startsWith '-' = false ∧
        ArgumentType.read? content.type text = some value ∧ g = ⟨[s, text], index, value⟩ := by
  constructor
  · intro cuts
    obtain ⟨parts, ⟨gives, -⟩ | gives⟩ := cut_eq_ok_iff.mp cuts
    · cases gives with
      | flag other flag =>
        obtain ⟨rfl, -⟩ := List.cons.inj parts
        obtain ⟨rfl, rfl⟩ := eq_of_owns owns other
        rw [flag] at takes
        cases takes
      | @option _ text _ _ _ _ value other option noDash read =>
        obtain ⟨rfl, behind⟩ := List.cons.inj parts
        obtain ⟨rfl, rfl⟩ := eq_of_owns owns other
        rw [option] at takes
        cases takes
        exact ⟨text, value, behind.symm, noDash, read, rfl⟩
    · cases gives with
      | word word _ _ _ =>
        obtain ⟨rfl, -⟩ := List.cons.inj parts
        exact absurd word (not_isWord_of_owns owns)
  · rintro ⟨text, value, rfl, noDash, read, rfl⟩
    rcases role_of_owns owns with ⟨spellings, role⟩ | ⟨spellings, content, role⟩ <;>
      rw [role] at takes <;> cases takes
    exact cut_givesOption (.option owns role noDash read) fresh rfl

/-! ## What a row shows -/

theorem owns_iff_mem_spellingTexts (wellSpelled : schema.WellSpelled)
    (declared : schema.fields[index]? = some f) {s : String} :
    schema.Owns s f index ↔ s ∈ f.spellingTexts :=
  ⟨fun owns => Field.spells_iff.mp owns.spelled, owns_of_wellSpelled wellSpelled declared⟩

theorem mem_spellingTexts_iff {spellings : Spellings} (spelled : f.role.spellings? = some spellings)
    {s : String} (visible : s ≠ "") :
    s ∈ f.spellingTexts ↔
      s = (spellings.short?.map Spelling.text).getD "" ∨
        s = (spellings.long?.map Spelling.text).getD "" := by
  unfold Field.spellingTexts
  rw [spelled]
  cases spellings <;> simp [Spellings.short?, Spellings.long?, visible]

theorem getD_text_eq (spelling? : Option Spelling) :
    (spelling?.map Spelling.text).getD "" = textOrEmpty spelling? := by
  cases spelling? <;> rfl

theorem angled_ne_empty (name : String) : Field.angled name ≠ "" := by
  intro same
  simpa [Field.angled] using congrArg String.length same

theorem append_required_ne (description : String) : description ++ " (Required)" ≠ description := by
  intro same
  simpa using congrArg String.length same

/-- The row of an option describes it. -/
theorem describes_of_usageRow? (wellSpelled : schema.WellSpelled)
    (declared : schema.fields[index]? = some f) {row : UsageRow}
    (shown : f.usageRow? = some row) : schema.Describes row f index := by
  obtain ⟨spellings, spelled, rfl⟩ := Option.map_eq_some_iff.mp shown
  have option : f.isPositional = false := by
    refine Bool.eq_false_iff.mpr fun positional => ?_
    rw [Field.spellings?_eq_none_iff.mpr positional] at spelled
    cases spelled
  have omit_iff := canOmit_option_iff wellSpelled declared option
  constructor
  case spellings => exact ⟨spellings, spelled, getD_text_eq _, getD_text_eq _⟩
  case parameter => rfl
  case owns =>
    intro s visible
    rw [owns_iff_mem_spellingTexts wellSpelled declared, mem_spellingTexts_iff spelled visible]
  case alone =>
    intro empty s found rest owns fresh
    cases takes : f.role.content? with
    | none => exact cut_flag owns takes fresh rest
    | some content =>
      rw [takes] at empty
      exact absurd empty (angled_ne_empty _)
  case withValue =>
    intro nonempty
    cases takes : f.role.content? with
    | none =>
      rw [takes] at nonempty
      exact absurd rfl nonempty
    | some content =>
      exact ⟨content, rfl, fun s found rest g left owns fresh => cut_option_iff owns takes fresh⟩
  case required =>
    rw [omit_iff]
    cases f.required <;> simp [(append_required_ne f.description).symm]
  case omittable =>
    rw [omit_iff]
    cases f.required <;> simp [append_required_ne f.description]

theorem forall₂_filterMap_filter {γ δ : Type} {R : δ → γ → Prop} {show? : γ → Option δ}
    {p : γ → Bool} {l : List γ}
    (shown : ∀ x ∈ l, p x = true → ∃ y, show? x = some y ∧ R y x)
    (hidden : ∀ x ∈ l, p x = false → show? x = none) :
    List.Forall₂ R (l.filterMap show?) (l.filter p) := by
  induction l with
  | nil => exact .nil
  | cons x l ih =>
    obtain ⟨shown_x, shown⟩ := List.forall_mem_cons.mp shown
    obtain ⟨hidden_x, hidden⟩ := List.forall_mem_cons.mp hidden
    cases kept : p x with
    | true =>
      obtain ⟨y, some_y, related⟩ := shown_x kept
      rw [List.filterMap_cons_some some_y, List.filter_cons_of_pos kept]
      exact .cons related (ih shown hidden)
    | false =>
      rw [List.filterMap_cons_none (hidden_x kept),
        List.filter_cons_of_neg (Bool.eq_false_iff.mp kept)]
      exact ih shown hidden

/-- Every option has a row that describes it, in the order of declaration. -/
theorem describes_usageRows (wellSpelled : schema.WellSpelled) :
    List.Forall₂ (fun row f => schema.Describes row f.1 f.2)
      (schema.fields.filterMap Field.usageRow?)
      (schema.indexed.filter fun f => !f.1.isPositional) := by
  have rows : schema.fields.filterMap Field.usageRow?
      = schema.indexed.filterMap fun f => f.1.usageRow? := by
    have fields : schema.fields = schema.indexed.map Prod.fst := (List.zipIdx_map_fst 0 _).symm
    rw [fields, List.filterMap_map]
    rfl
  rw [rows]
  refine forall₂_filterMap_filter ?_ ?_
  · rintro ⟨f, index⟩ member option
    obtain ⟨spellings, spelled⟩ := Field.exists_spellings (by simpa using option)
    have some_row : ∃ row, f.usageRow? = some row :=
      ⟨_, Option.map_eq_some_iff.mpr ⟨spellings, spelled, rfl⟩⟩
    obtain ⟨row, shown⟩ := some_row
    exact ⟨row, shown, describes_of_usageRow? wellSpelled (mem_indexed_iff.mp member) shown⟩
  · rintro ⟨f, index⟩ - positional
    exact Option.map_eq_none_iff.mpr (Field.spellings?_eq_none_iff.mpr (by simpa using positional))

/-! ## Names and words -/

/-- The first argument of the group is no spelling. -/
def startsWithWord (schema : Schema ValueType) (g : Group Value) : Bool :=
  g.args.head?.any fun arg => (schema.spelled? arg).isNone

theorem startsWithWord_of_givesOption {g : Group Value} (gives : schema.GivesOption g) :
    schema.startsWithWord g = false := by
  unfold startsWithWord
  cases gives with
  | flag owns _ | option owns _ _ _ => simp [(owns_iff.mp owns).2]

theorem startsWithWord_of_givesWord {count : Nat} {g : Group Value}
    (gives : schema.GivesWord count g) : schema.startsWithWord g = true := by
  unfold startsWithWord
  cases gives with
  | word word _ _ _ => simp [(isWord_iff.mp word).2.1]

/-- Words give the positional fields one by one. -/
theorem givesWord_of_startsWithWord {count : Nat} {groups : List (Group Value)}
    (inOrder : schema.InOrder count groups) {k : Nat} {g : Group Value}
    (there : (groups.filter schema.startsWithWord)[k]? = some g) :
    schema.GivesWord (count + k) g := by
  induction inOrder generalizing k with
  | done => cases there
  | option gives _ ih =>
    have spelled := startsWithWord_of_givesOption gives
    rw [List.filter_cons_of_neg (Bool.eq_false_iff.mp spelled)] at there
    exact ih there
  | word gives _ ih =>
    rw [List.filter_cons_of_pos (startsWithWord_of_givesWord gives)] at there
    cases k with
    | zero =>
      cases there
      exact gives
    | succ k =>
      rw [Nat.add_succ, ← Nat.succ_add]
      exact ih there

/-! ## The whole text -/

/-- A schema whose usage text is a table: the spellings can be told apart and have no blanks in
them, the names are identifiers, and the descriptions of the fields have no line breaks. -/
structure Tabular (schema : Schema ValueType) : Prop where
  wellSpelled : schema.WellSpelled
  plainNames : schema.PlainNames
  spellings : ∀ s ∈ schema.spellingTexts, ' ' ∉ s.toList ∧ '\n' ∉ s.toList
  descriptions : ∀ f ∈ schema.fields, '\n' ∉ f.description.toList

theorem plain_usageRow (tabular : schema.Tabular) {f : Field ValueType} (member : f ∈ schema.fields)
    {row : UsageRow} (shown : f.usageRow? = some row) : row.Plain := by
  obtain ⟨spellings, spelled, rfl⟩ := Option.map_eq_some_iff.mp shown
  have plain_spelling : ∀ s? : Option Spelling,
      (∀ s ∈ s?, s ∈ spellings.short?.toList ++ spellings.long?.toList) →
      ' ' ∉ ((s?.map Spelling.text).getD "").toList ∧
        '\n' ∉ ((s?.map Spelling.text).getD "").toList := by
    intro s? among
    cases s? with
    | none => decide
    | some s =>
      refine tabular.spellings s.text (List.mem_flatMap.mpr ⟨f, member, ?_⟩)
      unfold Field.spellingTexts
      rw [spelled]
      exact List.mem_map_of_mem (among s rfl)
  constructor
  · exact plain_spelling _ fun s there => List.mem_append_left _ (Option.mem_toList.mpr there)
  · exact plain_spelling _ fun s there => List.mem_append_right _ (Option.mem_toList.mpr there)
  · show ' ' ∉ (ite _ _ _ : String).toList ∧ '\n' ∉ (ite _ _ _ : String).toList
    split
    · have plain := upperName_plain tabular.plainNames member
      rw [toList_angled]
      exact ⟨UsageWord.not_mem_text (by decide) plain.1,
        UsageWord.not_mem_text (by decide) plain.2⟩
    · decide
  · show '\n' ∉ (ite _ _ _ : String).toList
    have plain := tabular.descriptions f member
    split
    · rw [String.toList_append, List.mem_append, not_or]
      exact ⟨plain, by decide⟩
    · exact plain

/-- The usage text and the reader agree. -/
theorem usage_agrees_with_reader (schema : Schema ValueType) (tabular : schema.Tabular) :
    (∃ rows, rowsOfUsage? schema.usage
        = some (rows ++ [⟨"-h", "--help", "", "Displays help"⟩]) ∧
      List.Forall₂ (fun row f => schema.Describes row f.1 f.2) rows
        (schema.indexed.filter fun f => !f.1.isPositional)) ∧
    ∃ words, wordsOfUsage? schema.program schema.usage = some words ∧
      words.map UsageWord.name = schema.positionals.map (fun f => Text.upper f.1.name) ∧
      (∀ f ∈ schema.positionals, schema.CanGive f.2) ∧
      ∀ args groups, schema.cutAll [] args = .ok groups →
        ∀ k g, (groups.filter schema.startsWithWord)[k]? = some g → schema.GivesWord k g := by
  refine ⟨⟨_, rowsOfUsage?_usage ?_, describes_usageRows tabular.wellSpelled⟩,
    schema.usageWords, wordsOfUsage?_usage tabular.plainNames, ?_, ?_, ?_⟩
  · intro row member
    rcases List.mem_append.mp member with shown | help
    · obtain ⟨f, declared, row_of⟩ := List.mem_filterMap.mp shown
      exact plain_usageRow tabular declared row_of
    · rw [List.mem_singleton.mp help]
      constructor <;> decide
  · rw [usageWords, List.map_map]
    rfl
  · rintro ⟨f, index⟩ member
    have declared := mem_indexed_iff.mp (List.mem_filter.mp member).1
    exact canGive_of_wellSpelled tabular.wellSpelled declared
  · intro args groups cuts k g there
    have inOrder := (cutAll_eq_ok_iff.mp cuts).2.1
    have gives := givesWord_of_startsWithWord inOrder there
    rwa [Nat.zero_add] at gives

theorem tabular_settings : Program.schema.Tabular where
  wellSpelled := ⟨by decide +kernel, by decide +kernel, by decide +kernel⟩
  plainNames := by
    unfold PlainNames
    decide +kernel
  spellings := by decide +kernel
  descriptions := by decide +kernel

/-- A flag, an option that takes a value, and a positional field. -/
theorem usage_agrees_with_reader_settings :
    Program.schema.Tabular ∧
    (∃ rows, rowsOfUsage? Program.schema.usage
        = some (rows ++ [⟨"-h", "--help", "", "Displays help"⟩]) ∧
      List.Forall₂ (fun row f => Program.schema.Describes row f.1 f.2) rows
        (Program.schema.indexed.filter fun f => !f.1.isPositional)) ∧
    ∃ words, wordsOfUsage? "treko" Program.schema.usage = some words ∧
      words.map UsageWord.name = ["SCRIPT"] := by
  obtain ⟨rows, words, read, names, -⟩ := usage_agrees_with_reader Program.schema tabular_settings
  refine ⟨tabular_settings, rows, words, read, names.trans ?_⟩
  decide +kernel

/-! ## Words that can be left out -/

/-- A name in angle brackets is given by every accepted list of arguments. A name in square brackets
can be left out when no name behind it is in angle brackets, and only then. -/
theorem usage_words_tell_what_can_be_left_out (schema : Schema ValueType)
    (wellSpelled : schema.WellSpelled) (plainNames : schema.PlainNames) :
    ∃ words, wordsOfUsage? schema.program schema.usage = some words ∧
      words.length = schema.positionals.length ∧
      ∀ (k : Nat) word f index, words[k]? = some word →
        schema.positionals[k]? = some (f, index) →
        word.name = Text.upper f.name ∧ (word.angled = true ↔ f.required = true) ∧
        (word.angled = true → ¬ schema.CanOmit index) ∧
        (schema.CanOmit index ↔ ∀ later ≥ k, ∀ w ∈ words[later]?, w.angled = false) := by
  refine ⟨schema.usageWords, wordsOfUsage?_usage plainNames, List.length_map _, ?_⟩
  intro k word f index shown there
  have word_at : ∀ (later : Nat) (w : UsageWord), schema.usageWords[later]? = some w ↔
      ∃ g, schema.positionals[later]? = some g ∧ ⟨g.1.upperName, g.1.required⟩ = w := by
    intro later w
    rw [usageWords, List.getElem?_map, Option.map_eq_some_iff]
  obtain ⟨g, here, rfl⟩ := (word_at k word).mp shown
  cases here.symm.trans there
  have declared := (getElem?_of_positional there).1
  refine ⟨rfl, Iff.rfl, not_canOmit_of_required declared, ?_⟩
  rw [canOmit_positional_iff wellSpelled there]
  constructor
  · intro optional later behind w place
    obtain ⟨g, next, rfl⟩ := (word_at later w).mp place
    exact optional later behind g next
  · intro square later behind g next
    exact square later behind _ ((word_at later _).mpr ⟨g, next, rfl⟩)

/-- The name of the script is in square brackets, and no name stands behind it. -/
theorem usage_words_tell_what_can_be_left_out_settings :
    (Program.schema.WellSpelled ∧ Program.schema.PlainNames) ∧
    wordsOfUsage? "treko" Program.schema.usage = some [⟨"SCRIPT", false⟩] ∧
    Program.schema.CanOmit 0 := by
  have wellSpelled := tabular_settings.wellSpelled
  have plainNames := tabular_settings.plainNames
  obtain ⟨words, read, -, told⟩ :=
    usage_words_tell_what_can_be_left_out Program.schema wellSpelled plainNames
  have shown : wordsOfUsage? "treko" Program.schema.usage = some [⟨"SCRIPT", false⟩] :=
    (wordsOfUsage?_usage plainNames).trans (congrArg some (by decide +kernel))
  cases read.symm.trans shown
  obtain ⟨-, -, -, canOmit_iff⟩ := told 0 _ _ 0 rfl rfl
  refine ⟨⟨wellSpelled, plainNames⟩, shown, canOmit_iff.mpr fun later _ w place => ?_⟩
  cases List.mem_singleton.mp (List.mem_of_getElem? place)
  rfl

end Schema

/-- An optional positional field before a required one. -/
def optionalSource {α : Type} (source target : α) : Schema α :=
  ⟨"copy", "", [⟨"source", "", false, .positional ⟨source, true⟩⟩,
    ⟨"target", "", true, .positional ⟨target, false⟩⟩]⟩

/-- The first name is in square brackets, but a list without it has no word for the second one. -/
theorem bracketed_field_cannot_be_left_out :
    (Declaration.schema ⟨"Copy", "", "", .named
        [⟨"source", .path (.single "Option" (.angled ["String"])), "", "", "", false, true⟩,
          ⟨"target", .path (.single "String" .none), "", "", "", true, true⟩]⟩
      = .ok (optionalSource (.single "Option" (.angled ["String"])) (.single "String" .none))) ∧
    (optionalSource ValueType.string .string).WellSpelled ∧
    wordsOfUsage? "copy" (optionalSource ValueType.string .string).usage
      = some [⟨"SOURCE", false⟩, ⟨"TARGET", true⟩] ∧
    (∃ args values, (optionalSource ValueType.string .string).read args = .accepted values) ∧
    ¬ (optionalSource ValueType.string .string).CanOmit 0 := by
  have wellSpelled : (optionalSource ValueType.string .string).WellSpelled :=
    ⟨by decide, by decide, by decide⟩
  have plainNames : (optionalSource ValueType.string .string).PlainNames := by
    unfold Schema.PlainNames
    decide
  have words := (Schema.wordsOfUsage?_usage plainNames).trans (congrArg some
    (show _ = [⟨"SOURCE", false⟩, ⟨"TARGET", true⟩] by decide +kernel))
  refine ⟨by decide +kernel, wellSpelled, words, ?_, fun omits => ?_⟩
  · exact ⟨["a", "b"], [some (.string "a"), some (.string "b")], by decide +kernel⟩
  · have optional := Schema.not_required_of_canOmit
      (show (optionalSource ValueType.string .string).positionals[0]? = some (_, 0) from rfl) omits
    cases optional 1 (Nat.zero_le 1) _ rfl

end Options
end ScriptScan
