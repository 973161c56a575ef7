import Mathlib.Data.List.Nodup
import ScriptScan.Options.Reading

/-!
# Cutting arguments into groups

`Schema.Accepts` says how a list of arguments can be cut into groups that give the fields of
a schema, without a word about how the cut is found: every group gives an option or the next
positional field (`Schema.InOrder`), no option is given twice (`Schema.Once`), and no required
field is left out.

* `cut_cases` tells all that a single step of the reader can do, `cut_eq_ok_iff` what it takes off.
* `continues_cons` carries this to all steps. The groups found so far appear in `Continues` in two
  ways only: the words among them are counted, and their options may not come again
  (`Schema.Fresh`).
* `exists_continues_stuck` and `cutAll_of_continues` say where the reader comes to.
* `Field.absentValue_eq_iff` says what a field without a group holds (`Field.LeftOut`).
* `read_accepted_iff_cut` is the result, for every schema and every reading of values.
-/

namespace ScriptScan
namespace Options

/-! ## Dashes -/

theorem startsWith_dash_iff {arg : String} :
    arg.startsWith '-' = true ↔ arg.toList.head? = some '-' := by
  rw [String.startsWith_char_eq_head?, beq_iff_eq]

theorem isDashed_eq_startsWith (arg : String) : isDashed arg = arg.startsWith '-' := by
  rw [Bool.eq_iff_iff, startsWith_dash_iff, isDashed]
  split
  · next starts => simp [starts]
  · next other =>
    refine iff_of_false Bool.noConfusion fun head => ?_
    obtain ⟨more, starts⟩ := List.head?_eq_some_iff.mp head
    exact other more starts

/-- A dash is a single byte, so more than a dash is more than one byte. -/
theorem looksLikeOption_iff {arg : String} :
    looksLikeOption arg = true ↔ arg.startsWith '-' = true ∧ 1 < arg.utf8ByteSize := by
  rw [startsWith_dash_iff, looksLikeOption]
  have whole : arg = String.ofList arg.toList := String.ofList_toList.symm
  split
  · next c more starts =>
    have positive := Char.utf8Size_pos c
    have dash : '-'.utf8Size = 1 := rfl
    rw [starts] at whole ⊢
    refine iff_of_true rfl ⟨rfl, ?_⟩
    rw [whole, String.ofList_cons, String.ofList_cons, String.utf8ByteSize_append,
      String.utf8ByteSize_append, String.utf8ByteSize_singleton, String.utf8ByteSize_singleton]
    omega
  · next other =>
    refine iff_of_false Bool.noConfusion ?_
    rintro ⟨head, long⟩
    obtain ⟨more, starts⟩ := List.head?_eq_some_iff.mp head
    cases more with
    | nil =>
      rw [whole, starts] at long
      exact absurd long (by decide)
    | cons c more => exact other c more starts

theorem isHelp_iff {arg : String} : isHelp arg = true ↔ arg = "-h" ∨ arg = "--help" := by
  simp [isHelp]

theorem isHelp_eq_false_iff {arg : String} :
    isHelp arg = false ↔ arg ≠ "-h" ∧ arg ≠ "--help" := by
  simp [isHelp]

/-! ## Fields by their roles -/

namespace Field

variable {α β : Type} {f : Field α}

/-- The field is a flag or an option with the spellings. -/
def Carries (f : Field α) (spellings : Spellings) : Prop :=
  f.role = .flag spellings ∨ ∃ content, f.role = .option spellings content

theorem carries_iff {spellings : Spellings} :
    f.Carries spellings ↔ f.role.spellings? = some spellings := by
  unfold Carries
  cases f.role <;> simp [Role.spellings?]

/-- The text is a spelling of the field. -/
inductive Spells (f : Field α) : String → Prop
  | short {short : Spelling} : f.Carries (.short short) → Spells f short.text
  | long {long : Spelling} : f.Carries (.long long) → Spells f long.text
  | firstOfBoth {short long : Spelling} : f.Carries (.both short long) → Spells f short.text
  | secondOfBoth {short long : Spelling} : f.Carries (.both short long) → Spells f long.text

theorem spells_of_contains {spellings : Spellings} {arg : String} (carries : f.Carries spellings)
    (contains : spellings.contains arg = true) : f.Spells arg := by
  cases spellings with
  | short short =>
    obtain rfl : short.text = arg := by
      simpa [Spellings.contains, Spellings.short?, Spellings.long?] using contains
    exact .short carries
  | long long =>
    obtain rfl : long.text = arg := by
      simpa [Spellings.contains, Spellings.short?, Spellings.long?] using contains
    exact .long carries
  | both short long =>
    have one : short.text = arg ∨ long.text = arg := by
      simpa [Spellings.contains, Spellings.short?, Spellings.long?] using contains
    rcases one with rfl | rfl
    · exact .firstOfBoth carries
    · exact .secondOfBoth carries

theorem isSpelled_iff_spells {arg : String} : f.isSpelled arg = true ↔ f.Spells arg := by
  rw [isSpelled, Option.any_eq_true]
  constructor
  · rintro ⟨spellings, there, contains⟩
    exact spells_of_contains (carries_iff.mpr there) contains
  · intro spells
    cases spells with
    | short carries | long carries | firstOfBoth carries | secondOfBoth carries =>
      refine ⟨_, carries_iff.mp carries, ?_⟩
      simp [Spellings.contains, Spellings.short?, Spellings.long?]

theorem isSpelled_eq_false_iff {arg : String} : f.isSpelled arg = false ↔ ¬ f.Spells arg := by
  rw [← isSpelled_iff_spells, Bool.not_eq_true]

/-! ## Fields that are left out -/

/-- The field is given by a text, which is a bare word or stands behind a spelling. -/
def Takes (f : Field α) (content : Content α) : Prop :=
  f.role = .positional content ∨ ∃ spellings, f.role = .option spellings content

theorem takes_iff {content : Content α} : f.Takes content ↔ f.role.content? = some content := by
  unfold Takes
  cases f.role <;> simp [Role.content?]

variable [ArgumentType α β]

/-- The value of a field that no argument gives. A flag is not set, an optional field has no value,
and every other field has the default of its type. -/
inductive LeftOut (f : Field α) : Option β → Prop
  | flag {spellings : Spellings} :
      f.role = .flag spellings → LeftOut f (some (ArgumentType.truth α false))
  | optional {type : α} : f.Takes ⟨type, true⟩ → LeftOut f none
  | plain {type : α} : f.Takes ⟨type, false⟩ → LeftOut f (some (ArgumentType.default type))

theorem absentValue_flag {spellings : Spellings} (role : f.role = .flag spellings) :
    f.absentValue = some (ArgumentType.truth α false : β) := by
  rw [absentValue, role]
  rfl

theorem absentValue_optional {type : α} (takes : f.Takes ⟨type, true⟩) :
    f.absentValue = (none : Option β) := by
  rw [absentValue, takes_iff.mp takes]
  rfl

theorem absentValue_plain {type : α} (takes : f.Takes ⟨type, false⟩) :
    f.absentValue = some (ArgumentType.default type : β) := by
  rw [absentValue, takes_iff.mp takes]
  rfl

theorem leftOut_of_takes {content : Content α} (takes : f.Takes content) :
    f.LeftOut (f.absentValue : Option β) := by
  obtain ⟨type, optional⟩ := content
  cases optional with
  | true =>
    rw [absentValue_optional takes]
    exact .optional takes
  | false =>
    rw [absentValue_plain takes]
    exact .plain takes

theorem absentValue_eq_iff {value : Option β} : f.absentValue = value ↔ f.LeftOut value := by
  constructor
  · rintro rfl
    cases role : f.role with
    | positional content => exact leftOut_of_takes (.inl role)
    | flag spellings =>
      rw [absentValue_flag role]
      exact .flag role
    | option spellings content => exact leftOut_of_takes (.inr ⟨spellings, role⟩)
  · intro leftOut
    cases leftOut with
    | flag role => exact absentValue_flag role
    | optional takes => exact absentValue_optional takes
    | plain takes => exact absentValue_plain takes

end Field

namespace Schema

variable {α β : Type} {schema : Schema α}

/-! ## Spellings and words -/

/-- The argument is a spelling of the field at the place and belongs to it: no field before
it has the same spelling, and it does not ask for help. -/
structure Owns (schema : Schema α) (arg : String) (f : Field α) (index : Nat) : Prop where
  noHelp : arg ≠ "-h" ∧ arg ≠ "--help"
  declared : schema.fields[index]? = some f
  spelled : f.Spells arg
  first : ∀ before < index, ∀ g, schema.fields[before]? = some g → ¬ g.Spells arg

/-- A bare word: no spelling of a field or of help, and no other argument with a dash before
further bytes. -/
structure IsWord (schema : Schema α) (arg : String) : Prop where
  noHelp : arg ≠ "-h" ∧ arg ≠ "--help"
  unspelled : ∀ f ∈ schema.fields, ¬ f.Spells arg
  noDash : ¬ (arg.startsWith '-' = true ∧ 1 < arg.utf8ByteSize)

theorem mem_indexed_iff {f : Field α} {index : Nat} :
    (f, index) ∈ schema.indexed ↔ schema.fields[index]? = some f :=
  List.mk_mem_zipIdx_iff_getElem?

/-- A search through the fields finds the first one that has the property. -/
theorem find?_indexed_eq_some_iff {p : Field α × Nat → Bool} {f : Field α} {index : Nat} :
    schema.indexed.find? p = some (f, index) ↔
      p (f, index) = true ∧ schema.fields[index]? = some f ∧
      ∀ before < index, ∀ g, schema.fields[before]? = some g → p (g, before) = false := by
  simp only [indexed, List.find?_eq_some_iff_getElem, List.getElem_zipIdx, List.length_zipIdx,
    Nat.zero_add, Prod.mk.injEq, Bool.not_eq_true', and_congr_right_iff]
  intro _
  constructor
  · rintro ⟨place, inside, ⟨rfl, rfl⟩, earlier⟩
    refine ⟨List.getElem?_eq_getElem inside, fun before less g declared => ?_⟩
    obtain ⟨_, rfl⟩ := List.getElem?_eq_some_iff.mp declared
    exact earlier before less
  · rintro ⟨declared, earlier⟩
    obtain ⟨inside, rfl⟩ := List.getElem?_eq_some_iff.mp declared
    refine ⟨index, inside, ⟨rfl, rfl⟩, fun before less => ?_⟩
    exact earlier before less _ (List.getElem?_eq_getElem (Nat.lt_trans less inside))

theorem find?_indexed_eq_none_iff {p : Field α × Nat → Bool} :
    schema.indexed.find? p = none ↔
      ∀ index f, schema.fields[index]? = some f → ¬ p (f, index) = true := by
  rw [List.find?_eq_none]
  constructor
  · intro none_found index f declared
    exact none_found (f, index) (mem_indexed_iff.mpr declared)
  · rintro none_found ⟨f, index⟩ member
    exact none_found index f (mem_indexed_iff.mp member)

theorem spelled?_eq_some_iff {arg : String} {f : Field α} {index : Nat} :
    schema.spelled? arg = some (f, index) ↔
      f.Spells arg ∧ schema.fields[index]? = some f ∧
      ∀ before < index, ∀ g, schema.fields[before]? = some g → ¬ g.Spells arg := by
  simp only [spelled?, find?_indexed_eq_some_iff, Field.isSpelled_iff_spells,
    Field.isSpelled_eq_false_iff]

theorem spelled?_eq_none_iff {arg : String} :
    schema.spelled? arg = none ↔ ∀ f ∈ schema.fields, ¬ f.Spells arg := by
  simp only [← Field.isSpelled_iff_spells]
  rw [spelled?, List.find?_eq_none]
  constructor
  · intro unspelled f member
    obtain ⟨index, declared⟩ := List.mem_iff_getElem?.mp member
    exact unspelled (f, index) (mem_indexed_iff.mpr declared)
  · rintro unspelled ⟨f, index⟩ member
    exact unspelled f (List.fst_mem_of_mem_zipIdx member)

theorem owns_iff {arg : String} {f : Field α} {index : Nat} :
    schema.Owns arg f index ↔ isHelp arg = false ∧ schema.spelled? arg = some (f, index) := by
  rw [isHelp_eq_false_iff, spelled?_eq_some_iff]
  constructor
  · intro owns
    exact ⟨owns.noHelp, owns.spelled, owns.declared, owns.first⟩
  · rintro ⟨noHelp, spelled, declared, first⟩
    exact ⟨noHelp, declared, spelled, first⟩

/-- Only flags and options have spellings. -/
theorem role_of_owns {arg : String} {f : Field α} {index : Nat} (owns : schema.Owns arg f index) :
    (∃ spellings, f.role = .flag spellings) ∨
      ∃ spellings content, f.role = .option spellings content := by
  cases owns.spelled with
  | short carries | long carries | firstOfBoth carries | secondOfBoth carries =>
    rcases carries with flag | ⟨content, option⟩
    · exact .inl ⟨_, flag⟩
    · exact .inr ⟨_, content, option⟩

theorem isWord_iff {arg : String} :
    schema.IsWord arg ↔
      isHelp arg = false ∧ schema.spelled? arg = none ∧ looksLikeOption arg = false := by
  rw [isHelp_eq_false_iff, spelled?_eq_none_iff, ← Bool.not_eq_true, looksLikeOption_iff]
  constructor
  · intro word
    exact ⟨word.noHelp, word.unspelled, word.noDash⟩
  · rintro ⟨noHelp, unspelled, noDash⟩
    exact ⟨noHelp, unspelled, noDash⟩

/-! ## Places of fields -/

/-- The field at the place is a flag or an option. -/
def IsOption (schema : Schema α) (index : Nat) : Prop :=
  ∃ f, schema.fields[index]? = some f ∧ f.isPositional = false

/-- The field at the place is positional, and `count` positional fields are declared before it. -/
structure PositionalAt (schema : Schema α) (count : Nat) (f : Field α) (index : Nat) : Prop where
  declared : schema.fields[index]? = some f
  positional : f.isPositional = true
  behind : (schema.fields.take index).countP Field.isPositional = count

theorem getElem?_of_positional {f : Field α} {count index : Nat}
    (next : schema.positionals[count]? = some (f, index)) :
    schema.fields[index]? = some f ∧ ∃ content, f.role = .positional content := by
  obtain ⟨member, positional⟩ := List.mem_filter.mp (List.mem_of_getElem? next)
  refine ⟨mem_indexed_iff.mp member, ?_⟩
  cases role : f.role with
  | positional content => exact ⟨content, rfl⟩
  | _ =>
    simp only [Field.isPositional, role] at positional
    cases positional

/-- No positional field stands at the place of an option. -/
theorem any_positional_of_isOption {index : Nat} (option : schema.IsOption index) :
    (schema.positionals.any fun f => f.2 == index) = false := by
  obtain ⟨f, declared, noPositional⟩ := option
  refine Bool.eq_false_iff.mpr fun found => ?_
  obtain ⟨⟨g, place⟩, member, same⟩ := List.any_eq_true.mp found
  obtain ⟨there, positional⟩ := List.mem_filter.mp member
  cases beq_iff_eq.mp same
  rw [mem_indexed_iff, declared] at there
  cases there
  rw [noPositional] at positional
  cases positional

/-- Different bare words give different fields. -/
theorem eq_of_positional {j k index : Nat} {f g : Field α}
    (first : schema.positionals[j]? = some (f, index))
    (second : schema.positionals[k]? = some (g, index)) : j = k := by
  have places : (schema.positionals.map Prod.snd).Nodup := by
    refine List.Nodup.sublist (List.filter_sublist.map Prod.snd) ?_
    rw [indexed, List.zipIdx_map_snd]
    exact List.nodup_range'
  obtain ⟨inside, -⟩ := List.getElem?_eq_some_iff.mp first
  refine (List.getElem?_inj (by rwa [List.length_map]) places).mp ?_
  rw [List.getElem?_map, List.getElem?_map, first, second]
  rfl

theorem length_filter_zipIdx {γ : Type} (l : List γ) (p : γ → Bool) (k : Nat) :
    ((l.zipIdx k).filter fun y => p y.1).length = l.countP p := by
  have fst : (l.zipIdx k).map Prod.fst = l := List.zipIdx_map_fst k l
  rw [← List.countP_eq_length_filter]
  conv_rhs => rw [← fst, List.countP_map]
  rfl

/-- A positional field stands among the positional fields behind those declared before it. -/
theorem getElem?_positionals {f : Field α} {index : Nat}
    (declared : schema.fields[index]? = some f) (positional : f.isPositional = true) :
    schema.positionals[(schema.fields.take index).countP Field.isPositional]? = some (f, index) := by
  obtain ⟨inside, here⟩ := List.getElem?_eq_some_iff.mp declared
  have split : schema.fields = schema.fields.take index ++ f :: schema.fields.drop (index + 1) := by
    rw [← here, ← List.drop_eq_getElem_cons inside, List.take_append_drop]
  have length : (schema.fields.take index).length = index :=
    List.length_take_of_le (Nat.le_of_lt inside)
  have parts : schema.positionals
      = ((schema.fields.take index).zipIdx.filter fun g => g.1.isPositional) ++ (f, index) ::
        (((schema.fields.drop (index + 1)).zipIdx (index + 1)).filter fun g => g.1.isPositional) := by
    rw [positionals, indexed]
    conv_lhs => rw [split]
    rw [List.zipIdx_append, List.filter_append, length, Nat.zero_add, List.zipIdx_cons,
      List.filter_cons_of_pos (by exact positional)]
  rw [parts, ← length_filter_zipIdx _ _ 0, List.getElem?_append_right (Nat.le_refl _), Nat.sub_self]
  rfl

theorem positionalAt_iff {f : Field α} {count index : Nat} :
    schema.PositionalAt count f index ↔ schema.positionals[count]? = some (f, index) := by
  constructor
  · rintro ⟨declared, positional, rfl⟩
    exact getElem?_positionals declared positional
  · intro next
    obtain ⟨declared, content, role⟩ := getElem?_of_positional next
    have positional : f.isPositional = true := by rw [Field.isPositional, role]; rfl
    exact ⟨declared, positional, eq_of_positional (getElem?_positionals declared positional) next⟩

/-! ## Fields given by groups -/

/-- No option is in two of the groups. -/
def Once (schema : Schema α) (groups : List (Group β)) : Prop :=
  groups.Pairwise fun g h => schema.IsOption g.field → g.field ≠ h.field

/-- No option is in the groups and in those found before. -/
def Fresh (schema : Schema α) (found groups : List (Group β)) : Prop :=
  ∀ g ∈ groups, schema.IsOption g.field → isGiven found g.field = false

theorem isGiven_append (found : List (Group β)) (g : Group β) (index : Nat) :
    isGiven (found ++ [g]) index = (isGiven found index || g.field == index) := by
  simp [isGiven]

/-- One group and others give no option twice when the first one is new, and the others do not
repeat it. -/
theorem fresh_once_cons {found groups : List (Group β)} {g : Group β} :
    schema.Fresh found (g :: groups) ∧ schema.Once (g :: groups) ↔
      (schema.IsOption g.field → isGiven found g.field = false) ∧
      schema.Fresh (found ++ [g]) groups ∧ schema.Once groups := by
  rw [Fresh, List.forall_mem_cons, Once, List.pairwise_cons]
  constructor
  · rintro ⟨⟨first, fresh⟩, apart, once⟩
    refine ⟨first, fun h member option => ?_, once⟩
    rw [isGiven_append, fresh h member option, Bool.false_or, beq_eq_false_iff_ne]
    intro same
    exact apart h member (same ▸ option) same
  · rintro ⟨first, fresh, once⟩
    have both : ∀ h ∈ groups, schema.IsOption h.field →
        isGiven found h.field = false ∧ g.field ≠ h.field := by
      intro h member option
      have new := fresh h member option
      rw [isGiven_append, Bool.or_eq_false_iff, beq_eq_false_iff_ne] at new
      exact new
    refine ⟨⟨first, fun h member option => (both h member option).1⟩, ?_, once⟩
    intro h member option same
    exact (both h member (same ▸ option)).2 same

theorem missing?_eq_none_iff {groups : List (Group β)} :
    schema.missing? groups = none ↔
      ∀ index f, schema.fields[index]? = some f → f.required = true →
        ∃ g ∈ groups, g.field = index := by
  rw [missing?, find?_indexed_eq_none_iff]
  simp only [Bool.and_eq_true, Bool.not_eq_true', not_and, isGiven, Bool.not_eq_false,
    List.any_eq_true, beq_iff_eq]

/-! ## Groups -/

variable [ArgumentType α β]

/-- The group gives a flag by one of its spellings alone, or an option by a spelling and a
text that is a value of its type and does not start with a dash. -/
inductive GivesOption (schema : Schema α) : Group β → Prop
  | flag {arg : String} {f : Field α} {index : Nat} {spellings : Spellings} :
      schema.Owns arg f index → f.role = .flag spellings →
      GivesOption schema ⟨[arg], index, ArgumentType.truth α true⟩
  | option {arg text : String} {f : Field α} {index : Nat} {spellings : Spellings}
      {content : Content α} {value : β} :
      schema.Owns arg f index → f.role = .option spellings content →
      text.startsWith '-' = false → ArgumentType.read? content.type text = some value →
      GivesOption schema ⟨[arg, text], index, value⟩

/-- The group is a bare word that gives the positional field behind `count` others. -/
inductive GivesWord (schema : Schema α) (count : Nat) : Group β → Prop
  | word {arg : String} {f : Field α} {index : Nat} {content : Content α} {value : β} :
      schema.IsWord arg → schema.PositionalAt count f index →
      f.role = .positional content → ArgumentType.read? content.type arg = some value →
      GivesWord schema count ⟨[arg], index, value⟩

/-- Every group gives an option or, behind `count` words and those before it in the list, the
next positional field. -/
inductive InOrder (schema : Schema α) : Nat → List (Group β) → Prop
  | done {count : Nat} : InOrder schema count []
  | option {count : Nat} {g : Group β} {groups : List (Group β)} :
      schema.GivesOption g → InOrder schema count groups → InOrder schema count (g :: groups)
  | word {count : Nat} {g : Group β} {groups : List (Group β)} :
      schema.GivesWord count g → InOrder schema (count + 1) groups →
      InOrder schema count (g :: groups)

/-- The arguments are cut into the groups, no option is in two of them, and every required
field is in one. -/
structure Accepts (schema : Schema α) (args : List String) (groups : List (Group β)) : Prop where
  parts : groups.flatMap Group.args = args
  inOrder : schema.InOrder 0 groups
  once : schema.Once groups
  required : ∀ index f, schema.fields[index]? = some f → f.required = true →
    ∃ g ∈ groups, g.field = index

/-- A field that a group gives has the value of the group, and every other one the value of a field
that is left out. -/
structure Holds (schema : Schema α) (groups : List (Group β)) (values : List (Option β)) :
    Prop where
  length : values.length = schema.fields.length
  given : ∀ g ∈ groups, values[g.field]? = some (some g.value)
  absent : ∀ index f, schema.fields[index]? = some f → (∀ g ∈ groups, g.field ≠ index) →
    ∃ value, values[index]? = some value ∧ f.LeftOut value

/-! ## One group -/

theorem cut_of_owns {arg : String} {f : Field α} {index : Nat} (owns : schema.Owns arg f index)
    (found : List (Group β)) (rest : List String) :
    schema.cut found arg rest = f.cutSpelled index found arg rest := by
  obtain ⟨noHelp, spelled⟩ := owns_iff.mp owns
  simp [cut, noHelp, spelled]

theorem cut_of_isWord {arg : String} {f : Field α} {index : Nat} {found : List (Group β)}
    (word : schema.IsWord arg)
    (next : schema.positionals[schema.wordCount found]? = some (f, index)) (rest : List String) :
    schema.cut found arg rest = f.cutWord index arg rest := by
  obtain ⟨noHelp, unspelled, noOption⟩ := isWord_iff.mp word
  simp [cut, noHelp, unspelled, noOption, next]

/-- What a single step of the reader does: it stops at help, at a dash that no field knows and at
a word that no positional field is left for, and otherwise it goes on with the field. -/
theorem cut_cases (schema : Schema α) (found : List (Group β)) (arg : String)
    (rest : List String) :
    (arg = "-h" ∨ arg = "--help") ∧ schema.cut found arg rest = .error .help ∨
    (∃ f index, schema.Owns arg f index ∧
      schema.cut found arg rest = f.cutSpelled index found arg rest) ∨
    ((arg ≠ "-h" ∧ arg ≠ "--help") ∧ (∀ f ∈ schema.fields, ¬ f.Spells arg) ∧
      (arg.startsWith '-' = true ∧ 1 < arg.utf8ByteSize) ∧
      schema.cut found arg rest = .error (.misuse (.notAnOption arg))) ∨
    schema.IsWord arg ∧
      ((∃ f index, schema.positionals[schema.wordCount found]? = some (f, index) ∧
          schema.cut found arg rest = f.cutWord index arg rest) ∨
        schema.positionals[schema.wordCount found]? = none ∧
          schema.cut found arg rest = .error (.misuse (.unexpectedArgument arg))) := by
  cases help : isHelp arg with
  | true => exact .inl ⟨isHelp_iff.mp help, by simp [cut, help]⟩
  | false =>
  cases spelled : schema.spelled? arg with
  | some found =>
    obtain ⟨f, index⟩ := found
    have owns := owns_iff.mpr ⟨help, spelled⟩
    exact .inr (.inl ⟨f, index, owns, cut_of_owns owns _ rest⟩)
  | none =>
  cases looks : looksLikeOption arg with
  | true =>
    exact .inr (.inr (.inl ⟨isHelp_eq_false_iff.mp help, spelled?_eq_none_iff.mp spelled,
      looksLikeOption_iff.mp looks, by simp [cut, help, spelled, looks]⟩))
  | false =>
  have word := isWord_iff.mpr ⟨help, spelled, looks⟩
  refine .inr (.inr (.inr ⟨word, ?_⟩))
  cases next : schema.positionals[schema.wordCount found]? with
  | some field => exact .inl ⟨field.1, field.2, rfl, cut_of_isWord word next rest⟩
  | none => exact .inr ⟨rfl, by simp [cut, help, spelled, looks, next]⟩

/-- An argument that starts a group belongs to a field, or it is a word and a positional field
is left for it. -/
theorem cut_eq_ok {found : List (Group β)} {arg : String} {rest left : List String}
    {g : Group β} (cuts : schema.cut found arg rest = .ok (g, left)) :
    (∃ f index, schema.Owns arg f index ∧ f.cutSpelled index found arg rest = .ok (g, left)) ∨
    ∃ f index, schema.IsWord arg ∧
      schema.positionals[schema.wordCount found]? = some (f, index) ∧
      f.cutWord index arg rest = .ok (g, left) := by
  rcases cut_cases schema found arg rest with ⟨-, stops⟩ | ⟨f, index, owns, goesOn⟩ |
    ⟨-, -, -, stops⟩ | ⟨word, ⟨f, index, next, goesOn⟩ | ⟨-, stops⟩⟩
  · rw [cuts] at stops
    cases stops
  · exact .inl ⟨f, index, owns, goesOn.symm.trans cuts⟩
  · rw [cuts] at stops
    cases stops
  · exact .inr ⟨f, index, word, next, goesOn.symm.trans cuts⟩
  · rw [cuts] at stops
    cases stops

theorem givesOption_of_cutSpelled {found : List (Group β)} {arg : String} {f : Field α}
    {index : Nat} {rest left : List String} {g : Group β} (owns : schema.Owns arg f index)
    (cuts : f.cutSpelled index found arg rest = .ok (g, left)) :
    schema.GivesOption g ∧ isGiven found g.field = false := by
  unfold Field.cutSpelled at cuts
  split at cuts
  · cases cuts
  next fresh =>
  rw [Bool.not_eq_true] at fresh
  rcases role_of_owns owns with ⟨spellings, role⟩ | ⟨spellings, content, role⟩
  · rw [role] at cuts
    cases cuts
    exact ⟨.flag owns role, fresh⟩
  · rw [role] at cuts
    cases rest with
    | nil => cases cuts
    | cons text rest =>
      simp only [Role.content?, Field.cutValue] at cuts
      split at cuts
      · cases cuts
      next noDash =>
      rw [isDashed_eq_startsWith, Bool.not_eq_true] at noDash
      split at cuts
      · next value read =>
        cases cuts
        exact ⟨.option owns role noDash read, fresh⟩
      · cases cuts

theorem cut_givesOption {found : List (Group β)} {arg : String} {rest left : List String}
    {g : Group β} (gives : schema.GivesOption g) (fresh : isGiven found g.field = false)
    (parts : g.args ++ left = arg :: rest) : schema.cut found arg rest = .ok (g, left) := by
  cases gives with
  | flag owns role =>
    cases parts
    rw [cut_of_owns owns]
    simp [Field.cutSpelled, fresh, role, Role.content?]
  | option owns role noDash read =>
    cases parts
    rw [cut_of_owns owns]
    simp [Field.cutSpelled, fresh, role, Role.content?, Field.cutValue, isDashed_eq_startsWith,
      noDash, read]

theorem givesWord_of_cutWord {count : Nat} {arg : String} {f : Field α} {index : Nat}
    {rest left : List String} {g : Group β} (word : schema.IsWord arg)
    (next : schema.positionals[count]? = some (f, index))
    (cuts : f.cutWord index arg rest = .ok (g, left)) : schema.GivesWord count g := by
  obtain ⟨-, content, role⟩ := getElem?_of_positional next
  unfold Field.cutWord at cuts
  split at cuts
  · next value read =>
    rw [role] at read
    cases cuts
    exact .word word (positionalAt_iff.mpr next) role read
  · cases cuts

theorem cut_givesWord {found : List (Group β)} {arg : String} {rest left : List String}
    {g : Group β} (gives : schema.GivesWord (schema.wordCount found) g)
    (parts : g.args ++ left = arg :: rest) : schema.cut found arg rest = .ok (g, left) := by
  cases gives with
  | word word next role read =>
    cases parts
    rw [cut_of_isWord word (positionalAt_iff.mp next)]
    simp [Field.cutWord, role, Role.content?, read]

/-- One group is cut off when it gives an option that was not given before, or the next
positional field, and in no other case. -/
theorem cut_eq_ok_iff {found : List (Group β)} {arg : String} {rest left : List String}
    {g : Group β} :
    schema.cut found arg rest = .ok (g, left) ↔
      g.args ++ left = arg :: rest ∧
      ((schema.GivesOption g ∧ isGiven found g.field = false) ∨
        schema.GivesWord (schema.wordCount found) g) := by
  constructor
  · intro cuts
    obtain ⟨more, parts, behind⟩ := args_cut cuts
    refine ⟨by rw [parts, List.cons_append, behind], ?_⟩
    rcases cut_eq_ok cuts with ⟨f, index, owns, spelled⟩ | ⟨f, index, word, next, spelled⟩
    · exact .inl (givesOption_of_cutSpelled owns spelled)
    · exact .inr (givesWord_of_cutWord word next spelled)
  · rintro ⟨parts, ⟨gives, fresh⟩ | gives⟩
    · exact cut_givesOption gives fresh parts
    · exact cut_givesWord gives parts

/-! ## Which field a group gives -/

theorem isOption_of_givesOption {g : Group β} (gives : schema.GivesOption g) :
    schema.IsOption g.field := by
  cases gives with
  | flag owns role => exact ⟨_, owns.declared, by rw [Field.isPositional, role]; rfl⟩
  | option owns role _ _ => exact ⟨_, owns.declared, by rw [Field.isPositional, role]; rfl⟩

theorem any_positional_of_givesWord {count : Nat} {g : Group β}
    (gives : schema.GivesWord count g) :
    (schema.positionals.any fun f => f.2 == g.field) = true := by
  cases gives with
  | word _ next _ _ =>
    have member := List.mem_of_getElem? (positionalAt_iff.mp next)
    exact List.any_eq_true.mpr ⟨_, member, beq_self_eq_true _⟩

theorem not_isOption_of_givesWord {count : Nat} {g : Group β}
    (gives : schema.GivesWord count g) : ¬ schema.IsOption g.field := by
  intro option
  have word := any_positional_of_givesWord gives
  rw [any_positional_of_isOption option] at word
  cases word

theorem wordCount_append_option {g : Group β} (gives : schema.GivesOption g)
    (found : List (Group β)) : schema.wordCount (found ++ [g]) = schema.wordCount found := by
  simp [wordCount, any_positional_of_isOption (isOption_of_givesOption gives)]

theorem wordCount_append_word {count : Nat} {g : Group β} (gives : schema.GivesWord count g)
    (found : List (Group β)) : schema.wordCount (found ++ [g]) = schema.wordCount found + 1 := by
  simp [wordCount, any_positional_of_givesWord gives]

theorem args_ne_nil {count : Nat} {g : Group β}
    (gives : schema.GivesOption g ∨ schema.GivesWord count g) : g.args ≠ [] := by
  rcases gives with option | word
  · cases option <;> exact List.cons_ne_nil _ _
  · cases word
    exact List.cons_ne_nil _ _

/-! ## All groups -/

/-- Groups at the beginning of the arguments, behind those found before, and the arguments that
are left. The groups are in order, and none of them gives an option again. -/
structure Continues (schema : Schema α) (found : List (Group β)) (args : List String)
    (groups : List (Group β)) (left : List String) : Prop where
  parts : groups.flatMap Group.args ++ left = args
  inOrder : schema.InOrder (schema.wordCount found) groups
  fresh : schema.Fresh found groups
  once : schema.Once groups

/-- No further group can be cut off. -/
def Stuck (schema : Schema α) (found : List (Group β)) (left : List String) : Prop :=
  ∀ arg rest, left = arg :: rest → ∃ stop, schema.cut found arg rest = .error stop

theorem continues_nil {found : List (Group β)} {args left : List String} :
    schema.Continues found args [] left ↔ left = args := by
  constructor
  · intro run
    exact run.parts
  · rintro rfl
    exact ⟨rfl, .done, List.forall_mem_nil _, .nil⟩

/-- A run of groups is the group that is cut off first, and a run behind it. -/
theorem continues_cons {found groups : List (Group β)} {args left : List String} {g : Group β} :
    schema.Continues found args (g :: groups) left ↔
      ∃ arg rest middle, args = arg :: rest ∧ schema.cut found arg rest = .ok (g, middle) ∧
        schema.Continues (found ++ [g]) middle groups left := by
  constructor
  · rintro ⟨parts, inOrder, fresh, once⟩
    obtain ⟨new, fresh, once⟩ := fresh_once_cons.mp ⟨fresh, once⟩
    obtain ⟨gives, later⟩ : ((schema.GivesOption g ∧ isGiven found g.field = false) ∨
        schema.GivesWord (schema.wordCount found) g) ∧
        schema.InOrder (schema.wordCount (found ++ [g])) groups := by
      -- Only a word moves the count that the later groups start from.
      cases inOrder with
      | option option later =>
        rw [wordCount_append_option option]
        exact ⟨.inl ⟨option, new (isOption_of_givesOption option)⟩, later⟩
      | word word later =>
        rw [wordCount_append_word word]
        exact ⟨.inr word, later⟩
    obtain ⟨arg, more, starts⟩ := List.exists_cons_of_ne_nil (args_ne_nil (gives.imp_left And.left))
    rw [List.flatMap_cons, List.append_assoc, starts, List.cons_append] at parts
    have cuts : schema.cut found arg (more ++ (groups.flatMap Group.args ++ left))
        = .ok (g, groups.flatMap Group.args ++ left) :=
      cut_eq_ok_iff.mpr ⟨by rw [starts, List.cons_append], gives⟩
    exact ⟨arg, _, _, parts.symm, cuts, rfl, later, fresh, once⟩
  · rintro ⟨arg, rest, middle, rfl, cuts, parts, later, fresh, once⟩
    obtain ⟨behind, gives⟩ := cut_eq_ok_iff.mp cuts
    have new : schema.IsOption g.field → isGiven found g.field = false := by
      intro isOption
      rcases gives with ⟨-, new⟩ | word
      · exact new
      · exact absurd isOption (not_isOption_of_givesWord word)
    have inOrder : schema.InOrder (schema.wordCount found) (g :: groups) := by
      rcases gives with ⟨option, -⟩ | word
      · exact .option option (wordCount_append_option option found ▸ later)
      · exact .word word (wordCount_append_word word found ▸ later)
    obtain ⟨fresh, once⟩ := fresh_once_cons.mpr ⟨new, fresh, once⟩
    exact ⟨by rw [List.flatMap_cons, List.append_assoc, parts, behind], inOrder, fresh, once⟩

theorem cutAll_of_cut {found : List (Group β)} {arg : String} {rest left : List String}
    {g : Group β} (cuts : schema.cut found arg rest = .ok (g, left)) :
    schema.cutAll found (arg :: rest) = schema.cutAll (found ++ [g]) left := by
  rw [cutAll]
  split
  · next other => rw [cuts] at other; cases other; rfl
  · next other => rw [cuts] at other; cases other

theorem cutAll_of_cut_error {found : List (Group β)} {arg : String} {rest : List String}
    {stop : Stop} (cuts : schema.cut found arg rest = .error stop) :
    schema.cutAll found (arg :: rest) = .error stop := by
  rw [cutAll]
  split
  · next other => rw [cuts] at other; cases other
  · next other => rw [cuts] at other; cases other; rfl

/-- The groups of a run are cut off one by one. -/
theorem cutAll_of_continues {found groups : List (Group β)} {args left : List String}
    (run : schema.Continues found args groups left) :
    schema.cutAll found args = schema.cutAll (found ++ groups) left := by
  induction groups generalizing found args with
  | nil => rw [continues_nil.mp run, List.append_nil]
  | cons g groups ih =>
    obtain ⟨arg, rest, middle, rfl, cuts, later⟩ := continues_cons.mp run
    rw [cutAll_of_cut cuts, ih later, List.append_assoc, List.singleton_append]

/-- There is a run behind which no group can be cut off. -/
theorem exists_continues_stuck (schema : Schema α) (found : List (Group β)) (args : List String) :
    ∃ groups left, schema.Continues found args groups left ∧
      schema.Stuck (found ++ groups) left := by
  fun_induction cutAll schema found args with
  | case1 found =>
    refine ⟨[], [], continues_nil.mpr rfl, ?_⟩
    rintro arg rest ⟨⟩
  | case2 found arg rest g middle cuts ih =>
    obtain ⟨groups, left, run, stuck⟩ := ih
    rw [List.append_assoc, List.singleton_append] at stuck
    exact ⟨g :: groups, left, continues_cons.mpr ⟨arg, rest, middle, rfl, cuts, run⟩, stuck⟩
  | case3 found arg rest stop cuts =>
    refine ⟨[], arg :: rest, continues_nil.mpr rfl, ?_⟩
    rintro _ _ ⟨⟩
    exact ⟨stop, by rwa [List.append_nil]⟩

/-- The arguments are cut into groups in order that give no option twice, and in no other
way. -/
theorem cutAll_eq_ok_iff {args : List String} {groups : List (Group β)} :
    schema.cutAll [] args = .ok groups ↔
      groups.flatMap Group.args = args ∧ schema.InOrder 0 groups ∧ schema.Once groups := by
  constructor
  · intro cuts
    obtain ⟨found, left, run, stuck⟩ := exists_continues_stuck schema [] args
    rw [cutAll_of_continues run, List.nil_append] at cuts
    cases left with
    | nil =>
      rw [cutAll] at cuts
      cases cuts
      exact ⟨by rw [← run.parts, List.append_nil], run.inOrder, run.once⟩
    | cons arg rest =>
      obtain ⟨stop, fails⟩ := stuck arg rest rfl
      rw [List.nil_append] at fails
      rw [cutAll_of_cut_error fails] at cuts
      cases cuts
  · rintro ⟨rfl, inOrder, once⟩
    have run : schema.Continues [] (groups.flatMap Group.args) groups [] :=
      ⟨List.append_nil _, inOrder, fun _ _ _ => rfl, once⟩
    rw [cutAll_of_continues run, cutAll, List.nil_append]

/-! ## Every group gives its own field -/

theorem declared_of_inOrder {count : Nat} {groups : List (Group β)}
    (inOrder : schema.InOrder count groups) {g : Group β} (member : g ∈ groups) :
    schema.IsOption g.field ∨ ∃ k ≥ count, ∃ f, schema.positionals[k]? = some (f, g.field) := by
  induction inOrder with
  | done => cases member
  | option gives _ ih =>
    rcases List.mem_cons.mp member with rfl | later
    · exact .inl (isOption_of_givesOption gives)
    · exact ih later
  | @word count _ _ gives _ ih =>
    rcases List.mem_cons.mp member with rfl | later
    · cases gives with
      | word _ next _ _ => exact .inr ⟨count, Nat.le_refl count, _, positionalAt_iff.mp next⟩
    · rcases ih later with option | ⟨k, behind, f, next⟩
      · exact .inl option
      · exact .inr ⟨k, Nat.le_of_succ_le behind, f, next⟩

/-- Groups in order give different fields: the options since none is given twice, and the
positional fields since the words are counted. -/
theorem nodup_field_of_inOrder {count : Nat} {groups : List (Group β)}
    (inOrder : schema.InOrder count groups) (once : schema.Once groups) :
    (groups.map Group.field).Nodup := by
  refine List.pairwise_map.mpr ?_
  induction inOrder with
  | done => exact .nil
  | option gives _ ih =>
    obtain ⟨apart, once⟩ := List.pairwise_cons.mp once
    refine List.pairwise_cons.mpr ⟨fun h member => ?_, ih once⟩
    exact apart h member (isOption_of_givesOption gives)
  | @word count g groups gives later ih =>
    obtain ⟨-, once⟩ := List.pairwise_cons.mp once
    refine List.pairwise_cons.mpr ⟨fun h member same => ?_, ih once⟩
    -- A later word is counted further on, and a positional field has one count only.
    rcases declared_of_inOrder later member with option | ⟨k, behind, f, second⟩
    · exact not_isOption_of_givesWord gives (same ▸ option)
    · cases gives with
      | word _ next _ _ =>
        rw [← same] at second
        have place := eq_of_positional (positionalAt_iff.mp next) second
        omega

theorem exists_field_of_inOrder {count : Nat} {groups : List (Group β)}
    (inOrder : schema.InOrder count groups) {g : Group β} (member : g ∈ groups) :
    ∃ f, schema.fields[g.field]? = some f := by
  rcases declared_of_inOrder inOrder member with ⟨f, declared, -⟩ | ⟨k, -, f, next⟩
  · exact ⟨f, declared⟩
  · exact ⟨f, (getElem?_of_positional next).1⟩

/-! ## Values -/

theorem find?_of_nodup {groups : List (Group β)} (nodup : (groups.map Group.field).Nodup)
    {g : Group β} (member : g ∈ groups) : groups.find? (·.field == g.field) = some g := by
  have some_group : (groups.find? (·.field == g.field)).isSome = true :=
    List.find?_isSome.mpr ⟨g, member, by rw [beq_iff_eq]⟩
  obtain ⟨h, found⟩ := Option.isSome_iff_exists.mp some_group
  have same : h.field = g.field := by simpa using List.find?_some found
  rw [found, List.inj_on_of_nodup_map nodup (List.mem_of_find?_eq_some found) member same]

theorem holds_values {groups : List (Group β)} (inOrder : schema.InOrder 0 groups)
    (once : schema.Once groups) : schema.Holds groups (schema.values groups) where
  length := by simp [values, indexed]
  given g member := by
    obtain ⟨f, declared⟩ := exists_field_of_inOrder inOrder member
    have found := find?_of_nodup (nodup_field_of_inOrder inOrder once) member
    simp [values, indexed, declared, found]
  absent index f declared others := by
    have found : groups.find? (·.field == index) = none := by
      refine List.find?_eq_none.mpr fun g member => ?_
      rw [beq_iff_eq]
      exact others g member
    refine ⟨f.absentValue, ?_, Field.absentValue_eq_iff.mp rfl⟩
    simp [values, indexed, declared, found]

/-! ## Outcome -/

theorem accepts_iff {args : List String} {groups : List (Group β)} :
    schema.Accepts args groups ↔
      schema.cutAll [] args = .ok groups ∧ schema.missing? groups = none := by
  rw [cutAll_eq_ok_iff, missing?_eq_none_iff]
  constructor
  · intro accepts
    exact ⟨⟨accepts.parts, accepts.inOrder, accepts.once⟩, accepts.required⟩
  · rintro ⟨⟨parts, inOrder, once⟩, required⟩
    exact ⟨parts, inOrder, once, required⟩

theorem read_of_accepts {args : List String} {groups : List (Group β)}
    (accepts : schema.Accepts args groups) :
    schema.read args = .accepted (schema.values groups) := by
  obtain ⟨cuts, complete⟩ := accepts_iff.mp accepts
  simp [read, cuts, complete]

theorem exists_accepts_of_read {args : List String} {values : List (Option β)}
    (accepted : schema.read args = .accepted values) : ∃ groups, schema.Accepts args groups := by
  unfold read at accepted
  split at accepted
  · cases accepted
  · cases accepted
  next groups cuts =>
  split at accepted
  · cases accepted
  · next complete => exact ⟨groups, accepts_iff.mpr ⟨cuts, complete⟩⟩

/-- A list of arguments is accepted exactly when it can be cut into groups of the schema that
give no option twice and every required field. There is one such cut then, and the values are
those of its groups. -/
theorem read_accepted_iff_cut (schema : Schema α) (args : List String) :
    ((∃ values, schema.read args = .accepted values) ↔ ∃ groups, schema.Accepts args groups) ∧
    (∀ groups other, schema.Accepts args groups → schema.Accepts args other → groups = other) ∧
    ∀ values groups, schema.read args = .accepted values → schema.Accepts args groups →
      schema.Holds groups values := by
  refine ⟨⟨?_, ?_⟩, ?_, ?_⟩
  · rintro ⟨values, accepted⟩
    exact exists_accepts_of_read accepted
  · rintro ⟨groups, accepts⟩
    exact ⟨schema.values groups, read_of_accepts accepts⟩
  · intro groups other first second
    have same := (accepts_iff.mp first).1.symm.trans (accepts_iff.mp second).1
    exact Except.ok.inj same
  · intro values groups accepted accepts
    rw [read_of_accepts accepts] at accepted
    cases accepted
    exact holds_values accepts.inOrder accepts.once

/-- Fields of every kind. -/
def copySchema : Schema ValueType :=
  ⟨"copy", "", [
    ⟨"source", "", true, .positional ⟨.string, false⟩⟩,
    ⟨"keep", "", false, .flag (.short ⟨"-k", by decide⟩)⟩,
    ⟨"force", "", false, .flag (.short ⟨"-f", by decide⟩)⟩,
    ⟨"count", "", false, .option (.short ⟨"-n", by decide⟩) ⟨.integer ⟨false, .w8⟩, false⟩⟩,
    ⟨"scale", "", false, .option (.long ⟨"--scale", by decide⟩) ⟨.float, false⟩⟩,
    ⟨"mark", "", false, .option (.long ⟨"--mark", by decide⟩) ⟨.char, false⟩⟩,
    ⟨"strict", "", false, .option (.long ⟨"--strict", by decide⟩) ⟨.bool, true⟩⟩,
    ⟨"target", "", false, .positional ⟨.string, false⟩⟩]⟩

/-- A dash alone is the source, and most fields are left out. -/
theorem read_accepted_iff_cut_leftOut :
    copySchema.read ["-k", "-"]
      = .accepted [some (.string "-"), some (.bool true), some (.bool false), some (.integer 0),
          some (.float ⟨0⟩), some (.char '\x00'), none, some (.string "")] ∧
    copySchema.Accepts ["-k", "-"] [⟨["-k"], 1, .bool true⟩, ⟨["-"], 0, .string "-"⟩] ∧
    copySchema.Holds [⟨["-k"], 1, .bool true⟩, ⟨["-"], 0, .string "-"⟩]
      [some (.string "-"), some (.bool true), some (.bool false), some (.integer 0),
        some (.float ⟨0⟩), some (.char '\x00'), none, some (.string "")] := by
  have accepted : copySchema.read ["-k", "-"]
      = .accepted [some (.string "-"), some (.bool true), some (.bool false), some (.integer 0),
          some (.float ⟨0⟩), some (.char '\x00'), none, some (.string "")] := by
    decide +kernel
  have accepts : copySchema.Accepts ["-k", "-"] [⟨["-k"], 1, .bool true⟩, ⟨["-"], 0, .string "-"⟩] :=
    accepts_iff.mpr ⟨by decide +kernel, by decide +kernel⟩
  obtain ⟨-, -, holds⟩ := read_accepted_iff_cut copySchema ["-k", "-"]
  exact ⟨accepted, accepts, holds _ _ accepted accepts⟩

end Schema
end Options
end ScriptScan
