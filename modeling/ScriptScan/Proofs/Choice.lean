import ScriptScan.Proofs.FirstProblem

/-!
# Choosing the fields to give

Which fields can an accepted list of arguments give, and which can it leave out? Options may be
chosen freely, as long as each has a spelling of its own, and of the positional fields any number
from the first one on. A list of arguments that makes such a choice is put together here.

* `exists_groups_of_choice`: the groups of a choice, in order and with no option twice.
* `exists_accepts_of_choice`: they are accepted when the choice has all required fields in it.
* `exists_value`: every type of argument has a value whose text does not start with a dash.
* `WellSpelled`: a schema whose spellings can be told apart from each other, from help and from
  words. All of its options may be chosen, and words for any number of its positional fields, so
  the required fields alone decide what can be left out (`canOmit_option_iff`,
  `canOmit_positional_iff`).
-/

namespace ScriptScan
namespace Options

/-! ## Values -/

theorem exists_read_integer (t : IntegerType) : ∃ value, t.read? ['0'] = some value := by
  refine ⟨0, ?_⟩
  rcases t with ⟨signed, width⟩
  cases signed <;> cases width <;> decide +kernel

/-- Every type has a value that can stand behind a spelling, and where a word stands. -/
theorem exists_value (type : ValueType) :
    ∃ text value, text.startsWith '-' = false ∧ ArgumentType.read? type text = some value := by
  cases type with
  | bool => exact ⟨"true", .bool true, by decide +kernel, rfl⟩
  | string => exact ⟨"", .string "", by decide +kernel, rfl⟩
  | char => exact ⟨"x", .char 'x', by decide +kernel, rfl⟩
  | float =>
    have zero : (Binary64.ofText? ['0']).isSome = true := by decide +kernel
    obtain ⟨value, read⟩ := Option.isSome_iff_exists.mp zero
    exact ⟨"0", .float value, by decide +kernel, congrArg (Option.map Value.float) read⟩
  | integer t =>
    obtain ⟨value, read⟩ := exists_read_integer t
    exact ⟨"0", .integer value, by decide +kernel, congrArg (Option.map Value.integer) read⟩

namespace Schema

variable {α β : Type} {schema : Schema α} [ArgumentType α β]

/-! ## Fields of accepted arguments -/

/-- Some accepted list of arguments gives the field at the place. -/
def CanGive (schema : Schema α) (index : Nat) : Prop :=
  ∃ args groups, (∃ values, schema.read args = .accepted values) ∧
    schema.cutAll [] args = .ok groups ∧ isGiven groups index = true

/-- Some accepted list of arguments leaves the field at the place out. -/
def CanOmit (schema : Schema α) (index : Nat) : Prop :=
  ∃ args groups, (∃ values, schema.read args = .accepted values) ∧
    schema.cutAll [] args = .ok groups ∧ isGiven groups index = false

theorem accepts_iff_read {args : List String} {groups : List (Group β)} :
    schema.Accepts args groups ↔
      (∃ values, schema.read args = .accepted values) ∧ schema.cutAll [] args = .ok groups := by
  constructor
  · intro accepts
    exact ⟨⟨_, read_of_accepts accepts⟩, (accepts_iff.mp accepts).1⟩
  · rintro ⟨⟨values, accepted⟩, cuts⟩
    obtain ⟨other, accepts⟩ := exists_accepts_of_read accepted
    cases (accepts_iff.mp accepts).1.symm.trans cuts
    exact accepts

theorem canGive_iff {index : Nat} :
    schema.CanGive index ↔
      ∃ args groups, schema.Accepts args groups ∧ isGiven groups index = true := by
  simp only [CanGive, accepts_iff_read, and_assoc]

theorem canOmit_iff {index : Nat} :
    schema.CanOmit index ↔
      ∃ args groups, schema.Accepts args groups ∧ isGiven groups index = false := by
  simp only [CanOmit, accepts_iff_read, and_assoc]

/-! ## Groups of a choice -/

/-- The places of the options, in the order of declaration. -/
def optionPlaces (schema : Schema α) : List Nat :=
  (schema.indexed.filter fun f => !f.1.isPositional).map Prod.snd

omit [ArgumentType α β] in
theorem mem_optionPlaces {index : Nat} : index ∈ schema.optionPlaces ↔ schema.IsOption index := by
  simp only [optionPlaces, List.mem_map, List.mem_filter, Bool.not_eq_true', Prod.exists,
    exists_eq_right, mem_indexed_iff, IsOption]

omit [ArgumentType α β] in
theorem nodup_optionPlaces (schema : Schema α) : schema.optionPlaces.Nodup := by
  refine List.Nodup.sublist (List.filter_sublist.map Prod.snd) ?_
  rw [indexed, List.zipIdx_map_snd]
  exact List.nodup_range'

omit [ArgumentType α β] in
theorem exists_place_of_positional {f : Field α} {index : Nat}
    (declared : schema.fields[index]? = some f) (positional : f.isPositional = true) :
    ∃ k : Nat, schema.positionals[k]? = some (f, index) :=
  List.mem_iff_getElem?.mp (List.mem_filter.mpr ⟨mem_indexed_iff.mpr declared, positional⟩)

theorem wordCount_cons_word {count : Nat} {g : Group β} (gives : schema.GivesWord count g)
    (groups : List (Group β)) : schema.wordCount (g :: groups) = schema.wordCount groups + 1 := by
  simp [wordCount, any_positional_of_givesWord gives]

theorem wordCount_cons_option {g : Group β} (gives : schema.GivesOption g)
    (groups : List (Group β)) : schema.wordCount (g :: groups) = schema.wordCount groups := by
  simp [wordCount, any_positional_of_isOption (isOption_of_givesOption gives)]

theorem exists_words {start count : Nat}
    (words : ∀ k, start ≤ k → k < start + count → ∃ g, schema.GivesWord k g) :
    ∃ groups, schema.InOrder start groups ∧ (∀ g ∈ groups, ¬ schema.IsOption g.field) ∧
      schema.wordCount groups = count := by
  induction count generalizing start with
  | zero => exact ⟨[], .done, List.forall_mem_nil _, rfl⟩
  | succ count ih =>
    obtain ⟨g, gives⟩ := words start (Nat.le_refl start) (by omega)
    obtain ⟨groups, inOrder, noOption, size⟩ :=
      @ih (start + 1) fun k above below => words k (by omega) (by omega)
    refine ⟨g :: groups, .word gives inOrder, ?_, ?_⟩
    · exact List.forall_mem_cons.mpr ⟨not_isOption_of_givesWord gives, noOption⟩
    · rw [wordCount_cons_word gives, size]

/-- Options that can be given, each once, and as many words as there are positional fields to
give. -/
theorem exists_groups_of_choice {chosen : List Nat} {count : Nat} (distinct : chosen.Nodup)
    (options : ∀ index ∈ chosen, ∃ g, schema.GivesOption g ∧ g.field = index)
    (words : ∀ k < count, ∃ g, schema.GivesWord k g) :
    ∃ groups, schema.InOrder 0 groups ∧ schema.Once groups ∧ schema.wordCount groups = count ∧
      ∀ index, schema.IsOption index → (isGiven groups index = true ↔ index ∈ chosen) := by
  -- The options come first, one by one, and the words behind all of them.
  induction chosen with
  | nil =>
    obtain ⟨groups, inOrder, noOption, size⟩ :=
      @exists_words α β schema _ 0 count fun k _ below => words k (by omega)
    refine ⟨groups, inOrder, ?_, size, fun index option => ?_⟩
    · exact List.pairwise_of_forall_mem_list fun g member _ _ option =>
        absurd option (noOption g member)
    · refine iff_of_false (fun given => ?_) List.not_mem_nil
      obtain ⟨g, member, same⟩ := List.any_eq_true.mp given
      exact noOption g member (beq_iff_eq.mp same ▸ option)
  | cons first chosen ih =>
    obtain ⟨new, distinct⟩ := List.nodup_cons.mp distinct
    obtain ⟨⟨g, gives, here⟩, options⟩ := List.forall_mem_cons.mp options
    obtain ⟨groups, inOrder, once, size, given⟩ := ih distinct options
    refine ⟨g :: groups, .option gives inOrder, ?_, ?_, fun index option => ?_⟩
    · refine List.pairwise_cons.mpr ⟨fun h member option same => new ?_, once⟩
      rw [here] at option same
      have found : isGiven groups first = true :=
        List.any_eq_true.mpr ⟨h, member, beq_iff_eq.mpr same.symm⟩
      exact (given first option).mp found
    · rw [wordCount_cons_option gives, size]
    · rw [isGiven_cons, Bool.or_eq_true, given index option, beq_iff_eq, here, List.mem_cons,
        eq_comm]

/-- A choice that has all required fields in it is accepted. -/
theorem exists_accepts_of_choice {chosen : Nat → Bool} {count : Nat}
    (options : ∀ index, schema.IsOption index → chosen index = true →
      ∃ g, schema.GivesOption g ∧ g.field = index)
    (words : ∀ k < count, ∃ g, schema.GivesWord k g)
    (requiredOptions : ∀ index f, schema.fields[index]? = some f → f.isPositional = false →
      f.required = true → chosen index = true)
    (requiredWords : ∀ k f index, schema.positionals[k]? = some (f, index) → f.required = true →
      k < count) :
    ∃ args groups, schema.Accepts args groups ∧
      (∀ index, schema.IsOption index → (isGiven groups index = true ↔ chosen index = true)) ∧
      ∀ k f index, schema.positionals[k]? = some (f, index) →
        (isGiven groups index = true ↔ k < count) := by
  have distinct := (nodup_optionPlaces schema).filter chosen
  have gives : ∀ index ∈ schema.optionPlaces.filter chosen,
      ∃ g, schema.GivesOption g ∧ g.field = index := by
    intro index member
    obtain ⟨place, wanted⟩ := List.mem_filter.mp member
    exact options index (mem_optionPlaces.mp place) wanted
  obtain ⟨groups, inOrder, once, size, given⟩ := exists_groups_of_choice distinct gives words
  have options_given : ∀ index, schema.IsOption index →
      (isGiven groups index = true ↔ chosen index = true) := by
    intro index option
    rw [given index option, List.mem_filter]
    exact and_iff_right (mem_optionPlaces.mpr option)
  have words_given : ∀ k f index, schema.positionals[k]? = some (f, index) →
      (isGiven groups index = true ↔ k < count) := by
    intro k f index there
    rw [isGiven_positional_iff inOrder there, size]
    omega
  refine ⟨_, groups, ⟨rfl, inOrder, once, fun index f declared needed => ?_⟩, options_given,
    words_given⟩
  have found : isGiven groups index = true := by
    cases positional : f.isPositional with
    | false =>
      exact (options_given index ⟨f, declared, positional⟩).mpr
        (requiredOptions index f declared positional needed)
    | true =>
      obtain ⟨k, there⟩ := exists_place_of_positional declared positional
      exact (words_given k f index there).mpr (requiredWords k f index there needed)
  simpa [isGiven] using found

/-! ## What groups in order give -/

theorem gives_of_mem {count : Nat} {groups : List (Group β)}
    (inOrder : schema.InOrder count groups) {g : Group β} (member : g ∈ groups) :
    schema.GivesOption g ∨ ∃ k, schema.GivesWord k g := by
  induction inOrder with
  | done => cases member
  | option gives _ ih =>
    rcases List.mem_cons.mp member with rfl | later
    · exact .inl gives
    · exact ih later
  | word gives _ ih =>
    rcases List.mem_cons.mp member with rfl | later
    · exact .inr ⟨_, gives⟩
    · exact ih later

theorem exists_givesOption_of_given {count index : Nat} {groups : List (Group β)}
    (inOrder : schema.InOrder count groups) (option : schema.IsOption index)
    (given : isGiven groups index = true) :
    ∃ g ∈ groups, schema.GivesOption g ∧ g.field = index := by
  obtain ⟨g, member, same⟩ := List.any_eq_true.mp given
  rw [beq_iff_eq] at same
  rcases gives_of_mem inOrder member with gives | ⟨k, gives⟩
  · exact ⟨g, member, gives, same⟩
  · exact absurd (same ▸ option) (not_isOption_of_givesWord gives)

theorem exists_givesWord_of_given {count k index : Nat} {groups : List (Group β)} {f : Field α}
    (inOrder : schema.InOrder count groups) (there : schema.positionals[k]? = some (f, index))
    (given : isGiven groups index = true) : ∃ g ∈ groups, schema.GivesWord k g := by
  obtain ⟨g, member, same⟩ := List.any_eq_true.mp given
  rw [beq_iff_eq] at same
  refine ⟨g, member, ?_⟩
  rcases gives_of_mem inOrder member with gives | ⟨j, gives⟩
  · have noWord := any_positional_of_isOption (isOption_of_givesOption gives)
    exact absurd (beq_iff_eq.mpr same.symm)
      (List.any_eq_false.mp noWord (f, index) (List.mem_of_getElem? there))
  · have place : j = k := by
      cases gives with
      | word _ next _ _ =>
        cases same
        exact eq_of_positional (positionalAt_iff.mp next) there
    exact place ▸ gives

/-! ## Required fields -/

theorem given_of_required {args : List String} {groups : List (Group β)}
    (accepts : schema.Accepts args groups) {f : Field α} {index : Nat}
    (declared : schema.fields[index]? = some f) (required : f.required = true) :
    isGiven groups index = true := by
  obtain ⟨g, member, same⟩ := accepts.required index f declared required
  exact List.any_eq_true.mpr ⟨g, member, beq_iff_eq.mpr same⟩

theorem not_canOmit_of_required {f : Field α} {index : Nat}
    (declared : schema.fields[index]? = some f) (required : f.required = true) :
    ¬ schema.CanOmit index := by
  rw [canOmit_iff]
  rintro ⟨args, groups, accepts, omitted⟩
  rw [given_of_required accepts declared required] at omitted
  cases omitted

/-- A positional field cannot be left out when a later one is required, since the words give the
positional fields one by one. -/
theorem not_required_of_canOmit {k index : Nat} {f : Field α}
    (there : schema.positionals[k]? = some (f, index)) (omits : schema.CanOmit index) :
    ∀ later ≥ k, ∀ g ∈ schema.positionals[later]?, g.1.required = false := by
  obtain ⟨args, groups, accepts, omitted⟩ := canOmit_iff.mp omits
  rintro later behind ⟨g, place⟩ next
  refine Bool.eq_false_iff.mpr fun required => ?_
  have given := given_of_required accepts (getElem?_of_positional next).1 required
  rw [isGiven_positional_iff accepts.inOrder next] at given
  rw [← Bool.not_eq_true, isGiven_positional_iff accepts.inOrder there] at omitted
  omega

end Schema

/-! ## Schemas whose spellings can be told apart -/

/-- The texts of the spellings of a field. -/
def Field.spellingTexts {α : Type} (f : Field α) : List String :=
  match f.role.spellings? with
  | none => []
  | some spellings => (spellings.short?.toList ++ spellings.long?.toList).map Spelling.text

theorem Field.spells_iff {α : Type} {f : Field α} {arg : String} :
    f.Spells arg ↔ arg ∈ f.spellingTexts := by
  rw [← isSpelled_iff_spells, isSpelled, spellingTexts]
  cases f.role.spellings? with
  | none => simp
  | some spellings =>
    cases spellings <;>
      simp [Spellings.contains, Spellings.short?, Spellings.long?, @eq_comm _ arg]

theorem Field.exists_spellingText {α : Type} {f : Field α} (option : f.isPositional = false) :
    ∃ text, text ∈ f.spellingTexts := by
  obtain ⟨spellings, spelled⟩ := exists_spellings option
  unfold spellingTexts
  rw [spelled]
  cases spellings with
  | short s => exact ⟨s.text, List.mem_singleton_self _⟩
  | long l => exact ⟨l.text, List.mem_singleton_self _⟩
  | both s l => exact ⟨s.text, List.mem_cons_self⟩

namespace Schema

variable {α : Type}

/-- The texts of all spellings, in the order of declaration. -/
def spellingTexts (schema : Schema α) : List String := schema.fields.flatMap Field.spellingTexts

/-- The spellings start with a dash, none of them asks for help, and no two are the same. -/
structure WellSpelled (schema : Schema α) : Prop where
  dashed : ∀ s ∈ schema.spellingTexts, s.startsWith '-' = true
  noHelp : ∀ s ∈ schema.spellingTexts, s ≠ "-h" ∧ s ≠ "--help"
  distinct : schema.spellingTexts.Nodup

theorem owns_of_wellSpelled {schema : Schema α} (wellSpelled : schema.WellSpelled) {f : Field α}
    {index : Nat} (declared : schema.fields[index]? = some f) {s : String}
    (spelled : s ∈ f.spellingTexts) : schema.Owns s f index where
  noHelp := wellSpelled.noHelp s (List.mem_flatMap.mpr ⟨f, List.mem_of_getElem? declared, spelled⟩)
  declared := declared
  spelled := Field.spells_iff.mpr spelled
  first before earlier g there := by
    rw [Field.spells_iff]
    intro shared
    have apart := (List.nodup_flatMap.mp wellSpelled.distinct).2
    obtain ⟨inside, rfl⟩ := List.getElem?_eq_some_iff.mp declared
    obtain ⟨insideToo, rfl⟩ := List.getElem?_eq_some_iff.mp there
    exact List.pairwise_iff_getElem.mp apart before index insideToo inside earlier shared spelled

theorem isWord_of_wellSpelled {schema : Schema α} (wellSpelled : schema.WellSpelled)
    {text : String} (noDash : text.startsWith '-' = false) : schema.IsWord text where
  noHelp := by
    constructor <;> rintro rfl <;> exact absurd noDash (by decide +kernel)
  unspelled f member := by
    rw [Field.spells_iff]
    intro spelled
    rw [wellSpelled.dashed text (List.mem_flatMap.mpr ⟨f, member, spelled⟩)] at noDash
    cases noDash
  noDash := by
    rintro ⟨dash, -⟩
    rw [noDash] at dash
    cases dash

variable {schema : Schema ValueType}

/-- A spelling of an option gives it, with a value when it takes one. -/
theorem exists_givesOption {arg : String} {f : Field ValueType} {index : Nat}
    (owns : schema.Owns arg f index) :
    ∃ g, schema.GivesOption g ∧ g.field = index := by
  rcases role_of_owns owns with ⟨spellings, role⟩ | ⟨spellings, content, role⟩
  · exact ⟨_, .flag owns role, rfl⟩
  · obtain ⟨text, value, noDash, read⟩ := exists_value content.type
    exact ⟨_, .option owns role noDash read, rfl⟩

theorem givesOption_of_wellSpelled (wellSpelled : schema.WellSpelled) {index : Nat}
    (option : schema.IsOption index) : ∃ g, schema.GivesOption g ∧ g.field = index := by
  obtain ⟨f, declared, notPositional⟩ := option
  obtain ⟨s, spelled⟩ := Field.exists_spellingText notPositional
  exact exists_givesOption (owns_of_wellSpelled wellSpelled declared spelled)

theorem givesWord_of_wellSpelled (wellSpelled : schema.WellSpelled) {k : Nat}
    (inside : k < schema.positionals.length) : ∃ g, schema.GivesWord k g := by
  have next := List.getElem?_eq_getElem inside
  obtain ⟨-, content, role⟩ := getElem?_of_positional next
  obtain ⟨text, value, noDash, read⟩ := exists_value content.type
  exact ⟨_, .word (isWord_of_wellSpelled wellSpelled noDash) (positionalAt_iff.mpr next) role read⟩

/-! ## Fields that can be given and fields that can be left out -/

/-- Where the spellings can be told apart, every field can be given. -/
theorem canGive_of_wellSpelled (wellSpelled : schema.WellSpelled) {f : Field ValueType}
    {index : Nat} (declared : schema.fields[index]? = some f) : schema.CanGive index := by
  have inside : ∀ k g place, schema.positionals[k]? = some (g, place) →
      k < schema.positionals.length := fun k g place there => (List.getElem?_eq_some_iff.mp there).1
  obtain ⟨args, groups, accepts, options_given, words_given⟩ :=
    @exists_accepts_of_choice _ _ schema _ (fun _ => true) schema.positionals.length
      (fun place option _ => givesOption_of_wellSpelled wellSpelled option)
      (fun k below => givesWord_of_wellSpelled wellSpelled below)
      (fun _ _ _ _ _ => rfl) (fun k g place there _ => inside k g place there)
  refine canGive_iff.mpr ⟨args, groups, accepts, ?_⟩
  cases positional : f.isPositional with
  | false => exact (options_given index ⟨f, declared, positional⟩).mpr rfl
  | true =>
    obtain ⟨k, there⟩ := exists_place_of_positional declared positional
    exact (words_given k f index there).mpr (inside k f index there)

/-- An option can be left out unless it is required. -/
theorem canOmit_option_iff (wellSpelled : schema.WellSpelled) {f : Field ValueType} {index : Nat}
    (declared : schema.fields[index]? = some f) (option : f.isPositional = false) :
    schema.CanOmit index ↔ f.required = false := by
  constructor
  · intro omits
    exact Bool.eq_false_iff.mpr fun required => not_canOmit_of_required declared required omits
  · intro notRequired
    have others : ∀ place g, schema.fields[place]? = some g → g.isPositional = false →
        g.required = true → (place != index) = true := by
      rintro place g there - required
      refine bne_iff_ne.mpr fun same => ?_
      cases same
      cases declared.symm.trans there
      rw [notRequired] at required
      cases required
    have all : ∀ k g place, schema.positionals[k]? = some (g, place) → g.required = true →
        k < schema.positionals.length :=
      fun k g place there _ => (List.getElem?_eq_some_iff.mp there).1
    obtain ⟨args, groups, accepts, given, -⟩ :=
      exists_accepts_of_choice (fun place there _ => givesOption_of_wellSpelled wellSpelled there)
        (fun k inside => givesWord_of_wellSpelled wellSpelled inside) others all
    refine canOmit_iff.mpr ⟨args, groups, accepts, ?_⟩
    rw [← Bool.not_eq_true, given index ⟨f, declared, option⟩, bne_self_eq_false]
    exact Bool.noConfusion

/-- And a positional field can be left out unless it or one behind it is required. -/
theorem canOmit_positional_iff (wellSpelled : schema.WellSpelled) {f : Field ValueType}
    {k index : Nat} (there : schema.positionals[k]? = some (f, index)) :
    schema.CanOmit index ↔
      ∀ later ≥ k, ∀ g ∈ schema.positionals[later]?, g.1.required = false := by
  constructor
  · exact not_required_of_canOmit there
  · intro notRequired
    have before : ∀ j g place, schema.positionals[j]? = some (g, place) → g.required = true →
        j < k := by
      intro j g place next required
      refine Nat.lt_of_not_le fun behind => ?_
      rw [notRequired j behind (g, place) next] at required
      cases required
    have inside : ∀ j < k, j < schema.positionals.length := fun j below =>
      Nat.lt_trans below (List.getElem?_eq_some_iff.mp there).1
    obtain ⟨args, groups, accepts, -, given⟩ :=
      @exists_accepts_of_choice _ _ schema _ (fun _ => true) k
        (fun place option _ => givesOption_of_wellSpelled wellSpelled option)
        (fun j below => givesWord_of_wellSpelled wellSpelled (inside j below))
        (fun _ _ _ _ _ => rfl) before
    refine canOmit_iff.mpr ⟨args, groups, accepts, ?_⟩
    rw [← Bool.not_eq_true, given k f index there]
    exact Nat.lt_irrefl k

end Schema
end Options
end ScriptScan
