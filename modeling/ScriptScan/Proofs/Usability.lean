import Mathlib.Data.Nat.Find
import ScriptScan.Options.Declaration
import ScriptScan.Proofs.Choice

/-!
# Options that can be given

A declaration is refused when one of its options has no spelling. That is not enough for every
option to be of use: a spelling may ask for help, or belong to an earlier option, and a required
field that cannot be given makes the reader refuse every list of arguments.

* `satisfiable_of_accepts` and `exists_accepts_of_satisfiable`: a schema accepts some arguments
  exactly when each required option owns a spelling, and each positional field up to the last
  required one can be given by a word.
* `every_option_usable_iff`: when each option of a schema can be given.
* `helpSpelled_unusable`: a declaration that is not refused, and a reader that refuses everything.
-/

namespace ScriptScan
namespace Options
namespace Schema

/-! ## Satisfiable schemas -/

/-- A positional field at this place or behind it is required. -/
def NeedsWord {α : Type} (schema : Schema α) (k : Nat) : Prop :=
  ∃ later ≥ k, ∃ g ∈ schema.positionals[later]?, g.1.required = true

/-- For every positional field up to the last required one there is a word that is read as a value
of it. -/
def HasWords (schema : Schema ValueType) : Prop :=
  ∀ k f index content, schema.positionals[k]? = some (f, index) →
    f.role = .positional content → schema.NeedsWord k →
    ∃ arg value, schema.IsWord arg ∧ ArgumentType.read? content.type arg = some value

/-- Every required option owns a spelling, and the positional fields that need words have them. -/
structure Satisfiable (schema : Schema ValueType) : Prop where
  options : ∀ index f, schema.fields[index]? = some f → f.isPositional = false →
    f.required = true → ∃ arg, schema.Owns arg f index
  words : schema.HasWords

variable {schema : Schema ValueType}

theorem exists_owns_of_givesOption {g : Group Value} (gives : schema.GivesOption g)
    {f : Field ValueType} (declared : schema.fields[g.field]? = some f) :
    ∃ arg, schema.Owns arg f g.field := by
  cases gives with
  | flag owns _ | option owns _ _ _ =>
    cases owns.declared.symm.trans declared
    exact ⟨_, owns⟩

/-- An option that is given owns a spelling. -/
theorem exists_owns_of_given {groups : List (Group Value)} (inOrder : schema.InOrder 0 groups)
    {f : Field ValueType} {index : Nat} (declared : schema.fields[index]? = some f)
    (option : f.isPositional = false) (given : isGiven groups index = true) :
    ∃ arg, schema.Owns arg f index := by
  obtain ⟨g, -, gives, rfl⟩ :=
    exists_givesOption_of_given inOrder ⟨f, declared, option⟩ given
  exact exists_owns_of_givesOption gives declared

theorem satisfiable_of_accepts {args : List String} {groups : List (Group Value)}
    (accepts : schema.Accepts args groups) : schema.Satisfiable where
  options index f declared option required :=
    exists_owns_of_given accepts.inOrder declared option
      (given_of_required accepts declared required)
  words k f index content there role needs := by
    obtain ⟨later, behind, ⟨g, place⟩, next, required⟩ := needs
    have lateGiven := given_of_required accepts (getElem?_of_positional next).1 required
    rw [isGiven_positional_iff accepts.inOrder next] at lateGiven
    have given : isGiven groups index = true :=
      (isGiven_positional_iff accepts.inOrder there).mpr (by omega)
    obtain ⟨h, -, gives⟩ := exists_givesWord_of_given accepts.inOrder there given
    cases gives with
    | word word found ofRole read =>
      cases there.symm.trans (positionalAt_iff.mp found)
      cases role.symm.trans ofRole
      exact ⟨_, _, word, read⟩

/-! ## Accepted arguments of satisfiable schemas -/

/-- The positional fields up to the last required one are counted. -/
theorem exists_needsWord_iff_lt {α : Type} (schema : Schema α) :
    ∃ count, ∀ k, schema.NeedsWord k ↔ k < count := by
  classical
  have some_without : ∃ k, ¬ schema.NeedsWord k := by
    refine ⟨schema.positionals.length, ?_⟩
    rintro ⟨later, behind, g, there, -⟩
    exact absurd (List.getElem?_eq_some_iff.mp there).1 (Nat.not_lt.mpr behind)
  refine ⟨Nat.find some_without, fun k => ⟨fun needs => ?_, fun below => ?_⟩⟩
  · by_contra beyond
    obtain ⟨later, behind, last⟩ := needs
    exact Nat.find_spec some_without
      ⟨later, Nat.le_trans (Nat.le_of_not_lt beyond) behind, last⟩
  · exact Classical.not_not.mp (Nat.find_min some_without below)

theorem givesWord_of_hasWords (hasWords : schema.HasWords) {k : Nat} (needs : schema.NeedsWord k) :
    ∃ g, schema.GivesWord k g := by
  have ⟨later, behind, g, last, _⟩ := needs
  have inside : k < schema.positionals.length :=
    Nat.lt_of_le_of_lt behind (List.getElem?_eq_some_iff.mp last).1
  have next := List.getElem?_eq_getElem inside
  obtain ⟨-, content, role⟩ := getElem?_of_positional next
  obtain ⟨arg, value, word, read⟩ := hasWords k _ _ content next role needs
  exact ⟨_, .word word (positionalAt_iff.mpr next) role read⟩

/-- A satisfiable schema accepts some arguments, and any options that own a spelling may be among
those that are given. -/
theorem exists_accepts_of_satisfiable (satisfiable : schema.Satisfiable) {wanted : Nat → Bool}
    (owned : ∀ index f, schema.fields[index]? = some f → f.isPositional = false →
      wanted index = true → ∃ arg, schema.Owns arg f index) :
    ∃ args groups, schema.Accepts args groups ∧
      ∀ index, schema.IsOption index → wanted index = true → isGiven groups index = true := by
  -- The wanted options and the required ones, and words up to the last required positional field.
  obtain ⟨count, needsWord_iff⟩ := exists_needsWord_iff_lt schema
  let chosen : Nat → Bool := fun index =>
    wanted index || schema.fields[index]?.any Field.required
  have options : ∀ index, schema.IsOption index → chosen index = true →
      ∃ g, schema.GivesOption g ∧ g.field = index := by
    rintro index ⟨f, declared, option⟩ reason
    have owns : ∃ arg, schema.Owns arg f index := by
      rcases Bool.or_eq_true_iff.mp reason with wants | needs
      · exact owned index f declared option wants
      · rw [declared] at needs
        exact satisfiable.options index f declared option needs
    obtain ⟨arg, owns⟩ := owns
    exact exists_givesOption owns
  have words : ∀ k < count, ∃ g, schema.GivesWord k g := fun k below =>
    givesWord_of_hasWords satisfiable.words ((needsWord_iff k).mpr below)
  have requiredOptions : ∀ index f, schema.fields[index]? = some f → f.isPositional = false →
      f.required = true → chosen index = true := by
    intro index f declared _ needed
    refine Bool.or_eq_true_iff.mpr (.inr ?_)
    rw [declared]
    exact needed
  have requiredWords : ∀ k f index, schema.positionals[k]? = some (f, index) →
      f.required = true → k < count := fun k f index there needed =>
    (needsWord_iff k).mp ⟨k, Nat.le_refl k, (f, index), there, needed⟩
  obtain ⟨args, groups, accepts, given, -⟩ :=
    exists_accepts_of_choice options words requiredOptions requiredWords
  exact ⟨args, groups, accepts, fun index option wants =>
    (given index option).mpr (Bool.or_eq_true_iff.mpr (.inl wants))⟩

theorem satisfiable_iff :
    schema.Satisfiable ↔ ∃ args groups, schema.Accepts args groups := by
  constructor
  · intro satisfiable
    obtain ⟨args, groups, accepts, -⟩ :=
      @exists_accepts_of_satisfiable schema satisfiable (fun _ => false) fun _ _ _ _ wants => by
        cases wants
    exact ⟨args, groups, accepts⟩
  · rintro ⟨args, groups, accepts⟩
    exact satisfiable_of_accepts accepts

/-! ## Usable options -/

theorem canGive_option_iff {f : Field ValueType} {index : Nat}
    (declared : schema.fields[index]? = some f) (option : f.isPositional = false) :
    schema.CanGive index ↔ schema.Satisfiable ∧ ∃ arg, schema.Owns arg f index := by
  rw [canGive_iff]
  constructor
  · rintro ⟨args, groups, accepts, given⟩
    exact ⟨satisfiable_of_accepts accepts,
      exists_owns_of_given accepts.inOrder declared option given⟩
  · rintro ⟨satisfiable, owns⟩
    obtain ⟨args, groups, accepts, given⟩ :=
      @exists_accepts_of_satisfiable schema satisfiable (· == index)
        fun place g there _ same => by
          cases beq_iff_eq.mp same
          cases there.symm.trans declared
          exact owns
    exact ⟨args, groups, accepts, given index ⟨f, declared, option⟩ (beq_self_eq_true index)⟩

/-- A schema accepts some arguments exactly when it is satisfiable, and an option can be given
exactly when, besides, it owns a spelling. So all options are of use, and not every list of
arguments is refused, exactly when each option owns a spelling and no word is missing. -/
theorem every_option_usable_iff (schema : Schema ValueType) :
    ((∃ args values, schema.read args = .accepted values) ↔ schema.Satisfiable) ∧
    (∀ index f, schema.fields[index]? = some f → f.isPositional = false →
      (schema.CanGive index ↔ schema.Satisfiable ∧ ∃ arg, schema.Owns arg f index)) ∧
    ((∃ args values, schema.read args = .accepted values) ∧
        (∀ index, schema.IsOption index → schema.CanGive index) ↔
      (∀ index f, schema.fields[index]? = some f → f.isPositional = false →
        ∃ arg, schema.Owns arg f index) ∧ schema.HasWords) := by
  have accepted : (∃ args values, schema.read args = .accepted values) ↔ schema.Satisfiable := by
    rw [satisfiable_iff]
    constructor
    · rintro ⟨args, values, accepted⟩
      exact ⟨args, exists_accepts_of_read accepted⟩
    · rintro ⟨args, groups, accepts⟩
      exact ⟨args, _, read_of_accepts accepts⟩
  refine ⟨accepted, fun index f => canGive_option_iff, ?_⟩
  rw [accepted]
  constructor
  · rintro ⟨satisfiable, usable⟩
    refine ⟨fun index f declared option => ?_, satisfiable.words⟩
    exact ((canGive_option_iff declared option).mp (usable index ⟨f, declared, option⟩)).2
  · rintro ⟨owned, hasWords⟩
    have satisfiable : schema.Satisfiable :=
      ⟨fun index f declared option _ => owned index f declared option, hasWords⟩
    refine ⟨satisfiable, fun index => ?_⟩
    rintro ⟨f, declared, option⟩
    exact (canGive_option_iff declared option).mpr ⟨satisfiable, owned index f declared option⟩

end Schema

/-! ## A spelling that asks for help -/

/-- A required flag whose only spelling is one of help's. -/
def helpSpelled {α : Type} : Schema α :=
  ⟨"tool", "", [⟨"host", "", true, .flag (.short ⟨"-h", by decide⟩)⟩]⟩

theorem not_owns_helpSpelled {arg : String} {f : Field ValueType} {index : Nat} :
    ¬ (helpSpelled : Schema ValueType).Owns arg f index := by
  intro owns
  have member : f ∈ (helpSpelled : Schema ValueType).fields := List.mem_of_getElem? owns.declared
  cases List.mem_singleton.mp member
  have spelled : arg ∈ ["-h"] := Field.spells_iff.mp owns.spelled
  exact owns.noHelp.1 (List.mem_singleton.mp spelled)

/-- The declaration has a spelling for its option and is not refused, but the option cannot be
given, and no arguments at all are accepted. -/
theorem helpSpelled_unusable :
    (Declaration.schema ⟨"Tool", "", "",
      .named [⟨"host", .path (.single "bool" .none), "-h", "", "", true, false⟩]⟩
        = .ok helpSpelled) ∧
    (∀ args values, (helpSpelled : Schema ValueType).read args ≠ .accepted values) ∧
    ¬ (helpSpelled : Schema ValueType).CanGive 0 := by
  have refuses : ¬ (helpSpelled : Schema ValueType).Satisfiable := fun satisfiable =>
    have ⟨_, owns⟩ := satisfiable.options 0 _ rfl rfl rfl
    not_owns_helpSpelled owns
  refine ⟨by decide +kernel, fun args values accepted => refuses ?_, fun gives => refuses ?_⟩
  · exact Schema.satisfiable_iff.mpr ⟨args, Schema.exists_accepts_of_read accepted⟩
  · obtain ⟨args, groups, accepts, -⟩ := Schema.canGive_iff.mp gives
    exact Schema.satisfiable_of_accepts accepts

end Options
end ScriptScan
