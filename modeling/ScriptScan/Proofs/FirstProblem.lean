import ScriptScan.Program.Settings
import ScriptScan.Proofs.Groups

/-!
# The first problem of a list of arguments

A list of arguments that is not accepted fails by its first problem. The groups before it are
complete (`Schema.Run`), and no run of groups goes beyond them (`Schema.LongestRun`).
`Schema.FirstProblem` lists the problems there can be behind such groups: each of them looks at
the next argument, and some at the one behind it. Their messages call a field by one of its spellings
or by its name (`Field.Called`).

* `initial_of_stuck`: the run behind which the reader stops is the longest, since every other run
  is the beginning of it.
* `positionals_wordCount`: the positional field that the words count to is the first one that is
  not given.
* `firstProblem_of_cut` and `cut_of_firstProblem`: a step of the reader fails by the first problem
  behind the groups found so far.
* `read_failure_iff_firstProblem` is the result, for every schema and every reading of values.
-/

namespace ScriptScan
namespace Options

/-! ## Failures -/

/-- How reading arguments ends without values. -/
inductive Failure where
  | help
  | message (text : String)
  deriving DecidableEq, Repr

def Stop.failure : Stop → Failure
  | help => .help
  | misuse cause => .message cause.message

/-! ## Names in messages -/

namespace Field

variable {α : Type} {f : Field α}

/-- What messages call the field: by its long spelling, by the short one when there is no long one,
and by its name in upper case when it is positional. -/
inductive Called (f : Field α) : String → Prop
  | long {long : Spelling} : f.Carries (.long long) → Called f long.text
  | both {short long : Spelling} : f.Carries (.both short long) → Called f long.text
  | short {short : Spelling} : f.Carries (.short short) → Called f short.text
  | positional {content : Content α} : f.role = .positional content → Called f (Text.upper f.name)

theorem displayName_of_carries {spellings : Spellings} (carries : f.Carries spellings) :
    f.displayName = spellings.main.text := by
  rw [displayName, carries_iff.mp carries]

theorem called_of_carries {spellings : Spellings} (carries : f.Carries spellings) :
    f.Called spellings.main.text := by
  cases spellings with
  | short => exact .short carries
  | long => exact .long carries
  | both => exact .both carries

theorem called_iff {name : String} : f.Called name ↔ f.displayName = name := by
  constructor
  · intro called
    cases called with
    | long carries | both carries | short carries => exact displayName_of_carries carries
    | positional role =>
      rw [displayName, role]
      rfl
  · rintro rfl
    cases role : f.role with
    | positional content =>
      rw [displayName, role]
      exact .positional role
    | flag spellings =>
      have carries : f.Carries spellings := .inl role
      exact displayName_of_carries carries ▸ called_of_carries carries
    | option spellings content =>
      have carries : f.Carries spellings := .inr ⟨content, role⟩
      exact displayName_of_carries carries ▸ called_of_carries carries

theorem called_displayName (f : Field α) : f.Called f.displayName := called_iff.mpr rfl

end Field

namespace Schema

/-- How the reading failed. An accepted list has no failure. -/
def Outcome.failure? {β : Type} : Outcome β → Option Failure
  | accepted _ => none
  | help => some .help
  | rejected cause => some (.message cause.message)

variable {α β : Type} {schema : Schema α}

/-! ## Fields -/

/-- The field is the first one in the declaration that has the property. -/
structure IsFirst (schema : Schema α) (p : Field α → Nat → Prop) (f : Field α) (index : Nat) :
    Prop where
  declared : schema.fields[index]? = some f
  holds : p f index
  first : ∀ before < index, ∀ g, schema.fields[before]? = some g → ¬ p g before

/-- No group gives the field at the place. -/
def Absent (groups : List (Group β)) (index : Nat) : Prop := ∀ g ∈ groups, g.field ≠ index

theorem absent_iff {groups : List (Group β)} {index : Nat} :
    Absent groups index ↔ isGiven groups index = false := by
  simp [Absent, isGiven]

theorem find?_indexed_eq_some_iff_isFirst {p : Field α × Nat → Bool} {f : Field α} {index : Nat} :
    schema.indexed.find? p = some (f, index) ↔
      schema.IsFirst (fun f index => p (f, index) = true) f index := by
  rw [find?_indexed_eq_some_iff]
  simp only [← Bool.not_eq_true]
  constructor
  · rintro ⟨holds, declared, first⟩
    exact ⟨declared, holds, first⟩
  · rintro ⟨declared, holds, first⟩
    exact ⟨holds, declared, first⟩

variable [ArgumentType α β]

/-! ## Runs -/

/-- Complete groups at the beginning of the arguments, with the arguments that are left. A run
does not need to give the required fields. -/
structure Run (schema : Schema α) (args : List String) (groups : List (Group β))
    (left : List String) : Prop where
  parts : groups.flatMap Group.args ++ left = args
  inOrder : schema.InOrder 0 groups
  once : schema.Once groups

/-- A run with the most groups. -/
structure LongestRun (schema : Schema α) (args : List String) (groups : List (Group β))
    (left : List String) : Prop extends Run schema args groups left where
  longest : ∀ other behind, Run schema args other behind → other.length ≤ groups.length

/-- What is the matter behind a run of groups with the arguments that are left. -/
inductive FirstProblem (schema : Schema α) (groups : List (Group β)) : List String → Failure → Prop
  | help {arg : String} {rest : List String} :
      arg = "-h" ∨ arg = "--help" → FirstProblem schema groups (arg :: rest) .help
  | alreadyGiven {arg name : String} {rest : List String} {f : Field α} {index : Nat} :
      schema.Owns arg f index → ¬ Absent groups index → f.Called name →
      FirstProblem schema groups (arg :: rest)
        (.message ("option '" ++ name ++ "' has already been given"))
  | requiresArgument {arg : String} {rest : List String} {f : Field α} {index : Nat}
      {spellings : Spellings} {content : Content α} :
      schema.Owns arg f index → Absent groups index → f.role = .option spellings content →
      (∀ text ∈ rest.head?, text.startsWith '-' = true) →
      FirstProblem schema groups (arg :: rest) (.message ("'" ++ arg ++ "' requires an argument"))
  | invalidValue {arg text name : String} {rest : List String} {f : Field α} {index : Nat}
      {spellings : Spellings} {content : Content α} :
      schema.Owns arg f index → Absent groups index → f.role = .option spellings content →
      text.startsWith '-' = false → ArgumentType.read? content.type text = none → f.Called name →
      FirstProblem schema groups (arg :: text :: rest)
        (.message ("invalid value '" ++ text ++ "' for '" ++ name ++ "'"))
  | notAnOption {arg : String} {rest : List String} :
      arg ≠ "-h" ∧ arg ≠ "--help" → (∀ f ∈ schema.fields, ¬ f.Spells arg) →
      arg.startsWith '-' = true ∧ 1 < arg.utf8ByteSize →
      FirstProblem schema groups (arg :: rest)
        (.message ("'" ++ arg ++ "' is not a valid option"))
  | invalidWord {arg name : String} {rest : List String} {f : Field α} {index : Nat}
      {content : Content α} :
      schema.IsWord arg →
      schema.IsFirst (fun f index => f.isPositional = true ∧ Absent groups index) f index →
      f.role = .positional content → ArgumentType.read? content.type arg = none → f.Called name →
      FirstProblem schema groups (arg :: rest)
        (.message ("invalid value '" ++ arg ++ "' for '" ++ name ++ "'"))
  | unexpectedArgument {arg : String} {rest : List String} :
      schema.IsWord arg →
      (∀ index f, schema.fields[index]? = some f → f.isPositional = true →
        ¬ Absent groups index) →
      FirstProblem schema groups (arg :: rest) (.message ("unexpected argument '" ++ arg ++ "'"))
  | missingRequired {name : String} {f : Field α} {index : Nat} :
      schema.IsFirst (fun f index => f.required = true ∧ Absent groups index) f index →
      f.Called name →
      FirstProblem schema groups [] (.message ("missing required argument '" ++ name ++ "'"))

/-! ## The longest run -/

theorem run_iff_continues {args left : List String} {groups : List (Group β)} :
    schema.Run args groups left ↔ schema.Continues [] args groups left := by
  constructor
  · rintro ⟨parts, inOrder, once⟩
    exact ⟨parts, inOrder, fun _ _ _ => rfl, once⟩
  · rintro ⟨parts, inOrder, -, once⟩
    exact ⟨parts, inOrder, once⟩

/-- Any run is the beginning of one behind which no group can be cut off. -/
theorem initial_of_stuck {found groups other : List (Group β)} {args left behind : List String}
    (run : schema.Continues found args groups left) (stuck : schema.Stuck (found ++ groups) left)
    (shorter : schema.Continues found args other behind) : other <+: groups := by
  induction groups generalizing found args other with
  | nil =>
    cases other with
    | nil => exact List.prefix_rfl
    | cons h other =>
      obtain ⟨arg, rest, middle, rfl, cuts, -⟩ := continues_cons.mp shorter
      obtain ⟨stop, fails⟩ := stuck arg rest (continues_nil.mp run)
      rw [List.append_nil, cuts] at fails
      cases fails
  | cons g groups ih =>
    cases other with
    | nil => exact List.nil_prefix
    | cons h other =>
      obtain ⟨arg, rest, middle, rfl, cuts, later⟩ := continues_cons.mp run
      obtain ⟨_, _, _, ⟨⟩, cuts_other, shorter⟩ := continues_cons.mp shorter
      rw [cuts] at cuts_other
      cases cuts_other
      rw [← List.singleton_append, ← List.append_assoc] at stuck
      exact (List.prefix_cons_inj g).mpr (ih later stuck shorter)

/-! ## The next positional field -/

theorem isGiven_cons (g : Group β) (groups : List (Group β)) (index : Nat) :
    isGiven (g :: groups) index = (g.field == index || isGiven groups index) :=
  List.any_cons

/-- Groups in order give the positional fields one by one, from the one that the words before
them count to. -/
theorem isGiven_positional_iff {count : Nat} {groups : List (Group β)}
    (inOrder : schema.InOrder count groups) {k index : Nat} {f : Field α}
    (there : schema.positionals[k]? = some (f, index)) :
    isGiven groups index = true ↔ count ≤ k ∧ k < count + schema.wordCount groups := by
  induction inOrder with
  | done => simp [isGiven, wordCount]
  | @option count g groups gives _ ih =>
    have noWord := any_positional_of_isOption (isOption_of_givesOption gives)
    have apart := List.any_eq_false.mp noWord (f, index) (List.mem_of_getElem? there)
    have other : (g.field == index) = false :=
      beq_eq_false_iff_ne.mpr fun same => apart (beq_iff_eq.mpr same.symm)
    have same : schema.wordCount (g :: groups) = schema.wordCount groups := by
      simp [wordCount, noWord]
    rw [isGiven_cons, other, Bool.false_or, ih, same]
  | @word count g groups gives _ ih =>
    have more : schema.wordCount (g :: groups) = schema.wordCount groups + 1 := by
      simp [wordCount, any_positional_of_givesWord gives]
    have here : g.field = index ↔ count = k := by
      cases gives with
      | word _ next _ _ =>
        rw [positionalAt_iff] at next
        constructor
        · rintro rfl
          exact eq_of_positional next there
        · rintro rfl
          rw [next] at there
          cases there
          rfl
    rw [isGiven_cons, Bool.or_eq_true, beq_iff_eq, ih, here, more]
    omega

theorem find?_eq_getElem? {γ : Type} {l : List γ} {p : γ → Bool} {n : Nat}
    (first : ∀ k x, l[k]? = some x → (p x = true ↔ n ≤ k)) : l.find? p = l[n]? := by
  induction l generalizing n with
  | nil => rfl
  | cons x l ih =>
    have head := first 0 x rfl
    cases n with
    | zero => rw [List.find?_cons_of_pos (head.mpr (Nat.le_refl 0)), List.getElem?_cons_zero]
    | succ n =>
      have skipped : ¬ p x = true := fun holds => absurd (head.mp holds) (Nat.not_succ_le_zero n)
      rw [List.find?_cons_of_neg skipped, List.getElem?_cons_succ]
      refine ih fun k y there => ?_
      rw [first (k + 1) y there, Nat.add_le_add_iff_right]

/-- The words count to the first positional field that is not given. -/
theorem positionals_wordCount {groups : List (Group β)} (inOrder : schema.InOrder 0 groups) :
    schema.positionals[schema.wordCount groups]?
      = schema.indexed.find? fun f => f.1.isPositional && !isGiven groups f.2 := by
  have among : schema.positionals.find? (fun f => !isGiven groups f.2)
      = schema.indexed.find? fun f => f.1.isPositional && !isGiven groups f.2 := by
    simp [positionals, List.find?_filter]
  rw [← among]
  refine (find?_eq_getElem? fun k f there => ?_).symm
  rw [Bool.not_eq_true', ← Bool.not_eq_true, isGiven_positional_iff inOrder there]
  omega

theorem nextPositional_eq_some_iff {groups : List (Group β)} (inOrder : schema.InOrder 0 groups)
    {f : Field α} {index : Nat} :
    schema.positionals[schema.wordCount groups]? = some (f, index) ↔
      schema.IsFirst (fun f index => f.isPositional = true ∧ Absent groups index) f index := by
  rw [positionals_wordCount inOrder, find?_indexed_eq_some_iff_isFirst]
  simp only [Bool.and_eq_true, Bool.not_eq_true', absent_iff]

theorem nextPositional_eq_none_iff {groups : List (Group β)} (inOrder : schema.InOrder 0 groups) :
    schema.positionals[schema.wordCount groups]? = none ↔
      ∀ index f, schema.fields[index]? = some f → f.isPositional = true →
        ¬ Absent groups index := by
  rw [positionals_wordCount inOrder, find?_indexed_eq_none_iff]
  simp only [Bool.and_eq_true, Bool.not_eq_true', absent_iff, not_and]

/-! ## One problem -/

theorem firstProblem_of_cutValue {found : List (Group β)} {arg : String} {rest : List String}
    {f : Field α} {index : Nat} {spellings : Spellings} {content : Content α} {stop : Stop}
    (owns : schema.Owns arg f index) (absent : Absent found index)
    (role : f.role = .option spellings content)
    (cuts : f.cutValue index content.type arg rest = .error stop) :
    schema.FirstProblem found (arg :: rest) stop.failure := by
  cases rest with
  | nil =>
    cases cuts
    exact .requiresArgument owns absent role (by simp)
  | cons text rest =>
    rw [Field.cutValue, isDashed_eq_startsWith] at cuts
    split at cuts
    · next dashed =>
      cases cuts
      exact .requiresArgument owns absent role (by simpa using dashed)
    next noDash =>
    rw [Bool.not_eq_true] at noDash
    split at cuts
    · cases cuts
    · next noValue =>
      cases cuts
      exact .invalidValue owns absent role noDash noValue f.called_displayName

theorem firstProblem_of_cutSpelled {found : List (Group β)} {arg : String} {rest : List String}
    {f : Field α} {index : Nat} {stop : Stop} (owns : schema.Owns arg f index)
    (cuts : f.cutSpelled index found arg rest = .error stop) :
    schema.FirstProblem found (arg :: rest) stop.failure := by
  unfold Field.cutSpelled at cuts
  split at cuts
  · next given =>
    cases cuts
    refine .alreadyGiven owns (fun absent => ?_) f.called_displayName
    rw [absent_iff.mp absent] at given
    cases given
  next new =>
  have absent := absent_iff.mpr ((Bool.not_eq_true _).mp new)
  rcases role_of_owns owns with ⟨spellings, role⟩ | ⟨spellings, content, role⟩
  · rw [role] at cuts
    cases cuts
  · rw [role] at cuts
    exact firstProblem_of_cutValue owns absent role cuts

theorem firstProblem_of_cutWord {found : List (Group β)} {arg : String} {rest : List String}
    {f : Field α} {index : Nat} {stop : Stop} (inOrder : schema.InOrder 0 found)
    (word : schema.IsWord arg)
    (next : schema.positionals[schema.wordCount found]? = some (f, index))
    (cuts : f.cutWord index arg rest = .error stop) :
    schema.FirstProblem found (arg :: rest) stop.failure := by
  obtain ⟨-, content, role⟩ := getElem?_of_positional next
  rw [nextPositional_eq_some_iff inOrder] at next
  rw [Field.cutWord, role] at cuts
  split at cuts
  · cases cuts
  · next noValue =>
    cases cuts
    exact .invalidWord word next role noValue f.called_displayName

/-- A step fails by a problem behind the groups found so far. -/
theorem firstProblem_of_cut {found : List (Group β)} {arg : String} {rest : List String}
    {stop : Stop} (inOrder : schema.InOrder 0 found)
    (cuts : schema.cut found arg rest = .error stop) :
    schema.FirstProblem found (arg :: rest) stop.failure := by
  rcases cut_cases schema found arg rest with ⟨help, stops⟩ | ⟨f, index, owns, goesOn⟩ |
    ⟨noHelp, unspelled, looks, stops⟩ | ⟨word, ⟨f, index, next, goesOn⟩ | ⟨last, stops⟩⟩
  · cases stops.symm.trans cuts
    exact .help help
  · exact firstProblem_of_cutSpelled owns (goesOn.symm.trans cuts)
  · cases stops.symm.trans cuts
    exact .notAnOption noHelp unspelled looks
  · exact firstProblem_of_cutWord inOrder word next (goesOn.symm.trans cuts)
  · cases stops.symm.trans cuts
    exact .unexpectedArgument word ((nextPositional_eq_none_iff inOrder).mp last)

/-- A problem behind the groups found so far lets a step fail. -/
theorem cut_of_firstProblem {found : List (Group β)} {arg : String} {rest : List String}
    {failure : Failure} (inOrder : schema.InOrder 0 found)
    (problem : schema.FirstProblem found (arg :: rest) failure) :
    ∃ stop, schema.cut found arg rest = .error stop ∧ stop.failure = failure := by
  cases problem with
  | help isHelp => exact ⟨.help, by simp [cut, isHelp_iff.mpr isHelp], rfl⟩
  | @alreadyGiven _ _ _ f index owns given called =>
    obtain rfl := Field.called_iff.mp called
    rw [absent_iff, Bool.not_eq_false] at given
    rw [cut_of_owns owns]
    exact ⟨.misuse (.alreadyGiven f.displayName), by simp [Field.cutSpelled, given], rfl⟩
  | requiresArgument owns absent role noValue =>
    rw [cut_of_owns owns]
    refine ⟨.misuse (.requiresArgument arg), ?_, rfl⟩
    simp only [Field.cutSpelled, absent_iff.mp absent, role, Role.content?]
    cases rest with
    | nil => rfl
    | cons text rest =>
      simp [Field.cutValue, isDashed_eq_startsWith, noValue text rfl]
  | @invalidValue _ text _ _ f index _ _ owns absent role noDash noValue called =>
    obtain rfl := Field.called_iff.mp called
    rw [cut_of_owns owns]
    refine ⟨.misuse (.invalidValue text f.displayName), ?_, rfl⟩
    simp [Field.cutSpelled, absent_iff.mp absent, role, Role.content?, Field.cutValue,
      isDashed_eq_startsWith, noDash, noValue]
  | notAnOption noHelp unspelled looks =>
    refine ⟨.misuse (.notAnOption arg), ?_, rfl⟩
    simp [cut, isHelp_eq_false_iff.mpr noHelp, spelled?_eq_none_iff.mpr unspelled,
      looksLikeOption_iff.mpr looks]
  | @invalidWord _ _ _ f index _ word next role noValue called =>
    obtain rfl := Field.called_iff.mp called
    rw [cut_of_isWord word ((nextPositional_eq_some_iff inOrder).mpr next)]
    refine ⟨.misuse (.invalidValue arg f.displayName), ?_, rfl⟩
    simp [Field.cutWord, role, Role.content?, noValue]
  | unexpectedArgument word given =>
    obtain ⟨noHelp, unspelled, noOption⟩ := isWord_iff.mp word
    refine ⟨.misuse (.unexpectedArgument arg), ?_, rfl⟩
    simp [cut, noHelp, unspelled, noOption, (nextPositional_eq_none_iff inOrder).mpr given]

omit [ArgumentType α β] in
theorem missing?_eq_some_iff {groups : List (Group β)} {f : Field α} {index : Nat} :
    schema.missing? groups = some (f, index) ↔
      schema.IsFirst (fun f index => f.required = true ∧ Absent groups index) f index := by
  rw [missing?, find?_indexed_eq_some_iff_isFirst]
  simp only [Bool.and_eq_true, Bool.not_eq_true', absent_iff]

theorem firstProblem_nil_iff {groups : List (Group β)} {failure : Failure} :
    schema.FirstProblem groups [] failure ↔
      ∃ f index, schema.missing? groups = some (f, index) ∧
        failure = .message ("missing required argument '" ++ f.displayName ++ "'") := by
  constructor
  · intro problem
    cases problem with
    | missingRequired first called =>
      obtain rfl := Field.called_iff.mp called
      exact ⟨_, _, missing?_eq_some_iff.mpr first, rfl⟩
  · rintro ⟨f, index, missing, rfl⟩
    exact .missingRequired (missing?_eq_some_iff.mp missing) f.called_displayName

/-! ## Outcome -/

theorem failure_of_groups {args : List String} {groups : List (Group β)} {failure : Failure}
    (cuts : schema.cutAll [] args = .ok groups) :
    (schema.read args).failure? = some failure ↔ schema.FirstProblem groups [] failure := by
  rw [firstProblem_nil_iff]
  cases missing : schema.missing? groups with
  | none =>
    have outcome : schema.read args = .accepted (schema.values groups) := by
      simp only [read, cuts, missing]
    rw [outcome]
    simp [Outcome.failure?]
  | some found =>
    obtain ⟨f, index⟩ := found
    have outcome : schema.read args = .rejected (.missingRequired f.displayName) := by
      simp only [read, cuts, missing]
    rw [outcome]
    constructor
    · intro failed
      exact ⟨f, index, rfl, (Option.some.inj failed).symm⟩
    · rintro ⟨_, _, ⟨⟩, rfl⟩
      rfl

theorem failure_of_stop {args : List String} {stop : Stop} {failure : Failure}
    (cuts : schema.cutAll [] args = .error stop) :
    (schema.read args).failure? = some failure ↔ stop.failure = failure := by
  rw [read, cuts]
  cases stop <;> exact Option.some_inj

/-- A list of arguments is accepted, or reading it fails by the first problem behind the longest
run of groups. There is one such run, and one way at most in which it fails there. -/
theorem read_failure_iff_firstProblem (schema : Schema α) (args : List String) :
    ∃ groups left, schema.LongestRun args groups left ∧
      (∀ other behind, schema.LongestRun args other behind → other = groups ∧ behind = left) ∧
      ∀ failure, (schema.read args).failure? = some failure ↔
        schema.FirstProblem groups left failure := by
  obtain ⟨groups, left, run, stuck⟩ := exists_continues_stuck schema [] args
  rw [List.nil_append] at stuck
  have initial : ∀ other behind, schema.Run args other behind → other <+: groups :=
    fun other behind shorter => initial_of_stuck run stuck (run_iff_continues.mp shorter)
  have longest : schema.LongestRun args groups left :=
    ⟨run_iff_continues.mpr run,
      fun other behind shorter => (initial other behind shorter).length_le⟩
  refine ⟨groups, left, longest, ?_, ?_⟩
  · intro other behind otherLongest
    have same := (initial other behind otherLongest.toRun).eq_of_length_le
      (otherLongest.longest groups left longest.toRun)
    subst same
    exact ⟨rfl, List.append_cancel_left (otherLongest.parts.trans longest.parts.symm)⟩
  · intro failure
    have cuts := cutAll_of_continues run
    rw [List.nil_append] at cuts
    cases left with
    | nil => exact failure_of_groups (cuts.trans (by rw [cutAll]))
    | cons arg rest =>
      obtain ⟨stop, fails⟩ := stuck arg rest rfl
      rw [failure_of_stop (cuts.trans (cutAll_of_cut_error fails))]
      constructor
      · rintro rfl
        exact firstProblem_of_cut longest.inOrder fails
      · intro problem
        obtain ⟨other, failsToo, same⟩ := cut_of_firstProblem longest.inOrder problem
        rw [fails] at failsToo
        cases failsToo
        exact same

/-- Help is no value of an option, and no help behind a problem. The message calls the option by its
long spelling, though it is given twice by the short one. -/
theorem read_failure_settings :
    (Program.schema.read ["-q", "-", "--log", "-h"]).failure?
      = some (.message "'--log' requires an argument") ∧
    (∃ groups left, Program.schema.LongestRun ["-q", "-", "--log", "-h"] groups left ∧
      Program.schema.FirstProblem groups left (.message "'--log' requires an argument")) ∧
    (Program.schema.read ["-q", "-", "-q", "-h"]).failure?
      = some (.message "option '--quiet' has already been given") ∧
    ∃ groups left, Program.schema.LongestRun ["-q", "-", "-q", "-h"] groups left ∧
      Program.schema.FirstProblem groups left
        (.message "option '--quiet' has already been given") := by
  have failed : (Program.schema.read ["-q", "-", "--log", "-h"]).failure?
      = some (.message "'--log' requires an argument") := by
    decide +kernel
  have again : (Program.schema.read ["-q", "-", "-q", "-h"]).failure?
      = some (.message "option '--quiet' has already been given") := by
    decide +kernel
  obtain ⟨groups, left, longest, -, problem⟩ :=
    read_failure_iff_firstProblem Program.schema ["-q", "-", "--log", "-h"]
  obtain ⟨others, behind, longestToo, -, problemToo⟩ :=
    read_failure_iff_firstProblem Program.schema ["-q", "-", "-q", "-h"]
  exact ⟨failed, ⟨groups, left, longest, (problem _).mp failed⟩,
    again, others, behind, longestToo, (problemToo _).mp again⟩

end Schema
end Options
end ScriptScan
