import ScriptScan.Proofs.FirstProblem

/-!
# Exchanging groups of arguments

Two groups that can both come next and that give different fields may come in either order.
What the reader does behind them depends on the groups it has found in two ways only: which group
gives a field, and how many of the groups are words (`Schema.Alike`).

* `cut_congr` carries this through a single step, `cutAll_congr` through all of them, and
  `read_congr` to the outcome.
* `readable_append`: a group that can come next still can behind another one for another field.
* `read_exchange` is the result, whatever arguments stand behind the groups.
-/

namespace ScriptScan
namespace Options
namespace Schema

variable {α β : Type} {schema : Schema α}

/-! ## Groups that look alike -/

/-- The same group gives a field in both lists, if one does, and the lists have as many words. -/
structure Alike (schema : Schema α) (found other : List (Group β)) : Prop where
  given : ∀ index, found.find? (·.field == index) = other.find? (·.field == index)
  words : schema.wordCount found = schema.wordCount other

theorem isGiven_eq_isSome (groups : List (Group β)) (index : Nat) :
    isGiven groups index = (groups.find? (·.field == index)).isSome := by
  rw [isGiven, List.isSome_find?]

theorem wordCount_append (schema : Schema α) (found later : List (Group β)) :
    schema.wordCount (found ++ later) = schema.wordCount found + schema.wordCount later :=
  List.countP_append

theorem Alike.isGiven_eq {found other : List (Group β)} (alike : schema.Alike found other)
    (index : Nat) : isGiven found index = isGiven other index := by
  rw [isGiven_eq_isSome, alike.given, isGiven_eq_isSome]

theorem Alike.append {found other : List (Group β)} (alike : schema.Alike found other)
    (later : List (Group β)) : schema.Alike (found ++ later) (other ++ later) where
  given index := by rw [List.find?_append, alike.given, List.find?_append]
  words := by rw [wordCount_append, alike.words, wordCount_append]

/-- The order of two groups for different fields does not matter. -/
theorem alike_exchange (schema : Schema α) (found : List (Group β)) {g h : Group β}
    (apart : g.field ≠ h.field) : schema.Alike (found ++ [g, h]) (found ++ [h, g]) where
  given index := by
    rw [List.find?_append, List.find?_append]
    refine congrArg _ ?_
    by_cases first : g.field = index
    · have other : h.field ≠ index := fun second => apart (first.trans second.symm)
      simp [first, other]
    · by_cases second : h.field = index <;> simp [first, second]
  words := ((List.Perm.swap h g []).append_left found).countP_eq _

theorem missing?_congr {found other : List (Group β)} (alike : schema.Alike found other) :
    schema.missing? found = schema.missing? other := by
  simp only [missing?, alike.isGiven_eq]

variable [ArgumentType α β]

theorem values_congr {found other : List (Group β)} (alike : schema.Alike found other) :
    schema.values found = schema.values other := by
  simp only [values, alike.given]

/-- A step of the reader does the same behind groups that look alike. -/
theorem cut_congr {found other : List (Group β)} (alike : schema.Alike found other) (arg : String)
    (rest : List String) : schema.cut found arg rest = schema.cut other arg rest := by
  simp only [cut, Field.cutSpelled, alike.isGiven_eq, alike.words]

/-- Behind groups that look alike the reader fails in the same way, or it finds the same further
groups. -/
theorem cutAll_congr {found other : List (Group β)} (alike : schema.Alike found other)
    (args : List String) :
    (∃ stop, schema.cutAll found args = .error stop ∧ schema.cutAll other args = .error stop) ∨
    ∃ later, schema.cutAll found args = .ok (found ++ later) ∧
      schema.cutAll other args = .ok (other ++ later) := by
  fun_induction cutAll schema found args generalizing other with
  | case1 found => exact .inr ⟨[], by simp [cutAll]⟩
  | case2 found arg rest g left cuts ih =>
    have same := (cut_congr alike arg rest).symm.trans cuts
    rw [cutAll_of_cut same]
    rcases ih (alike.append [g]) with fails | ⟨later, here, there⟩
    · exact .inl fails
    · rw [List.append_assoc] at here there
      exact .inr ⟨[g] ++ later, here, there⟩
  | case3 found arg rest stop cuts =>
    have same := (cut_congr alike arg rest).symm.trans cuts
    exact .inl ⟨stop, rfl, cutAll_of_cut_error same⟩

/-- Arguments that come to groups which look alike have one outcome, whatever stands behind. -/
theorem read_congr {first second rest : List String} {found other : List (Group β)}
    (alike : schema.Alike found other)
    (here : schema.cutAll [] first = schema.cutAll found rest)
    (there : schema.cutAll [] second = schema.cutAll other rest) :
    schema.read first = schema.read second := by
  unfold read
  rw [here, there]
  rcases cutAll_congr alike rest with ⟨stop, fails, failsToo⟩ | ⟨later, ends, endsToo⟩
  · rw [fails, failsToo]
  · have behind := alike.append later
    simp only [ends, endsToo, missing?_congr behind, values_congr behind]

/-! ## Groups that can come next -/

/-- The group can be read behind the others: it gives an option that none of them gives, or the
next positional field. -/
def Readable (schema : Schema α) (groups : List (Group β)) (g : Group β) : Prop :=
  (schema.GivesOption g ∧ Absent groups g.field) ∨ schema.GivesWord (schema.wordCount groups) g

/-- These are the groups that a step of the reader takes off. -/
theorem cut_eq_ok_iff_readable {groups : List (Group β)} {arg : String}
    {rest left : List String} {g : Group β} :
    schema.cut groups arg rest = .ok (g, left) ↔
      g.args ++ left = arg :: rest ∧ schema.Readable groups g := by
  rw [Readable, absent_iff]
  exact cut_eq_ok_iff

theorem cutAll_of_readable {groups : List (Group β)} {g : Group β}
    (readable : schema.Readable groups g) (rest : List String) :
    schema.cutAll groups (g.args ++ rest) = schema.cutAll (groups ++ [g]) rest := by
  obtain ⟨arg, more, starts⟩ :=
    List.exists_cons_of_ne_nil (args_ne_nil (readable.imp_left And.left))
  have parts : g.args ++ rest = arg :: (more ++ rest) := by rw [starts, List.cons_append]
  rw [parts]
  exact cutAll_of_cut (cut_eq_ok_iff_readable.mpr ⟨parts, readable⟩)

/-- Two words behind the same groups give the same field. -/
theorem field_of_givesWord {count : Nat} {g h : Group β} (first : schema.GivesWord count g)
    (second : schema.GivesWord count h) : g.field = h.field := by
  cases first with
  | word _ next _ _ =>
    cases second with
    | word _ other _ _ =>
      rw [positionalAt_iff] at next other
      rw [next] at other
      cases other
      rfl

/-- A group that can come next still can behind another one that gives another field. -/
theorem readable_append {groups : List (Group β)} {g h : Group β}
    (first : schema.Readable groups g) (second : schema.Readable groups h)
    (apart : g.field ≠ h.field) : schema.Readable (groups ++ [g]) h := by
  rcases second with ⟨option, absent⟩ | word
  · refine .inl ⟨option, absent_iff.mpr ?_⟩
    rw [isGiven_append, absent_iff.mp absent, Bool.false_or]
    exact beq_eq_false_iff_ne.mpr apart
  · rcases first with ⟨option, -⟩ | other
    · exact .inr (wordCount_append_option option groups ▸ word)
    · exact absurd (field_of_givesWord other word) apart

/-! ## Exchange -/

theorem Run.append {args left : List String} {groups : List (Group β)}
    (run : schema.Run args groups left) (rest : List String) :
    schema.Run (args ++ rest) groups (left ++ rest) where
  parts := by rw [← run.parts, List.append_assoc]
  inOrder := run.inOrder
  once := run.once

/-- Behind a run of groups the reader goes on with the arguments that are left. -/
theorem cutAll_of_run {args left : List String} {groups : List (Group β)}
    (run : schema.Run args groups left) (rest : List String) :
    schema.cutAll [] (args ++ rest) = schema.cutAll groups (left ++ rest) :=
  cutAll_of_continues (run_iff_continues.mp (run.append rest))

/-- Two groups that can both come next are read one behind the other. -/
theorem cutAll_of_run_pair {args : List String} {groups : List (Group β)}
    (run : schema.Run args groups []) {g h : Group β} (first : schema.Readable groups g)
    (second : schema.Readable groups h) (apart : g.field ≠ h.field) (rest : List String) :
    schema.cutAll [] (args ++ g.args ++ h.args ++ rest)
      = schema.cutAll (groups ++ [g, h]) rest := by
  rw [List.append_assoc, List.append_assoc, cutAll_of_run run, List.nil_append,
    cutAll_of_readable first,
    cutAll_of_readable (readable_append first second apart), List.append_assoc]
  rfl

/-- Behind complete groups, two groups that can both come next and give different fields may be
exchanged: the arguments have the same outcome, whatever stands behind them. -/
theorem read_exchange {schema : Schema α} {args : List String} {groups : List (Group β)}
    (run : schema.Run args groups []) {g h : Group β} (first : schema.Readable groups g)
    (second : schema.Readable groups h) (apart : g.field ≠ h.field) (rest : List String) :
    schema.read (args ++ g.args ++ h.args ++ rest)
      = schema.read (args ++ h.args ++ g.args ++ rest) := by
  have here := cutAll_of_run_pair run first second apart rest
  have there := cutAll_of_run_pair run second first (Ne.symm apart) rest
  exact read_congr (alike_exchange schema groups apart) here there

/-- A value and a word behind a switch. The switch comes again, and that is what is wrong with the
arguments in either order. -/
theorem read_exchange_settings :
    (Program.schema.Run ["-q"] [⟨["-q"], 1, .bool true⟩] [] ∧
      Program.schema.Readable [⟨["-q"], 1, .bool true⟩] ⟨["--log", "debug"], 2, .string "debug"⟩ ∧
      Program.schema.Readable [⟨["-q"], 1, .bool true⟩] ⟨["-"], 0, .string "-"⟩) ∧
    Program.schema.read ["-q", "--log", "debug", "-", "--quiet", "-h"]
      = Program.schema.read ["-q", "-", "--log", "debug", "--quiet", "-h"] ∧
    Program.schema.read ["-q", "-", "--log", "debug", "--quiet", "-h"]
      = .rejected (.alreadyGiven "--quiet") := by
  have run : Program.schema.Run ["-q"] [⟨["-q"], 1, .bool true⟩] [] := by
    obtain ⟨parts, inOrder, once⟩ := cutAll_eq_ok_iff.mp
      (show Program.schema.cutAll [] ["-q"] = .ok [⟨["-q"], 1, .bool true⟩] by decide +kernel)
    exact ⟨by rw [parts, List.append_nil], inOrder, once⟩
  have option : Program.schema.Readable [⟨["-q"], 1, .bool true⟩]
      ⟨["--log", "debug"], 2, .string "debug"⟩ :=
    (cut_eq_ok_iff_readable.mp (show Program.schema.cut [⟨["-q"], 1, .bool true⟩] "--log" ["debug"]
      = .ok (⟨["--log", "debug"], 2, .string "debug"⟩, []) by decide +kernel)).2
  have word : Program.schema.Readable [⟨["-q"], 1, .bool true⟩] ⟨["-"], 0, .string "-"⟩ :=
    (cut_eq_ok_iff_readable.mp (show Program.schema.cut [⟨["-q"], 1, .bool true⟩] "-" []
      = .ok (⟨["-"], 0, .string "-"⟩, []) by decide +kernel)).2
  refine ⟨⟨run, option, word⟩, ?_, by decide +kernel⟩
  exact read_exchange run option word (by decide) ["--quiet", "-h"]

end Schema
end Options
end ScriptScan
