import ScriptScan.Proofs.Exchange

/-!
# Final outcomes

A list of arguments has a final outcome when further arguments behind it change nothing
(`Schema.Final`). The reader goes from left to right and stops at the first problem, so an outcome
is open only when the reader has come to the end of the arguments without one: all of them are
complete groups, or behind such groups there is an option whose value is still to come
(`Schema.AwaitsValue`).

* `cut_append`: a step that fails does so whatever stands behind, unless it misses a value.
* `cut_eq_error` tells what a step that fails can ask for.
* `read_append_help`: behind complete groups there may always be a request for help.
* `run_or_awaitsValue_or_final`: the reader comes to the end, a value is still to come, or the
  outcome is final.
* `final_iff` is the result, for every schema and every reading of values.
-/

namespace ScriptScan
namespace Options

variable {α β : Type} [ArgumentType α β]

/-! ## Steps that fail -/

theorem Field.cutValue_append {f : Field α} {index : Nat} {type : α} {arg : String}
    {rest : List String} {stop : Stop} (fails : f.cutValue index type arg rest = .error stop)
    (nonempty : rest ≠ []) (more : List String) :
    f.cutValue index type arg (rest ++ more) = .error stop := by
  obtain ⟨text, rest, rfl⟩ := List.exists_cons_of_ne_nil nonempty
  rw [Field.cutValue] at fails
  rw [List.cons_append, Field.cutValue]
  split at fails
  · next dashed => rw [if_pos dashed, fails]
  next plain =>
  rw [if_neg plain]
  split at fails
  · cases fails
  · exact fails

theorem Field.cutSpelled_append {f : Field α} {index : Nat} {found : List (Group β)}
    {arg : String} {rest : List String} {stop : Stop}
    (fails : f.cutSpelled index found arg rest = .error stop)
    (decided : rest = [] → stop ≠ .misuse (.requiresArgument arg)) (more : List String) :
    f.cutSpelled index found arg (rest ++ more) = .error stop := by
  unfold Field.cutSpelled at fails ⊢
  split at fails
  · next given => rw [if_pos given, fails]
  · next new =>
    rw [if_neg new]
    cases content : f.role.content? with
    | none =>
      rw [content] at fails
      cases fails
    | some content =>
      rw [content] at fails
      refine Field.cutValue_append fails ?_ more
      -- Without a value the option can only miss it.
      rintro rfl
      cases fails
      exact decided rfl rfl

theorem Field.cutWord_append {f : Field α} {index : Nat} {arg : String} {rest : List String}
    {stop : Stop} (fails : f.cutWord index arg rest = .error stop) (more : List String) :
    f.cutWord index arg (rest ++ more) = .error stop := by
  unfold Field.cutWord at fails ⊢
  split at fails
  · cases fails
  · exact fails

namespace Schema

variable {schema : Schema α}

/-- A step that fails does so whatever stands behind the arguments, unless they end where a value
should be. -/
theorem cut_append {found : List (Group β)} {arg : String} {rest : List String} {stop : Stop}
    (fails : schema.cut found arg rest = .error stop)
    (decided : rest = [] → stop ≠ .misuse (.requiresArgument arg)) (more : List String) :
    schema.cut found arg (rest ++ more) = .error stop := by
  unfold cut at fails ⊢
  by_cases help : isHelp arg = true
  · rw [if_pos help] at fails ⊢
    exact fails
  rw [if_neg help] at fails ⊢
  cases spelled : schema.spelled? arg with
  | some owner =>
    rw [spelled] at fails
    exact Field.cutSpelled_append fails decided more
  | none =>
  rw [spelled] at fails
  by_cases looks : looksLikeOption arg = true
  · simp only [if_pos looks] at fails ⊢
    exact fails
  simp only [if_neg looks] at fails ⊢
  cases next : schema.positionals[schema.wordCount found]? with
  | some field =>
    rw [next] at fails
    exact Field.cutWord_append fails more
  | none =>
    rw [next] at fails
    exact fails

theorem cutValue_eq_error {f : Field α} {index : Nat} {type : α} {arg : String}
    {rest : List String} {stop : Stop} (fails : f.cutValue index type arg rest = .error stop) :
    stop = .misuse (.requiresArgument arg) ∨
      ∃ text, stop = .misuse (.invalidValue text f.displayName) := by
  cases rest with
  | nil =>
    cases fails
    exact .inl rfl
  | cons text rest =>
    rw [Field.cutValue] at fails
    split at fails
    · cases fails
      exact .inl rfl
    split at fails
    · cases fails
    · cases fails
      exact .inr ⟨text, rfl⟩

/-- A step that fails asks for the value of an option, or it finds something else to be wrong. It
never asks for a required field. -/
theorem cut_eq_error {found : List (Group β)} {arg : String} {rest : List String} {stop : Stop}
    (fails : schema.cut found arg rest = .error stop) :
    (stop = .misuse (.requiresArgument arg) ∧
      ∃ f index spellings content, schema.Owns arg f index ∧ Absent found index ∧
        f.role = .option spellings content) ∨
    (∀ text, stop ≠ .misuse (.requiresArgument text)) ∧
      ∀ name, stop ≠ .misuse (.missingRequired name) := by
  rcases cut_cases schema found arg rest with ⟨-, stops⟩ | ⟨f, index, owns, goesOn⟩ |
    ⟨-, -, -, stops⟩ | ⟨-, ⟨f, index, -, goesOn⟩ | ⟨-, stops⟩⟩
  · cases stops.symm.trans fails
    simp
  · have fails := goesOn.symm.trans fails
    unfold Field.cutSpelled at fails
    split at fails
    · cases fails
      simp
    next new =>
    have absent := absent_iff.mpr ((Bool.not_eq_true _).mp new)
    rcases role_of_owns owns with ⟨spellings, role⟩ | ⟨spellings, content, role⟩
    · rw [role] at fails
      cases fails
    · rw [role] at fails
      rcases cutValue_eq_error fails with rfl | ⟨text, rfl⟩
      · exact .inl ⟨rfl, f, index, spellings, content, owns, absent, role⟩
      · simp
  · cases stops.symm.trans fails
    simp
  · have fails := goesOn.symm.trans fails
    unfold Field.cutWord at fails
    split at fails <;> cases fails
    simp
  · cases stops.symm.trans fails
    simp

/-! ## Open outcomes -/

/-- The arguments end with the spelling of an option, behind complete groups that do not give it,
and its value is still to come. -/
inductive AwaitsValue (schema : Schema α) (args : List String) : String → Prop
  | value {arg : String} {groups : List (Group β)} {f : Field α} {index : Nat}
      {spellings : Spellings} {content : Content α} :
      schema.Run args groups [arg] → schema.Owns arg f index → Absent groups index →
      f.role = .option spellings content → AwaitsValue schema args arg

/-- Arguments behind the list change nothing. -/
def Final (schema : Schema α) (args : List String) : Prop :=
  ∀ more, schema.read (args ++ more) = schema.read args

/-- Complete groups alone are accepted, or a required field is missing. -/
theorem read_of_cutAll {args : List String} {groups : List (Group β)}
    (cuts : schema.cutAll [] args = .ok groups) :
    (∃ values, schema.read args = .accepted values) ∨
      ∃ name, schema.read args = .rejected (.missingRequired name) := by
  cases missing : schema.missing? groups with
  | none => exact .inl ⟨schema.values groups, by simp only [read, cuts, missing]⟩
  | some field => exact .inr ⟨field.1.displayName, by simp only [read, cuts, missing]⟩

/-- Behind complete groups there may always be a request for help. -/
theorem read_append_help {args : List String} {groups : List (Group β)}
    (run : schema.Run args groups []) (more : List String) :
    schema.read (args ++ ["-h"] ++ more) = .help := by
  have stops : schema.cut groups "-h" more = .error .help := by simp [cut, isHelp]
  have cuts := cutAll_of_run run ("-h" :: more)
  rw [List.nil_append, cutAll_of_cut_error stops] at cuts
  rw [List.append_assoc, List.singleton_append, read, cuts]

/-- A step that fails behind complete groups decides, whatever the steps behind it would do. -/
theorem cutAll_of_run_of_cut_error {args : List String} {groups : List (Group β)} {arg : String}
    {rest more : List String} {stop : Stop} (run : schema.Run args groups (arg :: rest))
    (fails : schema.cut groups arg (rest ++ more) = .error stop) :
    schema.cutAll [] (args ++ more) = .error stop := by
  rw [cutAll_of_run run, List.cons_append, cutAll_of_cut_error fails]

theorem cut_of_awaits {groups : List (Group β)} {arg : String} {f : Field α} {index : Nat}
    {spellings : Spellings} {content : Content α} (owns : schema.Owns arg f index)
    (absent : Absent groups index) (role : f.role = .option spellings content)
    (rest : List String) :
    schema.cut groups arg rest = f.cutValue index content.type arg rest := by
  rw [cut_of_owns owns, Field.cutSpelled, absent_iff.mp absent, role]
  rfl

/-- Without its value the option is rejected. -/
theorem read_of_awaitsValue {args : List String} {arg : String}
    (awaits : schema.AwaitsValue args arg) :
    schema.read args = .rejected (.requiresArgument arg) := by
  obtain ⟨run, owns, absent, role⟩ := awaits
  have cuts := cutAll_of_run_of_cut_error run (cut_of_awaits owns absent role ([] ++ []))
  rw [List.append_nil] at cuts
  rw [read, cuts]

/-- A text behind the spelling is taken as the value or rejected as one. -/
theorem not_final_of_awaitsValue {args : List String} {arg : String}
    (awaits : schema.AwaitsValue args arg) : ¬ schema.Final args := by
  intro final
  -- Any text without a dash at its front will do.
  have same := (final ["value"]).trans (read_of_awaitsValue awaits)
  cases awaits with
  | @value groups f index _ content run owns absent role =>
  have step := cut_of_awaits owns absent role ["value"]
  rw [Field.cutValue, show isDashed "value" = false by decide] at step
  cases reading : ArgumentType.read? content.type "value" with
  | none =>
    rw [reading] at step
    have cuts := cutAll_of_run_of_cut_error run step
    rw [read, cuts] at same
    cases same
  | some value =>
    rw [reading] at step
    have cuts := cutAll_of_run run ["value"]
    rw [List.singleton_append, cutAll_of_cut step, cutAll] at cuts
    rcases read_of_cutAll cuts with ⟨values, accepted⟩ | ⟨name, missing⟩
    · cases accepted.symm.trans same
    · cases missing.symm.trans same

theorem awaitsValue_of_cut {args : List String} {groups : List (Group β)} {arg : String}
    (run : schema.Run args groups [arg])
    (fails : schema.cut groups arg [] = .error (.misuse (.requiresArgument arg))) :
    schema.AwaitsValue args arg := by
  rcases cut_eq_error fails with ⟨-, f, index, spellings, content, owns, absent, role⟩ | ⟨other, -⟩
  · exact .value run owns absent role
  · exact absurd rfl (other arg)

/-! ## Final outcomes -/

/-- The reader comes to the end of the arguments, a value is still to come, or the reader has
stopped for good. -/
theorem run_or_awaitsValue_or_final (schema : Schema α) (args : List String) :
    (∃ groups, schema.Run args groups []) ∨ (∃ arg, schema.AwaitsValue args arg) ∨
      schema.Final args ∧ (schema.read args = .help ∨
        ∃ cause, schema.read args = .rejected cause ∧ ∀ name, cause ≠ .missingRequired name) := by
  obtain ⟨groups, left, continues, stuck⟩ := exists_continues_stuck schema [] args
  have run := run_iff_continues.mpr continues
  cases left with
  | nil => exact .inl ⟨groups, run⟩
  | cons arg rest =>
  obtain ⟨stop, fails⟩ := stuck arg rest rfl
  rw [List.nil_append] at fails
  -- A step can fail for want of arguments in one way only: the value of an option is missing.
  by_cases awaits : rest = [] ∧ stop = .misuse (.requiresArgument arg)
  · obtain ⟨rfl, rfl⟩ := awaits
    exact .inr (.inl ⟨arg, awaitsValue_of_cut run fails⟩)
  refine .inr (.inr ?_)
  have decided : rest = [] → stop ≠ .misuse (.requiresArgument arg) :=
    fun nil misses => awaits ⟨nil, misses⟩
  have always (more : List String) : schema.cutAll [] (args ++ more) = .error stop :=
    cutAll_of_run_of_cut_error run (cut_append fails decided more)
  have here := always []
  rw [List.append_nil] at here
  refine ⟨fun more => by rw [read, read, always, here], ?_⟩
  rw [read, here]
  cases stop with
  | help => exact .inl rfl
  | misuse cause =>
    refine .inr ⟨cause, rfl, ?_⟩
    rintro name rfl
    rcases cut_eq_error fails with ⟨⟨⟩, -⟩ | ⟨-, other⟩
    exact other name rfl

theorem read_of_run {args : List String} {groups : List (Group β)}
    (run : schema.Run args groups []) :
    (∃ values, schema.read args = .accepted values) ∨
      ∃ name, schema.read args = .rejected (.missingRequired name) := by
  have cuts := cutAll_of_run run []
  rw [List.append_nil, List.append_nil, cutAll] at cuts
  exact read_of_cutAll cuts

/-- Complete groups, and an option whose value is still to come, do not stop the reader. -/
theorem final_of_stopped {args : List String}
    (stopped : schema.read args = .help ∨
      ∃ cause, schema.read args = .rejected cause ∧ (∀ name, cause ≠ .missingRequired name) ∧
        ∀ arg, ¬ schema.AwaitsValue args arg) : schema.Final args := by
  rcases run_or_awaitsValue_or_final schema args with ⟨groups, run⟩ | ⟨arg, awaits⟩ | ⟨final, -⟩
  · rcases read_of_run run with ⟨values, accepted⟩ | ⟨name, missing⟩
    · simp [accepted] at stopped
    · simp [missing] at stopped
  · simp only [read_of_awaitsValue awaits, reduceCtorEq, false_or] at stopped
    obtain ⟨cause, -, -, none_awaits⟩ := stopped
    exact absurd awaits (none_awaits arg)
  · exact final

theorem stopped_of_final {args : List String} (final : schema.Final args) :
    schema.read args = .help ∨
      ∃ cause, schema.read args = .rejected cause ∧ (∀ name, cause ≠ .missingRequired name) ∧
        ∀ arg, ¬ schema.AwaitsValue args arg := by
  rcases run_or_awaitsValue_or_final schema args with ⟨groups, run⟩ | ⟨arg, awaits⟩ |
    ⟨-, help | ⟨cause, rejected, other⟩⟩
  · -- The request for help changes nothing, so it was there before.
    have help := read_append_help run []
    rw [List.append_nil, final] at help
    exact .inl help
  · exact absurd final (not_final_of_awaitsValue awaits)
  · exact .inl help
  · exact .inr ⟨cause, rejected, other, fun arg awaits => not_final_of_awaitsValue awaits final⟩

/-- Arguments that are accepted, or that would be with more of them, are complete groups. -/
theorem exists_run_of_read {args : List String}
    (complete : (∃ values, schema.read args = .accepted values) ∨
      ∃ name, schema.read args = .rejected (.missingRequired name)) :
    ∃ groups, schema.Run args groups [] := by
  rcases run_or_awaitsValue_or_final schema args with run | ⟨arg, awaits⟩ |
    ⟨-, help | ⟨cause, rejected, other⟩⟩
  · exact run
  · simp [read_of_awaitsValue awaits] at complete
  · simp [help] at complete
  · simp [rejected, other] at complete

/-- An outcome is final when it is a request for help or a misuse, unless a required field is
missing or a value is still to come at the end of the arguments. Where the reader has come to the
end with complete groups, help can still be asked for. -/
theorem final_iff (schema : Schema α) (args : List String) :
    (schema.Final args ↔
      schema.read args = .help ∨
        ∃ cause, schema.read args = .rejected cause ∧ (∀ name, cause ≠ .missingRequired name) ∧
          ∀ arg, ¬ schema.AwaitsValue args arg) ∧
    (∀ arg, schema.AwaitsValue args arg →
      schema.read args = .rejected (.requiresArgument arg)) ∧
    ((∃ values, schema.read args = .accepted values) ∨
        (∃ name, schema.read args = .rejected (.missingRequired name)) →
      ∀ more, schema.read (args ++ ["-h"] ++ more) = .help) := by
  refine ⟨⟨stopped_of_final, final_of_stopped⟩, fun arg => read_of_awaitsValue, ?_⟩
  intro complete more
  obtain ⟨groups, run⟩ := exists_run_of_read complete
  exact read_append_help run more

/-- A spelling at the end waits for a value, unless the option has been given before it. -/
theorem final_settings :
    (Program.schema.read ["-l", "debug", "--log"] = .rejected (.alreadyGiven "--log") ∧
      Program.schema.Final ["-l", "debug", "--log"]) ∧
    (Program.schema.AwaitsValue ["--log"] "--log" ∧ ¬ Program.schema.Final ["--log"]) ∧
    ∀ more, Program.schema.read (["-l", "debug"] ++ ["-h"] ++ more) = .help := by
  have again : Program.schema.read ["-l", "debug", "--log"] = .rejected (.alreadyGiven "--log") := by
    decide +kernel
  have complete : Program.schema.read ["-l", "debug"]
      = .accepted [none, some (.bool false), some (.string "debug")] := by
    decide +kernel
  have awaits : Program.schema.AwaitsValue ["--log"] "--log" :=
    awaitsValue_of_cut ⟨rfl, .done, .nil⟩
      (show Program.schema.cut [] "--log" [] = .error (.misuse (.requiresArgument "--log")) by
        decide +kernel)
  refine ⟨⟨again, ?_⟩, ⟨awaits, ?_⟩, ?_⟩
  · obtain ⟨final, misses, -⟩ := final_iff Program.schema ["-l", "debug", "--log"]
    refine final.mpr (.inr ⟨_, again, by simp, fun arg awaits => ?_⟩)
    cases again.symm.trans (misses arg awaits)
  · obtain ⟨final, misses, -⟩ := final_iff Program.schema ["--log"]
    intro isFinal
    rcases final.mp isFinal with help | ⟨cause, -, -, none_awaits⟩
    · cases (misses "--log" awaits).symm.trans help
    · exact none_awaits "--log" awaits
  · exact (final_iff Program.schema ["-l", "debug"]).2.2 (.inl ⟨_, complete⟩)

end Schema
end Options
end ScriptScan
