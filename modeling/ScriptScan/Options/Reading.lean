import ScriptScan.Options.Schema
import ScriptScan.Options.Value

/-!
# Reading arguments

A list of arguments is cut into groups from the left. A group gives one field: a flag by
its spelling, an option by its spelling and a value, a positional field by a bare word.
The first argument that starts no group ends the reading, as does a request for help.
When all arguments are used up, every required field must have been given.

`Schema.cut` takes one group off, `Schema.cutAll` all of them, and `Schema.read` tells
the outcome. A group and what is left behind it are the arguments it was cut from
(`args_cut`).

The types of the fields and the way in which their values are read are parameters.
-/

namespace ScriptScan
namespace Options

/-! ## Misuse

Why a list of arguments is rejected, and the message that says so. -/

/-- A field is called by its display name, an argument as it was typed. -/
inductive Misuse where
  | alreadyGiven (name : String)
  | requiresArgument (arg : String)
  | invalidValue (text name : String)
  | notAnOption (arg : String)
  | unexpectedArgument (arg : String)
  | missingRequired (name : String)
  deriving DecidableEq, Repr

def Misuse.message : Misuse → String
  | alreadyGiven name => "option '" ++ name ++ "' has already been given"
  | requiresArgument arg => "'" ++ arg ++ "' requires an argument"
  | invalidValue text name => "invalid value '" ++ text ++ "' for '" ++ name ++ "'"
  | notAnOption arg => "'" ++ arg ++ "' is not a valid option"
  | unexpectedArgument arg => "unexpected argument '" ++ arg ++ "'"
  | missingRequired name => "missing required argument '" ++ name ++ "'"

variable {α β : Type}

/-! ## Groups -/

/-- Arguments that belong together, the place of the field that they give, and its value.
A flag has the value true. -/
structure Group (β : Type) where
  args : List String
  field : Nat
  value : β
  deriving DecidableEq, Repr

/-- Why no further group can be cut off. -/
inductive Stop where
  | help
  | misuse (cause : Misuse)
  deriving DecidableEq, Repr

/-- The spellings of help, which no field can take over. -/
def isHelp (arg : String) : Bool := arg == "-h" || arg == "--help"

/-- The argument starts with a dash. -/
def isDashed (arg : String) : Bool :=
  match arg.toList with
  | '-' :: _ => true
  | _ => false

/-- The argument starts with a dash and goes on. A dash alone is a bare word. -/
def looksLikeOption (arg : String) : Bool :=
  match arg.toList with
  | '-' :: _ :: _ => true
  | _ => false

/-- The field at the place has been given by one of the groups. -/
def isGiven (found : List (Group β)) (index : Nat) : Bool := found.any (·.field == index)

namespace Field

variable [ArgumentType α β]

/-- The group of an option that takes a value. The value must not start with a dash. -/
def cutValue (f : Field α) (index : Nat) (type : α) (arg : String) :
    List String → Except Stop (Group β × List String)
  | [] => .error (.misuse (.requiresArgument arg))
  | text :: rest =>
    if isDashed text then .error (.misuse (.requiresArgument arg))
    else
      match ArgumentType.read? type text with
      | some value => .ok (⟨[arg, text], index, value⟩, rest)
      | none => .error (.misuse (.invalidValue text f.displayName))

/-- The group of a spelling. A field is given once at most. -/
def cutSpelled (f : Field α) (index : Nat) (found : List (Group β)) (arg : String)
    (rest : List String) : Except Stop (Group β × List String) :=
  if isGiven found index then .error (.misuse (.alreadyGiven f.displayName))
  else
    match f.role.content? with
    | none => .ok (⟨[arg], index, ArgumentType.truth α true⟩, rest)
    | some content => f.cutValue index content.type arg rest

/-- The group of a bare word that gives the field. -/
def cutWord (f : Field α) (index : Nat) (arg : String) (rest : List String) :
    Except Stop (Group β × List String) :=
  match f.role.content?.bind fun content => ArgumentType.read? content.type arg with
  | some value => .ok (⟨[arg], index, value⟩, rest)
  | none => .error (.misuse (.invalidValue arg f.displayName))

/-- The value of a field that is not given. -/
def absentValue (f : Field α) : Option β :=
  match f.role.content? with
  | none => some (ArgumentType.truth α false)
  | some content => if content.optional then none else some (ArgumentType.default content.type)

end Field

namespace Schema

/-- The number of bare words among the groups. -/
def wordCount (schema : Schema α) (found : List (Group β)) : Nat :=
  found.countP fun g => schema.positionals.any fun f => f.2 == g.field

/-- The group that starts with the argument, behind the groups found so far, and the
arguments that are left. A bare word gives the next positional field. -/
def cut [ArgumentType α β] (schema : Schema α) (found : List (Group β)) (arg : String)
    (rest : List String) : Except Stop (Group β × List String) :=
  if isHelp arg then .error .help
  else
    match schema.spelled? arg with
    | some (f, index) => f.cutSpelled index found arg rest
    | none =>
      if looksLikeOption arg then .error (.misuse (.notAnOption arg))
      else
        match schema.positionals[schema.wordCount found]? with
        | some (f, index) => f.cutWord index arg rest
        | none => .error (.misuse (.unexpectedArgument arg))

end Schema

/-! ## What is cut off was there -/

variable [ArgumentType α β]

theorem Field.args_cutValue {f : Field α} {index : Nat} {type : α} {arg : String}
    {rest left : List String} {g : Group β}
    (cuts : f.cutValue index type arg rest = .ok (g, left)) :
    ∃ more, g.args = arg :: more ∧ more ++ left = rest := by
  cases rest with
  | nil => simp [Field.cutValue] at cuts
  | cons text rest =>
    simp only [Field.cutValue] at cuts
    split at cuts
    · cases cuts
    split at cuts <;> cases cuts
    exact ⟨[text], rfl, rfl⟩

theorem Field.args_cutSpelled {f : Field α} {index : Nat} {found : List (Group β)}
    {arg : String} {rest left : List String} {g : Group β}
    (cuts : f.cutSpelled index found arg rest = .ok (g, left)) :
    ∃ more, g.args = arg :: more ∧ more ++ left = rest := by
  simp only [Field.cutSpelled] at cuts
  split at cuts
  · cases cuts
  split at cuts
  · cases cuts
    exact ⟨[], rfl, rfl⟩
  · exact Field.args_cutValue cuts

theorem Field.args_cutWord {f : Field α} {index : Nat} {arg : String}
    {rest left : List String} {g : Group β}
    (cuts : f.cutWord index arg rest = .ok (g, left)) :
    ∃ more, g.args = arg :: more ∧ more ++ left = rest := by
  simp only [Field.cutWord] at cuts
  split at cuts <;> cases cuts
  exact ⟨[], rfl, rfl⟩

namespace Schema

/-- A group begins with the first argument, and what is left stands behind the group. -/
theorem args_cut {schema : Schema α} {found : List (Group β)} {arg : String}
    {rest left : List String} {g : Group β}
    (cuts : schema.cut found arg rest = .ok (g, left)) :
    ∃ more, g.args = arg :: more ∧ more ++ left = rest := by
  simp only [cut] at cuts
  split at cuts
  · cases cuts
  split at cuts
  · exact Field.args_cutSpelled cuts
  split at cuts
  · cases cuts
  split at cuts
  · exact Field.args_cutWord cuts
  · cases cuts

/-- What is left behind a group is shorter than what it was cut from. -/
theorem length_cut_lt {schema : Schema α} {found : List (Group β)} {arg : String}
    {rest left : List String} {g : Group β}
    (cuts : schema.cut found arg rest = .ok (g, left)) : left.length < (arg :: rest).length := by
  obtain ⟨more, _, parts⟩ := args_cut cuts
  simp only [← parts, List.length_cons, List.length_append]
  omega

/-! ## All groups -/

/-- All groups of the arguments, behind those found so far. -/
def cutAll (schema : Schema α) (found : List (Group β)) :
    List String → Except Stop (List (Group β))
  | [] => .ok found
  | arg :: rest =>
    match _cuts : schema.cut found arg rest with
    | .ok (g, left) => schema.cutAll (found ++ [g]) left
    | .error stop => .error stop
  termination_by args => args.length
  decreasing_by exact length_cut_lt _cuts

/-! ## Outcome -/

/-- What reading a list of arguments comes to. An accepted list has a value for each field
in order; an optional field that was not given has none. -/
inductive Outcome (β : Type) where
  | accepted (values : List (Option β))
  | help
  | rejected (cause : Misuse)
  deriving DecidableEq, Repr

/-- The value of every field after the groups. -/
def values (schema : Schema α) (groups : List (Group β)) : List (Option β) :=
  schema.indexed.map fun f =>
    match groups.find? (·.field == f.2) with
    | some g => some g.value
    | none => f.1.absentValue

/-- The first required field that no group gives. -/
def missing? (schema : Schema α) (groups : List (Group β)) : Option (Field α × Nat) :=
  schema.indexed.find? fun f => f.1.required && !isGiven groups f.2

/-- The outcome of a list of arguments. -/
def read (schema : Schema α) (args : List String) : Outcome β :=
  match schema.cutAll [] args with
  | .error .help => .help
  | .error (.misuse cause) => .rejected cause
  | .ok groups =>
    match schema.missing? groups with
    | some (field, _) => .rejected (.missingRequired field.displayName)
    | none => .accepted (schema.values groups)

end Schema
end Options
end ScriptScan
