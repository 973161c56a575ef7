import Mathlib.Data.List.Forall2
import ScriptScan.Options.Declaration

/-!
# Which declarations are refused

A declaration is refused for its first fault, and the message does not depend on what stands behind
that. `DescribedField.Allowed` says of a field that nothing is wrong with it, `DescribedField.Fault`
what is wrong with it, and `FirstFault` goes through the fields in order of declaration.

* `DescribedField.judged`: all that the check of a field can come to.
* `refused_mapM_iff`: the check of all fields ends at the first one that has a fault.
* `Declaration.sameVerdict_of_alike`: fields that are alike, one by one, are judged alike. Of the type
  of a field only its end counts (`TypeExpr.EndsIn`).
* `schema_verdict` is the result, for every declaration.
-/

namespace ScriptScan
namespace Options

/-! ## The end of a path -/

namespace TypeExpr

/-- The type is a path and the last of its segments has the name. -/
inductive EndsIn : TypeExpr → String → Prop
  | path {qualifiedSelf : Option QualifiedSelf} {leadingColons : Bool}
      {earlier : List PathSegment} {name : String} {arguments : PathArguments} :
      EndsIn (.path ⟨qualifiedSelf, leadingColons, earlier ++ [⟨name, arguments⟩]⟩) name

theorem endsIn_path_iff {p : TypePath} {name : String} :
    (path p).EndsIn name ↔ p.lastName? = some name := by
  obtain ⟨qualifiedSelf, leadingColons, segments⟩ := p
  rw [TypePath.lastName?, Option.map_eq_some_iff]
  constructor
  · rintro ⟨⟩
    exact ⟨_, List.getLast?_concat, rfl⟩
  · rintro ⟨⟨name, arguments⟩, last, rfl⟩
    obtain ⟨earlier, rfl⟩ := List.getLast?_eq_some_iff.mp last
    exact .path

theorem exists_path_of_endsIn {type : TypeExpr} {name : String} (ends : type.EndsIn name) :
    ∃ p, type = .path p ∧ p.lastName? = some name := by
  cases type with
  | other => cases ends
  | path p => exact ⟨p, rfl, endsIn_path_iff.mp ends⟩

/-- A path ends in one name only. -/
theorem eq_of_endsIn {type : TypeExpr} {m n : String} (first : type.EndsIn m)
    (second : type.EndsIn n) : m = n := by
  obtain ⟨p, rfl, last⟩ := exists_path_of_endsIn first
  exact Option.some.inj (last.symm.trans (endsIn_path_iff.mp second))

end TypeExpr

/-! ## Described fields -/

/-- A field as it is described. The fields of a tuple have no names. -/
structure DescribedField where
  named : Bool
  declared : FieldDeclaration

/-- The body is that of a structure, with named fields, with unnamed ones or without any. -/
def DeclarationBody.isStructure : DeclarationBody → Bool
  | .named _ | .tuple _ | .unit => true
  | .enumeration | .union => false

/-- The fields in order of declaration. -/
def DeclarationBody.described : DeclarationBody → List DescribedField
  | .named fields => fields.map (⟨true, ·⟩)
  | .tuple fields => fields.map (⟨false, ·⟩)
  | .unit | .enumeration | .union => []

namespace DescribedField

/-- Nothing is wrong with the field. -/
structure Allowed (f : DescribedField) : Prop where
  named : f.named = true
  path : ∃ last, f.declared.type.EndsIn last
  noPositionalFlag : ¬ (f.declared.positional = true ∧ f.declared.type.EndsIn "bool")
  spelled : f.declared.positional = true ∨ f.declared.short ≠ "" ∨ f.declared.long ≠ ""

/-- What is wrong with the field, in the order in which it is judged. -/
inductive Fault (f : DescribedField) : String → Prop
  | unnamed : f.named = false → Fault f "tuple struct fields are not supported"
  | noPath : f.named = true → (∀ last, ¬ f.declared.type.EndsIn last) →
      Fault f "unsupported argument type"
  | positionalFlag : f.named = true → f.declared.type.EndsIn "bool" →
      f.declared.positional = true → Fault f "a positional argument cannot be a bool flag"
  | unspelled {last : String} : f.named = true → f.declared.type.EndsIn last →
      f.declared.positional = false → f.declared.short = "" → f.declared.long = "" →
      Fault f "an option needs a `short` or a `long` spelling"

/-- The fields have the same attributes, and their types the same ends. -/
structure Alike (f g : DescribedField) : Prop where
  named : f.named = g.named
  ends : ∀ last, f.declared.type.EndsIn last ↔ g.declared.type.EndsIn last
  short : f.declared.short = g.declared.short
  long : f.declared.long = g.declared.long
  positional : f.declared.positional = g.declared.positional

end DescribedField

/-- What is wrong with the first field that has a fault. -/
inductive FirstFault : List DescribedField → String → Prop
  | here {f : DescribedField} {rest : List DescribedField} {message : String} :
      f.Fault message → FirstFault (f :: rest) message
  | later {f : DescribedField} {rest : List DescribedField} {message : String} :
      f.Allowed → FirstFault rest message → FirstFault (f :: rest) message

/-- The result is an error with the message. -/
def Refused {γ : Type} (result : Except DeclarationError γ) (message : String) : Prop :=
  ∃ e, result = .error e ∧ e.message = message

theorem refused_error_iff {γ : Type} {e : DeclarationError} {message : String} :
    Refused (.error e : Except DeclarationError γ) message ↔ e.message = message := by
  constructor
  · rintro ⟨_, ⟨⟩, same⟩
    exact same
  · intro same
    exact ⟨e, rfl, same⟩

theorem not_refused_ok {γ : Type} {value : γ} {message : String} :
    ¬ Refused (.ok value) message := by
  rintro ⟨_, ⟨⟩, -⟩

theorem exists_map_eq_ok_iff {γ δ : Type} {result : Except DeclarationError γ} {f : γ → δ} :
    (∃ value, result.map f = .ok value) ↔ ∃ value, result = .ok value := by
  cases result with
  | error e => exact iff_of_false (by rintro ⟨_, ⟨⟩⟩) (by rintro ⟨_, ⟨⟩⟩)
  | ok value => exact iff_of_true ⟨_, rfl⟩ ⟨_, rfl⟩

theorem refused_map_iff {γ δ : Type} {result : Except DeclarationError γ} {f : γ → δ}
    {message : String} : Refused (result.map f) message ↔ Refused result message := by
  cases result with
  | error e => exact refused_error_iff.trans refused_error_iff.symm
  | ok value => exact iff_of_false not_refused_ok not_refused_ok

/-! ## One field -/

namespace DescribedField

variable {f g : DescribedField}

theorem not_fault_of_allowed (allowed : f.Allowed) {message : String} : ¬ f.Fault message := by
  intro fault
  cases fault with
  | unnamed noName =>
    rw [allowed.named] at noName
    cases noName
  | noPath _ other =>
    obtain ⟨last, ends⟩ := allowed.path
    exact other last ends
  | positionalFlag _ isBool positional => exact allowed.noPositionalFlag ⟨positional, isBool⟩
  | unspelled _ _ option noShort noLong =>
    rcases allowed.spelled with positional | short | long
    · rw [option] at positional
      cases positional
    · exact short noShort
    · exact long noLong

/-- A field has one fault at most: of several the one that is judged first. -/
theorem eq_of_fault {m n : String} (first : f.Fault m) (second : f.Fault n) : m = n := by
  cases first <;> cases second <;> simp_all

theorem Alike.refl (f : DescribedField) : f.Alike f := ⟨rfl, fun _ => Iff.rfl, rfl, rfl, rfl⟩

theorem Alike.symm (alike : f.Alike g) : g.Alike f :=
  ⟨alike.named.symm, fun last => (alike.ends last).symm, alike.short.symm, alike.long.symm,
    alike.positional.symm⟩

theorem Alike.allowed (alike : f.Alike g) (allowed : f.Allowed) : g.Allowed where
  named := alike.named ▸ allowed.named
  path := by
    obtain ⟨last, ends⟩ := allowed.path
    exact ⟨last, (alike.ends last).mp ends⟩
  noPositionalFlag := by
    rw [← alike.positional, ← alike.ends]
    exact allowed.noPositionalFlag
  spelled := alike.positional ▸ alike.short ▸ alike.long ▸ allowed.spelled

theorem Alike.fault (alike : f.Alike g) {message : String} (fault : f.Fault message) :
    g.Fault message := by
  obtain ⟨named, ends, short, long, positional⟩ := alike
  cases fault with
  | unnamed noName => exact .unnamed (named ▸ noName)
  | noPath name other =>
    exact .noPath (named ▸ name) fun last end_there => other last ((ends last).mpr end_there)
  | positionalFlag name isBool isPositional =>
    exact .positionalFlag (named ▸ name) ((ends _).mp isBool) (positional ▸ isPositional)
  | unspelled name path option noShort noLong =>
    exact .unspelled (named ▸ name) ((ends _).mp path) (positional ▸ option) (short ▸ noShort)
      (long ▸ noLong)

/-- The check of a field, with or without a name. -/
def check (f : DescribedField) : Except DeclarationError (Field TypePath) :=
  if f.named then f.declared.toField else .error .unnamedField

end DescribedField

theorem FieldDeclaration.spellings?_eq_none_iff {f : FieldDeclaration} :
    f.spellings? = none ↔ f.short = "" ∧ f.long = "" := by
  unfold spellings? Spelling.ofText?
  by_cases short : f.short = "" <;> by_cases long : f.long = "" <;>
    simp [short, long, Spellings.ofOptions?]

theorem DescribedField.check_of_path {declared : FieldDeclaration} {path : TypePath}
    {last : String} (type : declared.type = .path path) (name : path.lastName? = some last) :
    check ⟨true, declared⟩
      = (declared.role path last).map
          fun role => ⟨declared.name, declared.description, declared.required, role⟩ := by
  rw [check, if_pos rfl, FieldDeclaration.toField, type]
  simp only [name]

theorem DescribedField.check_of_noPath {declared : FieldDeclaration}
    (noPath : ∀ last, ¬ declared.type.EndsIn last) :
    check ⟨true, declared⟩ = .error .unsupportedType := by
  rw [check, if_pos rfl, FieldDeclaration.toField]
  cases type : declared.type with
  | other => rfl
  | path path =>
    cases name : path.lastName? with
    | none => simp only [name]
    | some last => exact absurd (type ▸ TypeExpr.endsIn_path_iff.mpr name) (noPath last)

/-- The check of a field finds nothing wrong and makes a field of a schema, or it finds the fault. -/
theorem DescribedField.judged (f : DescribedField) :
    (f.Allowed ∧ ∃ field, f.check = .ok field) ∨
      ∃ e, f.check = .error e ∧ f.Fault e.message := by
  obtain ⟨named, declared⟩ := f
  cases named with
  | false => exact .inr ⟨.unnamedField, rfl, .unnamed rfl⟩
  | true =>
    by_cases noPath : ∀ last, ¬ declared.type.EndsIn last
    · exact .inr ⟨.unsupportedType, check_of_noPath noPath, .noPath rfl noPath⟩
    obtain ⟨last, ends⟩ := Classical.not_forall_not.mp noPath
    obtain ⟨path, type, name⟩ := TypeExpr.exists_path_of_endsIn ends
    rw [check_of_path type name]
    cases positional : declared.positional with
    | true =>
      by_cases isBool : last = "bool"
      · have role : declared.role path last = .error .positionalFlag := by
          simp [FieldDeclaration.role, positional, isBool]
        rw [role]
        exact .inr ⟨_, rfl, .positionalFlag rfl (isBool ▸ ends) positional⟩
      · have role : declared.role path last = .ok (.positional ⟨path, last == "Option"⟩) := by
          simp [FieldDeclaration.role, positional, isBool]
        rw [role]
        refine .inl ⟨⟨rfl, ⟨last, ends⟩, fun flag => isBool ?_, .inl positional⟩, _, rfl⟩
        exact TypeExpr.eq_of_endsIn ends flag.2
    | false =>
      cases spelled : declared.spellings? with
      | none =>
        have role : declared.role path last = .error .missingSpelling := by
          simp [FieldDeclaration.role, positional, spelled]
        obtain ⟨noShort, noLong⟩ := FieldDeclaration.spellings?_eq_none_iff.mp spelled
        rw [role]
        exact .inr ⟨_, rfl, .unspelled rfl ends positional noShort noLong⟩
      | some spellings =>
        have role : declared.role path last
            = .ok (if last == "bool" then .flag spellings
              else .option spellings ⟨path, last == "Option"⟩) := by
          simp [FieldDeclaration.role, positional, spelled]
        rw [role]
        refine .inl ⟨⟨rfl, ⟨last, ends⟩, ?_, .inr ?_⟩, _, rfl⟩
        · rw [positional]
          exact fun flag => Bool.noConfusion flag.1
        · refine Decidable.not_and_iff_not_or_not.mp fun neither => ?_
          rw [FieldDeclaration.spellings?_eq_none_iff.mpr neither] at spelled
          cases spelled

theorem DescribedField.refused_check_iff {f : DescribedField} {message : String} :
    Refused f.check message ↔ f.Fault message := by
  rcases f.judged with ⟨allowed, field, checked⟩ | ⟨e, checked, fault⟩
  · rw [checked]
    exact iff_of_false not_refused_ok (not_fault_of_allowed allowed)
  · rw [checked, refused_error_iff]
    constructor
    · rintro rfl
      exact fault
    · exact eq_of_fault fault

/-! ## All fields -/

open DescribedField

theorem mapM_check_of_ok {f : DescribedField} {field : Field TypePath}
    (checked : f.check = .ok field) (rest : List DescribedField) :
    (f :: rest).mapM check = (rest.mapM check).map (field :: ·) := by
  rw [List.mapM_cons, checked]
  cases rest.mapM check <;> rfl

theorem mapM_check_of_error {f : DescribedField} {e : DeclarationError}
    (checked : f.check = .error e) (rest : List DescribedField) :
    (f :: rest).mapM check = .error e := by
  rw [List.mapM_cons, checked]
  rfl

theorem mapM_check_eq_ok_iff {fields : List DescribedField} :
    (∃ found, fields.mapM check = .ok found) ↔ ∀ f ∈ fields, f.Allowed := by
  induction fields with
  | nil => exact iff_of_true ⟨[], rfl⟩ (List.forall_mem_nil _)
  | cons f rest ih =>
    rw [List.forall_mem_cons, ← ih]
    rcases f.judged with ⟨allowed, field, checked⟩ | ⟨e, checked, fault⟩
    · rw [mapM_check_of_ok checked, exists_map_eq_ok_iff, and_iff_right allowed]
    · rw [mapM_check_of_error checked]
      refine iff_of_false (by rintro ⟨_, ⟨⟩⟩) ?_
      exact fun both => not_fault_of_allowed both.1 fault

theorem firstFault_cons_iff {f : DescribedField} {rest : List DescribedField} {message : String} :
    FirstFault (f :: rest) message ↔ f.Fault message ∨ f.Allowed ∧ FirstFault rest message := by
  constructor
  · rintro (fault | ⟨allowed, later⟩)
    · exact .inl fault
    · exact .inr ⟨allowed, later⟩
  · rintro (fault | ⟨allowed, later⟩)
    · exact .here fault
    · exact .later allowed later

/-- The check ends at the first field that has a fault. -/
theorem refused_mapM_iff {fields : List DescribedField} {message : String} :
    Refused (fields.mapM check) message ↔ FirstFault fields message := by
  induction fields with
  | nil => exact iff_of_false not_refused_ok (by rintro ⟨⟩)
  | cons f rest ih =>
    rw [firstFault_cons_iff, ← refused_check_iff, ← ih]
    rcases f.judged with ⟨allowed, field, checked⟩ | ⟨e, checked, fault⟩
    · rw [mapM_check_of_ok checked, refused_map_iff, checked, or_iff_right not_refused_ok,
        and_iff_right allowed]
    · rw [mapM_check_of_error checked, checked, refused_error_iff, refused_error_iff]
      refine (or_iff_left ?_).symm
      exact fun both => not_fault_of_allowed both.1 fault

/-- The fields of a structure are checked one by one, whether they have names or not. -/
theorem fields_eq_mapM {body : DeclarationBody} (isStructure : body.isStructure = true) :
    Declaration.fields body = body.described.mapM check := by
  cases body with
  | named fields => rw [DeclarationBody.described, List.mapM_map]; rfl
  | tuple fields =>
    cases fields with
    | nil => rfl
    | cons f rest => exact (mapM_check_of_error rfl _).symm
  | unit => rfl
  | enumeration | union => cases isStructure

theorem fields_of_noStructure {body : DeclarationBody} (noStructure : body.isStructure = false) :
    Declaration.fields body = .error .notStructure := by
  cases body with
  | enumeration | union => rfl
  | _ => cases noStructure

theorem FirstFault.of_alike {fields others : List DescribedField}
    (alike : List.Forall₂ Alike fields others) {message : String}
    (fault : FirstFault fields message) : FirstFault others message := by
  induction alike with
  | nil => cases fault
  | cons same _ ih =>
    cases fault with
    | here fault => exact .here (same.fault fault)
    | later allowed later => exact .later (same.allowed allowed) (ih later)

/-! ## The verdict -/

namespace Declaration

variable {d : Declaration}

theorem exists_schema_iff :
    (∃ schema, d.schema = .ok schema) ↔
      d.body.isStructure = true ∧ ∀ f ∈ d.body.described, f.Allowed := by
  rw [schema, exists_map_eq_ok_iff]
  cases isStructure : d.body.isStructure with
  | true => rw [fields_eq_mapM isStructure, mapM_check_eq_ok_iff, and_iff_right rfl]
  | false =>
    rw [fields_of_noStructure isStructure]
    exact iff_of_false (by rintro ⟨_, ⟨⟩⟩) fun both => Bool.noConfusion both.1

theorem refused_schema_iff {message : String} :
    Refused d.schema message ↔
      (d.body.isStructure = false ∧ message = "CmdArgs can only be derived for structs") ∨
        (d.body.isStructure = true ∧ FirstFault d.body.described message) := by
  rw [schema, refused_map_iff]
  cases isStructure : d.body.isStructure with
  | true => simp [fields_eq_mapM isStructure, refused_mapM_iff]
  | false =>
    rw [fields_of_noStructure isStructure, refused_error_iff]
    simp [DeclarationError.message, eq_comm]

/-- Either both declarations are accepted, or both are refused with the same message. -/
structure SameVerdict (d other : Declaration) : Prop where
  accepted : (∃ schema, d.schema = .ok schema) ↔ ∃ schema, other.schema = .ok schema
  refused : ∀ message, Refused d.schema message ↔ Refused other.schema message

theorem exists_schema_iff_not_refused :
    (∃ schema, d.schema = .ok schema) ↔ ∀ message, ¬ Refused d.schema message := by
  cases d.schema with
  | ok schema => exact iff_of_true ⟨schema, rfl⟩ fun _ => not_refused_ok
  | error e =>
    refine iff_of_false (by rintro ⟨_, ⟨⟩⟩) fun none_refused => ?_
    exact none_refused e.message (refused_error_iff.mpr rfl)

/-- The verdict depends on no more of the fields than what alike fields have in common. -/
theorem sameVerdict_of_alike {other : Declaration}
    (sameKind : d.body.isStructure = other.body.isStructure)
    (alike : List.Forall₂ Alike d.body.described other.body.described) : d.SameVerdict other := by
  have back : List.Forall₂ Alike other.body.described d.body.described :=
    alike.flip.imp fun _ _ same => same.symm
  have refused : ∀ message, Refused d.schema message ↔ Refused other.schema message := by
    intro message
    have same : FirstFault d.body.described message ↔ FirstFault other.body.described message :=
      ⟨FirstFault.of_alike alike, FirstFault.of_alike back⟩
    rw [refused_schema_iff, refused_schema_iff, sameKind, same]
  refine ⟨?_, refused⟩
  rw [exists_schema_iff_not_refused, exists_schema_iff_not_refused]
  exact forall_congr' fun message => not_congr (refused message)

/-- In place of the path of a field any other path with the same last name can stand. -/
theorem alike_of_endsIn {before after : List FieldDeclaration} {f : FieldDeclaration}
    {p q : TypePath} {name : String} (first : (TypeExpr.path p).EndsIn name)
    (second : (TypeExpr.path q).EndsIn name) :
    List.Forall₂ Alike
      (DeclarationBody.described (.named (before ++ { f with type := .path p } :: after)))
      (DeclarationBody.described (.named (before ++ { f with type := .path q } :: after))) := by
  have same : ∀ fields : List FieldDeclaration, List.Forall₂ Alike
      (fields.map (⟨true, ·⟩)) (fields.map (⟨true, ·⟩)) :=
    fun fields => List.forall₂_same.mpr fun f _ => .refl f
  have ends : ∀ last, (TypeExpr.path p).EndsIn last ↔ (TypeExpr.path q).EndsIn last := by
    intro last
    constructor
    · intro there
      exact TypeExpr.eq_of_endsIn first there ▸ second
    · intro there
      exact TypeExpr.eq_of_endsIn second there ▸ first
  rw [DeclarationBody.described, DeclarationBody.described, List.map_append, List.map_append]
  exact List.rel_append (same before) (.cons ⟨rfl, ends, rfl, rfl, rfl⟩ (same after))

/-- A declaration is accepted when it is a structure and nothing is wrong with any of its fields.
Otherwise the message is that for other kinds of types, or that of the first field with a fault. Two
declarations have the same verdict when their fields differ in no more than their names, their
descriptions and what their types have in front of their ends and behind. So for any field one path
can stand in place of another one with the same last name, whatever qualifies it, whether colons
stand in front of it, and whichever segments and arguments the two have. -/
theorem schema_verdict (d : Declaration) :
    ((∃ schema, d.schema = .ok schema) ↔
      d.body.isStructure = true ∧ ∀ f ∈ d.body.described, f.Allowed) ∧
    (∀ message, (∃ e, d.schema = .error e ∧ e.message = message) ↔
      (d.body.isStructure = false ∧ message = "CmdArgs can only be derived for structs") ∨
        (d.body.isStructure = true ∧ FirstFault d.body.described message)) ∧
    (∀ other : Declaration, d.body.isStructure = other.body.isStructure →
      List.Forall₂ Alike d.body.described other.body.described → d.SameVerdict other) ∧
    ∀ (before after : List FieldDeclaration) (f : FieldDeclaration) (p q : TypePath) (name : String),
      (TypeExpr.path p).EndsIn name → (TypeExpr.path q).EndsIn name →
      SameVerdict { d with body := .named (before ++ { f with type := .path p } :: after) }
        { d with body := .named (before ++ { f with type := .path q } :: after) } := by
  refine ⟨exists_schema_iff, fun message => refused_schema_iff, ?_, ?_⟩
  · intro other sameKind alike
    exact sameVerdict_of_alike sameKind alike
  · intro before after f p q name first second
    exact sameVerdict_of_alike rfl (alike_of_endsIn first second)

/-- An option with a value that can be left out. -/
def bytesField : FieldDeclaration :=
  ⟨"bytes", .path ⟨none, false, [⟨"std", .none⟩, ⟨"option", .none⟩,
    ⟨"Option", .angled ["[u8; 2]"]⟩]⟩, "-b", "", "", false, false⟩

/-- A field whose type is no path, and which has no spelling either. -/
def restField : FieldDeclaration := ⟨"rest", .other, "", "", "", false, false⟩

/-- Between these two a positional field without a spelling. -/
def threeFields (flagType : TypePath) : Declaration :=
  ⟨"Tool", "", "", .named
    [bytesField, ⟨"loud", .path flagType, "", "", "", true, true⟩, restField]⟩

/-- The path `<[u8; 1 << 4] as ::Marked<u8>>::bool`. -/
def qualifiedBool : TypePath :=
  ⟨some ⟨"[u8; 1 << 4]", 1⟩, true, [⟨"Marked", .angled ["u8"]⟩, ⟨"bool", .none⟩]⟩

/-- The second field is the first one with a fault, and of its two faults the flag is judged first,
however the path of its type is written. -/
theorem schema_verdict_threeFields :
    (TypeExpr.path (.single "bool" .none)).EndsIn "bool" ∧
    (TypeExpr.path qualifiedBool).EndsIn "bool" ∧
    (∃ e, (threeFields (.single "bool" .none)).schema = .error e ∧
      e.message = "a positional argument cannot be a bool flag") ∧
    ∃ e, (threeFields qualifiedBool).schema = .error e ∧
      e.message = "a positional argument cannot be a bool flag" := by
  have plain : (TypeExpr.path (.single "bool" .none)).EndsIn "bool" :=
    TypeExpr.endsIn_path_iff.mpr rfl
  have qualified : (TypeExpr.path qualifiedBool).EndsIn "bool" := TypeExpr.endsIn_path_iff.mpr rfl
  have option : bytesField.type.EndsIn "Option" := TypeExpr.endsIn_path_iff.mpr rfl
  obtain ⟨-, refused_iff, -, sameVerdict⟩ := schema_verdict (threeFields (.single "bool" .none))
  have fault : FirstFault (threeFields (.single "bool" .none)).body.described
      "a positional argument cannot be a bool flag" :=
    .later ⟨rfl, ⟨_, option⟩, fun flag => Bool.noConfusion flag.1, .inr (.inl (by decide))⟩
      (.here (.positionalFlag rfl plain rfl))
  have refused := (refused_iff _).mpr (.inr ⟨rfl, fault⟩)
  have same := sameVerdict [bytesField] [restField] ⟨"loud", .other, "", "", "", true, true⟩
    _ _ "bool" plain qualified
  exact ⟨plain, qualified, refused, (same.refused _).mp refused⟩

end Declaration

end Options
end ScriptScan
