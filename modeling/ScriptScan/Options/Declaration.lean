import ScriptScan.Options.Schema
import ScriptScan.Text.LetterCase

/-!
# Declarations

A schema can be declared as a structure type whose fields carry attributes. The
declaration is checked field by field and the first fault is reported. Of the type of a
field only the last name of its path matters: `bool` makes a flag, `Option` an optional
value, and every other name a value.
-/

namespace ScriptScan
namespace Options

/-! ## Types of fields

The type of a field comes as the language takes it apart. It is a path, or one of the other
forms of type, such as a reference, a tuple or a function. Types inside a path are kept as
they are written, since nothing looks into them. -/

/-- What stands behind a name of a path. -/
inductive PathArguments where
  | none
  /-- Arguments in angles, as in `Option<u8>`. -/
  | angled (arguments : List String)
  /-- The inputs and the result of a function, as in `Fn(u8) -> bool`. -/
  | parenthesized (inputs : List String) (result : Option String)
  deriving DecidableEq, Repr

/-- A name of a path and what stands behind it. -/
structure PathSegment where
  name : String
  arguments : PathArguments
  deriving DecidableEq, Repr

/-- The type in angles that a path starts from. When it is seen as a trait, as in
`<T as Item>::Key`, the first segments of the path are those of the trait. -/
structure QualifiedSelf where
  type : String
  traitSegments : Nat
  deriving DecidableEq, Repr

/-- A path as a type. Two colons may stand in front of its first segment. -/
structure TypePath where
  qualifiedSelf : Option QualifiedSelf
  leadingColons : Bool
  segments : List PathSegment
  deriving DecidableEq, Repr

namespace TypePath

/-- The path of a single segment. -/
def single (name : String) (arguments : PathArguments) : TypePath :=
  ⟨none, false, [⟨name, arguments⟩]⟩

/-- The name of the last segment. -/
def lastName? (p : TypePath) : Option String := p.segments.getLast?.map PathSegment.name

end TypePath

/-- A type is a path or it is not. -/
inductive TypeExpr where
  | path (path : TypePath)
  | other
  deriving DecidableEq, Repr

/-! ## Declarations -/

/-- A declared field. An attribute that is empty counts as missing. -/
structure FieldDeclaration where
  name : String
  type : TypeExpr
  short : String
  long : String
  description : String
  required : Bool
  positional : Bool
  deriving DecidableEq, Repr

/-- What stands behind the name of a declared type. -/
inductive DeclarationBody where
  | named (fields : List FieldDeclaration)
  | tuple (fields : List FieldDeclaration)
  | unit
  | enumeration
  | union
  deriving DecidableEq, Repr

/-- A declared type. Without a program name its own name is taken in lower case. -/
structure Declaration where
  name : String
  program : String
  description : String
  body : DeclarationBody
  deriving DecidableEq, Repr

/-- The faults of a declaration. -/
inductive DeclarationError where
  | notStructure
  | unnamedField
  | unsupportedType
  | positionalFlag
  | missingSpelling
  deriving DecidableEq, Repr

def DeclarationError.message : DeclarationError → String
  | notStructure => "CmdArgs can only be derived for structs"
  | unnamedField => "tuple struct fields are not supported"
  | unsupportedType => "unsupported argument type"
  | positionalFlag => "a positional argument cannot be a bool flag"
  | missingSpelling => "an option needs a `short` or a `long` spelling"

/-! ## Checks -/

namespace FieldDeclaration

/-- The spellings of the attributes that are not empty. -/
def spellings? (f : FieldDeclaration) : Option Spellings :=
  Spellings.ofOptions? (Spelling.ofText? f.short) (Spelling.ofText? f.long)

/-- The role of a field whose type is the path with the given last name. -/
def role (f : FieldDeclaration) (path : TypePath) (last : String) :
    Except DeclarationError (Role TypePath) :=
  let content : Content TypePath := ⟨path, last == "Option"⟩
  let isFlag := last == "bool"
  if f.positional then
    if isFlag then .error .positionalFlag else .ok (.positional content)
  else
    match f.spellings? with
    | none => .error .missingSpelling
    | some spellings => .ok (if isFlag then .flag spellings else .option spellings content)

/-- The field of a schema, or what is wrong with the declaration. A path without a name is
refused like another form of type. -/
def toField (f : FieldDeclaration) : Except DeclarationError (Field TypePath) :=
  match f.type with
  | .other => .error .unsupportedType
  | .path path =>
    match path.lastName? with
    | none => .error .unsupportedType
    | some last =>
      (f.role path last).map fun role => ⟨f.name, f.description, f.required, role⟩

end FieldDeclaration

namespace Declaration

/-- The fields in order, or the fault of the first one that has one. -/
def fields : DeclarationBody → Except DeclarationError (List (Field TypePath))
  | .named fields => fields.mapM FieldDeclaration.toField
  | .tuple [] => .ok []
  | .tuple (_ :: _) => .error .unnamedField
  | .unit => .ok []
  | .enumeration => .error .notStructure
  | .union => .error .notStructure

/-- The name that the usage text shows. -/
def programName (d : Declaration) : String :=
  if d.program = "" then Text.lower d.name else d.program

/-- The schema of a declaration, or what is wrong with it. -/
def schema (d : Declaration) : Except DeclarationError (Schema TypePath) :=
  (fields d.body).map fun fields => ⟨d.programName, d.description, fields⟩

end Declaration
end Options
end ScriptScan
