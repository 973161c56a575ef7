import ScriptScan.Proofs.Choice

/-!
# Integers that a field can hold

An argument that starts with a dash is no value: behind a spelling it is refused, and as a word it
looks like an option. So a minus never comes to be read, and the fields of an integer type hold
numbers from zero to the greatest one of the type.

* `IntegerType.bounds_of_read`: what is read from a text that looks like no option is not negative.
* `accepts_exchange`: in accepted arguments the group of one field can be exchanged for any other
  group that gives the same field.
* `integer_field_holds_iff` is the result: a field of an integer type can hold every number that is
  not negative, and no others.
-/

namespace ScriptScan
namespace Options

/-! ## Reading integers -/

namespace IntegerType

variable {t : IntegerType}

theorem least_le_zero (t : IntegerType) : t.least ≤ 0 := by
  rcases t with ⟨signed, width⟩
  cases signed <;> cases width <;> decide +kernel

theorem zero_le_greatest (t : IntegerType) : 0 ≤ t.greatest := by
  rcases t with ⟨signed, width⟩
  cases signed <;> cases width <;> decide +kernel

theorem inRange?_eq_some_iff {n x : Int} :
    t.inRange? n = some x ↔ n = x ∧ t.least ≤ x ∧ x ≤ t.greatest := by
  unfold inRange?
  split
  · next inside =>
    rw [Option.some.injEq]
    constructor
    · rintro rfl
      exact ⟨rfl, inside⟩
    · exact And.left
  · next outside =>
    constructor
    · intro nothing
      cases nothing
    · rintro ⟨rfl, inside⟩
      exact absurd inside outside

theorem bounds_of_magnitude {digits : List Char} {x : Int}
    (read : ((magnitude? digits).bind fun n => t.inRange? n) = some x) :
    0 ≤ x ∧ x ≤ t.greatest := by
  obtain ⟨n, -, inside⟩ := Option.bind_eq_some_iff.mp read
  obtain ⟨rfl, -, below⟩ := inRange?_eq_some_iff.mp inside
  exact ⟨Int.natCast_nonneg n, below⟩

/-- A dash would have to stand alone, and there are no digits behind it then. -/
theorem bounds_of_read {text : String} {x : Int} (read : t.read? text.toList = some x)
    (noOption : looksLikeOption text = false) : 0 ≤ x ∧ x ≤ t.greatest := by
  unfold IntegerType.read? at read
  split at read
  · exact bounds_of_magnitude read
  · next digits starts =>
    cases digits with
    | nil =>
      have nothing : magnitude? [] = none := rfl
      simp [nothing] at read
    | cons c digits =>
      rw [looksLikeOption, starts] at noOption
      cases noOption
  · exact bounds_of_magnitude read

theorem magnitude?_toDigits (n : Nat) : magnitude? (Nat.toDigits 10 n) = some n := by
  have digits : (Nat.toDigits 10 n).all Char.isDigit = true :=
    List.all_eq_true.mpr fun _ => Decimal.isDigit_of_mem_toDigits
  rw [magnitude?, if_pos ⟨Nat.toDigits_ne_nil, digits⟩, Decimal.value_toDigits]

/-- Every number of the type that is not negative is read from its digits. -/
theorem read?_repr {n : Nat} (below : (n : Int) ≤ t.greatest) :
    t.read? n.repr.toList = some (n : Int) := by
  have inside : t.inRange? n = some (n : Int) := by
    refine inRange?_eq_some_iff.mpr ⟨rfl, ?_, below⟩
    exact Int.le_trans t.least_le_zero (Int.natCast_nonneg n)
  have noSign : ∀ sign, sign.isDigit = false → ∀ rest, Nat.toDigits 10 n ≠ sign :: rest := by
    intro sign noDigit rest starts
    have digit : sign.isDigit = true :=
      Decimal.isDigit_of_mem_toDigits (starts ▸ List.mem_cons_self)
    rw [noDigit] at digit
    cases digit
  rw [Nat.toList_repr]
  unfold IntegerType.read?
  split
  · next starts => exact absurd starts (noSign '+' rfl _)
  · next starts => exact absurd starts (noSign '-' rfl _)
  · rw [magnitude?_toDigits, Option.bind_some, inside]

end IntegerType

theorem startsWith_repr (n : Nat) : n.repr.startsWith '-' = false := by
  rw [← Bool.not_eq_true, startsWith_dash_iff, Nat.toList_repr]
  intro head
  have digit : '-'.isDigit = true :=
    Decimal.isDigit_of_mem_toDigits (List.mem_of_mem_head? head)
  cases digit

namespace Schema

/-! ## Exchanging a group -/

section Exchange

variable {α β : Type} {schema : Schema α} [ArgumentType α β]

/-- The new group in the place of one for the same field. -/
def exchange (new g : Group β) : Group β := if g.field = new.field then new else g

theorem field_exchange (new g : Group β) : (exchange new g).field = g.field := by
  unfold exchange
  split
  · next same => exact same.symm
  · rfl

theorem exists_positional_of_givesWord {k : Nat} {g : Group β} (gives : schema.GivesWord k g) :
    ∃ f, schema.positionals[k]? = some (f, g.field) := by
  cases gives with
  | word _ next _ _ => exact ⟨_, positionalAt_iff.mp next⟩

/-- A new group for an option is an option. -/
theorem givesOption_exchange {new g : Group β}
    (gives : schema.GivesOption new ∨ ∃ k, schema.GivesWord k new)
    (option : schema.GivesOption g) : schema.GivesOption (exchange new g) := by
  unfold exchange
  split
  · next same =>
    have isOption := same ▸ isOption_of_givesOption option
    rcases gives with givesOption | ⟨k, givesWord⟩
    · exact givesOption
    · exact absurd isOption (not_isOption_of_givesWord givesWord)
  · exact option

/-- And for a positional field it is a word in the same place. -/
theorem givesWord_exchange {new g : Group β} {k : Nat}
    (gives : schema.GivesOption new ∨ ∃ k, schema.GivesWord k new)
    (word : schema.GivesWord k g) : schema.GivesWord k (exchange new g) := by
  unfold exchange
  split
  · next same =>
    rcases gives with givesOption | ⟨j, givesWord⟩
    · have isOption := isOption_of_givesOption givesOption
      exact absurd (same ▸ isOption) (not_isOption_of_givesWord word)
    · obtain ⟨f, here⟩ := exists_positional_of_givesWord word
      obtain ⟨h, there⟩ := exists_positional_of_givesWord givesWord
      rw [same] at here
      rwa [eq_of_positional here there]
  · exact word

theorem inOrder_exchange {new : Group β}
    (gives : schema.GivesOption new ∨ ∃ k, schema.GivesWord k new) {count : Nat}
    {groups : List (Group β)} (inOrder : schema.InOrder count groups) :
    schema.InOrder count (groups.map (exchange new)) := by
  induction inOrder with
  | done => exact .done
  | option option _ ih => exact .option (givesOption_exchange gives option) ih
  | word word _ ih => exact .word (givesWord_exchange gives word) ih

/-- Accepted arguments stay accepted when one group is exchanged for another that gives the same
field. -/
theorem accepts_exchange {args : List String} {groups : List (Group β)}
    (accepts : schema.Accepts args groups) {new : Group β}
    (gives : schema.GivesOption new ∨ ∃ k, schema.GivesWord k new) :
    schema.Accepts ((groups.map (exchange new)).flatMap Group.args)
      (groups.map (exchange new)) where
  parts := rfl
  inOrder := inOrder_exchange gives accepts.inOrder
  once := by
    refine List.pairwise_map.mpr ?_
    simp only [field_exchange]
    exact accepts.once
  required index f declared needed := by
    obtain ⟨g, member, here⟩ := accepts.required index f declared needed
    exact ⟨_, List.mem_map_of_mem member, (field_exchange new g).trans here⟩

end Exchange

/-! ## What the fields hold -/

variable {schema : Schema ValueType}

/-- Where the spellings can be told apart, every group that gives a field is one of the groups of
some accepted arguments. -/
theorem exists_accepts_with_group (wellSpelled : schema.WellSpelled) {f : Field ValueType}
    {new : Group Value} (declared : schema.fields[new.field]? = some f)
    (gives : schema.GivesOption new ∨ ∃ k, schema.GivesWord k new) :
    ∃ args groups, schema.Accepts args groups ∧ new ∈ groups := by
  obtain ⟨args, groups, accepts, given⟩ :=
    canGive_iff.mp (canGive_of_wellSpelled wellSpelled declared)
  obtain ⟨g, member, same⟩ := List.any_eq_true.mp given
  refine ⟨_, _, accepts_exchange accepts gives, List.mem_map.mpr ⟨g, member, ?_⟩⟩
  exact if_pos (beq_iff_eq.mp same)

/-- A value that is given comes from a text of its type that looks like no option. -/
theorem exists_text_of_gives {g : Group Value}
    (gives : schema.GivesOption g ∨ ∃ k, schema.GivesWord k g) {f : Field ValueType}
    {content : Content ValueType} (declared : schema.fields[g.field]? = some f)
    (takes : f.role.content? = some content) :
    ∃ text, looksLikeOption text = false ∧
      ArgumentType.read? content.type text = some g.value := by
  rcases gives with gives | ⟨k, gives⟩
  · cases gives with
    | flag owns role =>
      cases owns.declared.symm.trans declared
      rw [role] at takes
      cases takes
    | @option _ text _ _ _ _ _ owns role noDash read =>
      cases owns.declared.symm.trans declared
      rw [role] at takes
      cases takes
      refine ⟨text, ?_, read⟩
      rw [← Bool.not_eq_true, looksLikeOption_iff, noDash]
      exact fun dashed => Bool.noConfusion dashed.1
  · cases gives with
    | word word next role read =>
      cases next.declared.symm.trans declared
      rw [role] at takes
      cases takes
      exact ⟨_, (isWord_iff.mp word).2.2, read⟩

/-- A text of the type that does not start with a dash gives the field, behind a spelling or as a
word. -/
theorem exists_gives_of_text (wellSpelled : schema.WellSpelled) {f : Field ValueType} {index : Nat}
    {content : Content ValueType} (declared : schema.fields[index]? = some f)
    (takes : f.role.content? = some content) {text : String} {value : Value}
    (noDash : text.startsWith '-' = false)
    (read : ArgumentType.read? content.type text = some value) :
    ∃ args, schema.GivesOption ⟨args, index, value⟩ ∨
      ∃ k, schema.GivesWord k ⟨args, index, value⟩ := by
  cases role : f.role with
  | positional other =>
    rw [role] at takes
    cases takes
    have positional : f.isPositional = true := by rw [Field.isPositional, role]; rfl
    obtain ⟨k, next⟩ := exists_place_of_positional declared positional
    exact ⟨_, .inr ⟨k, .word (isWord_of_wellSpelled wellSpelled noDash) (positionalAt_iff.mpr next)
      role read⟩⟩
  | flag spellings =>
    rw [role] at takes
    cases takes
  | option spellings other =>
    rw [role] at takes
    cases takes
    have option : f.isPositional = false := by rw [Field.isPositional, role]; rfl
    obtain ⟨s, spelled⟩ := Field.exists_spellingText option
    have owns := owns_of_wellSpelled wellSpelled declared spelled
    exact ⟨_, .inl (.option owns role noDash read)⟩

theorem bounds_of_values {args : List String} {values : List (Option Value)} {index : Nat}
    {f : Field ValueType} {content : Content ValueType} {t : IntegerType} {x : Int}
    (accepted : schema.read args = .accepted values) (declared : schema.fields[index]? = some f)
    (takes : f.role.content? = some content) (integer : content.type = .integer t)
    (holds : values[index]? = some (some (.integer x))) : 0 ≤ x ∧ x ≤ t.greatest := by
  obtain ⟨groups, accepts⟩ := exists_accepts_of_read accepted
  rw [read_of_accepts accepts] at accepted
  cases accepted
  have held := holds_values accepts.inOrder accepts.once
  by_cases given : ∃ g ∈ groups, g.field = index
  · obtain ⟨g, member, rfl⟩ := given
    obtain ⟨text, noOption, read⟩ :=
      exists_text_of_gives (gives_of_mem accepts.inOrder member) declared takes
    have value : g.value = .integer x :=
      Option.some.inj (Option.some.inj ((held.given g member).symm.trans holds))
    rw [value, integer] at read
    obtain ⟨y, number, same⟩ := Option.map_eq_some_iff.mp read
    cases same
    exact IntegerType.bounds_of_read number noOption
  · obtain ⟨value, there, leftOut⟩ :=
      held.absent index f declared fun g member same => given ⟨g, member, same⟩
    have same := there.symm.trans holds
    -- A field that is left out and holds an integer holds the default of its type.
    cases leftOut with
    | flag | optional => cases same
    | plain plain =>
      cases takes.symm.trans (Field.takes_iff.mp plain)
      cases integer
      cases same
      exact ⟨Int.le_refl 0, t.zero_le_greatest⟩

/-- A field of an integer type can hold every number from zero to the greatest one of the type, and
no other number. -/
theorem integer_field_holds_iff (schema : Schema ValueType) (wellSpelled : schema.WellSpelled)
    {f : Field ValueType} {index : Nat} {content : Content ValueType} {t : IntegerType}
    (declared : schema.fields[index]? = some f) (takes : f.role.content? = some content)
    (integer : content.type = .integer t) (x : Int) :
    (∃ args values, schema.read args = .accepted values ∧
        values[index]? = some (some (.integer x))) ↔
      0 ≤ x ∧ x ≤ t.greatest := by
  constructor
  · rintro ⟨args, values, accepted, holds⟩
    exact bounds_of_values accepted declared takes integer holds
  · rintro ⟨notNegative, below⟩
    obtain ⟨n, rfl⟩ := Int.eq_ofNat_of_zero_le notNegative
    have read : ArgumentType.read? content.type n.repr = some (Value.integer n) := by
      rw [integer]
      exact congrArg (Option.map Value.integer) (IntegerType.read?_repr below)
    obtain ⟨args, gives⟩ :=
      exists_gives_of_text wellSpelled declared takes (startsWith_repr n) read
    obtain ⟨args, groups, accepts, member⟩ := exists_accepts_with_group wellSpelled declared gives
    have held := holds_values accepts.inOrder accepts.once
    exact ⟨args, _, read_of_accepts accepts, held.given _ member⟩

/-- A required option and a required word come with the offset, which is a signed byte. -/
def offsetSchema : Schema ValueType :=
  ⟨"move", "", [
    ⟨"name", "", true, .positional ⟨.string, false⟩⟩,
    ⟨"speed", "", true, .option (.both ⟨"-s", by decide⟩ ⟨"--speed", by decide⟩)
      ⟨.integer ⟨false, .w16⟩, true⟩⟩,
    ⟨"offset", "", false, .positional ⟨.integer ⟨true, .w8⟩, false⟩⟩]⟩

/-- The greatest signed byte can be given, and neither the number behind it nor minus one can. -/
theorem integer_field_holds_iff_offset :
    offsetSchema.WellSpelled ∧
    (∃ args values, offsetSchema.read args = .accepted values ∧
      values[2]? = some (some (.integer 127))) ∧
    ¬ (∃ args values, offsetSchema.read args = .accepted values ∧
      values[2]? = some (some (.integer 128))) ∧
    ¬ ∃ args values, offsetSchema.read args = .accepted values ∧
      values[2]? = some (some (.integer (-1))) := by
  have wellSpelled : offsetSchema.WellSpelled :=
    ⟨by decide +kernel, by decide +kernel, by decide +kernel⟩
  have holds_iff := integer_field_holds_iff offsetSchema wellSpelled
    (show offsetSchema.fields[2]? = some _ from rfl) rfl rfl
  refine ⟨wellSpelled, ?_, ?_, ?_⟩
  · exact (holds_iff 127).mpr (by decide +kernel)
  · rw [holds_iff 128]
    decide +kernel
  · rw [holds_iff (-1)]
    decide +kernel

end Schema
end Options
end ScriptScan
