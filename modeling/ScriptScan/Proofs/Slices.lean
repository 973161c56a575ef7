import Mathlib.Data.List.Basic

/-!
# Slices of a source

Offsets into a source count the bytes of UTF-8, and a slice is the text between two of them.
Slicing reads the bytes and goes wrong when the bounds are out of order, when one of them lies
behind the source, or when one of them stands inside of a character.

* `isValid_iff_onBoundary`: the byte at an offset tells whether the source can be split there
  into two texts.
* `slice_eq_ok_iff`: a slice is what stands between two such splits.
* `exists_slice_iff`: there is one exactly when its bounds are in order and both are boundaries.
-/

namespace ScriptScan

/-- A slice whose bounds are out of order, or not both on a boundary. -/
structure BadSlice where
  first : Nat
  last : Nat
  deriving DecidableEq, Repr

/-- The text between two offsets. A bound is fit for it when it is the end of the source, or
when the byte behind it is the first byte of a character. -/
def slice (source : String) (first last : Nat) : Except BadSlice String :=
  if first ≤ last ∧ String.Pos.Raw.isValid source ⟨first⟩ ∧ String.Pos.Raw.isValid source ⟨last⟩ then
    match String.fromUTF8? (source.toByteArray.extract first last) with
    | some text => .ok text
    | none => .error ⟨first, last⟩
  else .error ⟨first, last⟩

/-- What follows on a slice that exists. -/
theorem ok_bind {α β : Type} (a : α) (f : α → Except BadSlice β) : (Except.ok a >>= f) = f a := rfl

/-- The source is a text up to the offset and a text behind it. -/
def OnBoundary (source : String) (offset : Nat) : Prop :=
  ∃ before after : String, source = before ++ after ∧ before.utf8ByteSize = offset

theorem isValid_iff_onBoundary {source : String} {offset : Nat} :
    String.Pos.Raw.isValid source ⟨offset⟩ = true ↔ OnBoundary source offset := by
  rw [String.Pos.Raw.isValid_eq_true_iff, String.Pos.Raw.isValid_iff_exists_append]
  constructor
  · rintro ⟨before, after, rfl, size⟩
    exact ⟨before, after, rfl, (congrArg String.Pos.Raw.byteIdx size).symm⟩
  · rintro ⟨before, after, rfl, rfl⟩
    exact ⟨before, after, rfl, rfl⟩

theorem fromUTF8?_toByteArray (text : String) : String.fromUTF8? text.toByteArray = some text := by
  rw [String.fromUTF8?, dif_pos text.isValidUTF8]
  rfl

theorem extract_between (before text after : String) :
    (before ++ text ++ after).toByteArray.extract before.utf8ByteSize (before ++ text).utf8ByteSize
      = text.toByteArray := by
  rw [String.toByteArray_append, ← String.size_toByteArray, ← String.size_toByteArray,
    ByteArray.extract_append_size_left, String.toByteArray_append]
  exact ByteArray.extract_append_eq_right rfl (by rw [ByteArray.size_append])

/-- What stands between two splits of the source is a slice. -/
theorem slice_between (before text after : String) :
    slice (before ++ text ++ after) before.utf8ByteSize (before ++ text).utf8ByteSize = .ok text := by
  have ordered : before.utf8ByteSize ≤ (before ++ text).utf8ByteSize := by
    rw [String.utf8ByteSize_append]
    exact Nat.le_add_right _ _
  have first : OnBoundary (before ++ text ++ after) before.utf8ByteSize :=
    ⟨before, text ++ after, String.append_assoc, rfl⟩
  have last : OnBoundary (before ++ text ++ after) (before ++ text).utf8ByteSize :=
    ⟨before ++ text, after, rfl, rfl⟩
  rw [slice, if_pos ⟨ordered, isValid_iff_onBoundary.mpr first, isValid_iff_onBoundary.mpr last⟩,
    extract_between, fromUTF8?_toByteArray]

/-- Of two splits of one source, the one with fewer bytes in front is the first. -/
theorem exists_append_of_le {before rest longer after : String}
    (same : before ++ rest = longer ++ after) (ordered : before.utf8ByteSize ≤ longer.utf8ByteSize) :
    ∃ text, longer = before ++ text ∧ rest = text ++ after := by
  have lists := congrArg String.toList same
  rw [String.toList_append, String.toList_append] at lists
  rcases List.append_eq_append_iff.mp lists with ⟨text, split, split'⟩ | ⟨text, split, split'⟩
  · refine ⟨String.ofList text, String.toList_injective ?_, String.toList_injective ?_⟩
    · rw [split, String.toList_append, String.toList_ofList]
    · rw [split', String.toList_append, String.toList_ofList]
  · -- Here it is the second, so nothing stands between them.
    have behind : before = longer ++ String.ofList text := by
      refine String.toList_injective ?_
      rw [split, String.toList_append, String.toList_ofList]
    have nothing : String.ofList text = "" := by
      rw [behind, String.utf8ByteSize_append] at ordered
      exact String.utf8ByteSize_eq_zero_iff.mp (by omega)
    rw [nothing, String.append_empty] at behind
    refine ⟨"", by rw [behind, String.append_empty], ?_⟩
    rw [behind, String.append_right_inj] at same
    rw [same, String.empty_append]

theorem exists_between {source : String} {first last : Nat} (ordered : first ≤ last)
    (here : OnBoundary source first) (there : OnBoundary source last) :
    ∃ before text after : String, source = before ++ text ++ after ∧
      first = before.utf8ByteSize ∧ last = (before ++ text).utf8ByteSize := by
  obtain ⟨before, rest, rfl, rfl⟩ := here
  obtain ⟨longer, after, same, rfl⟩ := there
  obtain ⟨text, rfl, rfl⟩ := exists_append_of_le same ordered
  exact ⟨before, text, after, String.append_assoc.symm, rfl, rfl⟩

theorem slice_eq_ok_iff {source text : String} {first last : Nat} :
    slice source first last = .ok text ↔
      ∃ before after : String, source = before ++ text ++ after ∧
        first = before.utf8ByteSize ∧ last = (before ++ text).utf8ByteSize := by
  constructor
  · intro sliced
    have bounds : first ≤ last ∧ String.Pos.Raw.isValid source ⟨first⟩ ∧
        String.Pos.Raw.isValid source ⟨last⟩ := by
      by_contra bad
      rw [slice, if_neg bad] at sliced
      cases sliced
    obtain ⟨before, text', after, rfl, rfl, rfl⟩ := exists_between bounds.1
      (isValid_iff_onBoundary.mp bounds.2.1) (isValid_iff_onBoundary.mp bounds.2.2)
    rw [slice_between] at sliced
    cases sliced
    exact ⟨before, after, rfl, rfl, rfl⟩
  · rintro ⟨before, after, rfl, rfl, rfl⟩
    exact slice_between before text after

/-- There is a slice exactly between bounds that are in order and both on a boundary. -/
theorem exists_slice_iff {source : String} {first last : Nat} :
    (∃ text, slice source first last = .ok text) ↔
      first ≤ last ∧ OnBoundary source first ∧ OnBoundary source last := by
  constructor
  · rintro ⟨text, sliced⟩
    obtain ⟨before, after, rfl, rfl, rfl⟩ := slice_eq_ok_iff.mp sliced
    refine ⟨?_, ⟨before, text ++ after, String.append_assoc, rfl⟩, before ++ text, after, rfl, rfl⟩
    rw [String.utf8ByteSize_append]
    exact Nat.le_add_right _ _
  · rintro ⟨ordered, here, there⟩
    obtain ⟨before, text, after, rfl, rfl, rfl⟩ := exists_between ordered here there
    exact ⟨text, slice_between before text after⟩

example : slice "é7" 2 3 = .ok "7" := rfl
example : slice "é7" 1 3 = .error ⟨1, 3⟩ := rfl

/-- Slices that meet are one slice. -/
theorem slice_append {source a b : String} {first middle last : Nat}
    (left : slice source first middle = .ok a) (right : slice source middle last = .ok b) :
    slice source first last = .ok (a ++ b) := by
  obtain ⟨before, rest, rfl, rfl, rfl⟩ := slice_eq_ok_iff.mp left
  obtain ⟨before', after, same, size, rfl⟩ := slice_eq_ok_iff.mp right
  obtain ⟨text, rfl, rest_eq⟩ :=
    exists_append_of_le (same.trans String.append_assoc) (Nat.le_of_eq size)
  have nothing : text = "" := by
    simp only [String.utf8ByteSize_append] at size
    exact String.utf8ByteSize_eq_zero_iff.mp (by omega)
  rw [nothing, String.empty_append] at rest_eq
  rw [nothing, rest_eq, String.append_empty]
  refine slice_eq_ok_iff.mpr ⟨before, after, ?_, rfl, ?_⟩ <;> simp only [String.append_assoc]

/-! ## Characters -/

/-- The number of bytes of a text. -/
def byteSize (text : List Char) : Nat := (String.ofList text).utf8ByteSize

theorem byteSize_append (text more : List Char) :
    byteSize (text ++ more) = byteSize text + byteSize more := by
  rw [byteSize, String.ofList_append, String.utf8ByteSize_append]
  rfl

theorem byteSize_singleton (c : Char) : byteSize [c] = c.utf8Size := String.utf8ByteSize_singleton

theorem byteSize_eq_zero_iff {text : List Char} : byteSize text = 0 ↔ text = [] := by
  rw [byteSize, String.utf8ByteSize_eq_zero_iff, ← String.toList_inj, String.toList_ofList]
  rfl

theorem byteSize_toList (source : String) : byteSize source.toList = source.utf8ByteSize := by
  rw [byteSize, String.ofList_toList]

/-- The slice behind some characters of the source and in front of others. -/
theorem slice_toList {source : String} {before text after : List Char}
    (split : source.toList = before ++ text ++ after) :
    slice source (byteSize before) (byteSize (before ++ text)) = .ok (String.ofList text) := by
  refine slice_eq_ok_iff.mpr ⟨String.ofList before, String.ofList after, ?_, rfl, ?_⟩
  · rw [← String.ofList_append, ← String.ofList_append, ← split, String.ofList_toList]
  · rw [← String.ofList_append]
    rfl

end ScriptScan
