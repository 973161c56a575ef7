import Mathlib.Data.List.Basic
import ScriptScan.Program.Run

/-!
# Lines of bytes and lines of a text

Standard input is cut into lines before its bytes are read as text. `CutIntoLines` says how a
text is cut into lines instead. Of all characters only the line feed is written with the byte
of a line feed (`byte_ne_of_ne_newline`), so both ways give the same lines
(`lines_of_cutIntoLines`).
-/

namespace ScriptScan
namespace Program

/-! ## UTF-8 -/

/-- The bytes of a text. -/
def encode (text : List Char) : List UInt8 := text.flatMap String.utf8EncodeChar

theorem utf8Encode_eq (text : List Char) : text.utf8Encode = ⟨(encode text).toArray⟩ := by
  rw [List.utf8Encode, ← encode, ByteArray.ext_iff, List.data_toByteArray]

theorem decode?_encode (text : List Char) : decode? (encode text) = some (String.ofList text) := by
  rw [decode?, ← utf8Encode_eq, String.fromUTF8?, dif_pos ByteArray.isValidUTF8_utf8Encode,
    Option.some.injEq, ← String.toByteArray_inj, String.toByteArray_ofList]
  rfl

theorem decode?_encode_toList (text : String) : decode? (encode text.toList) = some text := by
  rw [decode?_encode, String.ofList_toList]

/-- Bytes that are read as a text are the bytes of this text. -/
theorem eq_encode_of_decode? {bytes : List UInt8} {text : String}
    (decoded : decode? bytes = some text) : bytes = encode text.toList := by
  rw [decode?, String.fromUTF8?] at decoded
  split at decoded
  · next valid =>
    cases decoded
    have same : (String.fromUTF8 ⟨bytes.toArray⟩ valid).toList.utf8Encode = ⟨bytes.toArray⟩ :=
      String.utf8Encode_toList
    rw [utf8Encode_eq] at same
    exact (Array.toList_inj.mpr (congrArg ByteArray.data same)).symm
  · cases decoded

theorem ofNat_ne_newline {n : Nat} (other : n % 256 ≠ 10) : UInt8.ofNat n ≠ 10 := by
  intro same
  have value := congrArg UInt8.toNat same
  rw [UInt8.toNat_ofNat'] at value
  exact other value

/-- Only a line feed has the byte of a line feed: the bytes of a character outside of ASCII are
all larger. -/
theorem byte_ne_of_ne_newline {c : Char} (noBreak : c ≠ '\n') :
    ∀ b ∈ String.utf8EncodeChar c, b ≠ 10 := by
  have code : c.val.toNat ≠ 10 := fun same => noBreak (Char.ext (UInt32.toNat_inj.mp same))
  simp only [String.utf8EncodeChar]
  split
  · exact List.forall_mem_singleton.mpr (ofNat_ne_newline (by omega))
  split
  · rw [List.forall_mem_cons, List.forall_mem_singleton]
    refine ⟨?_, ?_⟩ <;> exact ofNat_ne_newline (by omega)
  split
  · rw [List.forall_mem_cons, List.forall_mem_cons, List.forall_mem_singleton]
    refine ⟨?_, ?_, ?_⟩ <;> exact ofNat_ne_newline (by omega)
  · rw [List.forall_mem_cons, List.forall_mem_cons, List.forall_mem_cons,
      List.forall_mem_singleton]
    refine ⟨?_, ?_, ?_, ?_⟩ <;> exact ofNat_ne_newline (by omega)

theorem newline_not_mem_encode {text : List Char} (noBreak : '\n' ∉ text) :
    (10 : UInt8) ∉ encode text := by
  intro member
  obtain ⟨c, inside, byte⟩ := List.mem_flatMap.mp member
  exact byte_ne_of_ne_newline (fun same => noBreak (same ▸ inside)) 10 byte rfl

theorem encode_append_newline (line rest : List Char) :
    encode (line ++ '\n' :: rest) = encode line ++ 10 :: encode rest := by
  rw [encode, List.flatMap_append, List.flatMap_cons]
  rfl

theorem encode_ne_nil {text : List Char} (nonempty : text ≠ []) : encode text ≠ [] := by
  obtain ⟨c, rest, rfl⟩ := List.exists_cons_of_ne_nil nonempty
  rw [encode, List.flatMap_cons]
  exact List.append_ne_nil_of_left_ne_nil String.utf8EncodeChar_ne_nil _

/-! ## Lines of bytes -/

theorem lines_append_newline {front : List UInt8} (noBreak : 10 ∉ front) (rest : List UInt8) :
    lines (front ++ 10 :: rest) = (front ++ [10]) :: lines rest := by
  induction front with
  | nil => simp [lines]
  | cons b front ih =>
    obtain ⟨other, noBreak⟩ := List.ne_and_not_mem_of_not_mem_cons noBreak
    rw [List.cons_append, lines, if_neg other.symm, ih noBreak, List.cons_append]

theorem lines_of_not_mem {last : List UInt8} (noBreak : 10 ∉ last) (nonempty : last ≠ []) :
    lines last = [last] := by
  induction last with
  | nil => exact absurd rfl nonempty
  | cons b last ih =>
    obtain ⟨other, noBreak⟩ := List.ne_and_not_mem_of_not_mem_cons noBreak
    rw [lines, if_neg other.symm]
    cases last with
    | nil => rfl
    | cons c last => rw [ih noBreak (List.cons_ne_nil c last)]

/-! ## Lines of a text -/

/-- The text is cut behind each line feed, and a last line without one counts too. -/
inductive CutIntoLines : List Char → List (List Char) → Prop
  | nil : CutIntoLines [] []
  | last {line : List Char} : '\n' ∉ line → line ≠ [] → CutIntoLines line [line]
  | cons {line rest : List Char} {more : List (List Char)} :
      '\n' ∉ line → CutIntoLines rest more →
      CutIntoLines (line ++ '\n' :: rest) ((line ++ ['\n']) :: more)

theorem exists_cutIntoLines (text : List Char) : ∃ pieces, CutIntoLines text pieces := by
  induction text with
  | nil => exact ⟨[], .nil⟩
  | cons c text ih =>
    obtain ⟨pieces, cut⟩ := ih
    by_cases isBreak : c = '\n'
    · have noBreak : '\n' ∉ ([] : List Char) := List.not_mem_nil
      rw [isBreak]
      exact ⟨_, .cons noBreak cut⟩
    -- Any other character goes to the front of the first line.
    have apart : ∀ {line : List Char}, '\n' ∉ line → '\n' ∉ c :: line := by
      intro line noBreak
      exact List.not_mem_cons_of_ne_of_not_mem (Ne.symm isBreak) noBreak
    cases cut with
    | nil => exact ⟨_, .last (apart List.not_mem_nil) (List.cons_ne_nil c [])⟩
    | last noBreak _ => exact ⟨_, .last (apart noBreak) (List.cons_ne_nil c _)⟩
    | cons noBreak later => exact ⟨_, .cons (apart noBreak) later⟩

/-- The lines of the bytes of a text are the bytes of its lines. -/
theorem lines_of_cutIntoLines {text : List Char} {pieces : List (List Char)}
    (cut : CutIntoLines text pieces) : lines (encode text) = pieces.map encode := by
  induction cut with
  | nil => rfl
  | last noBreak nonempty =>
    exact lines_of_not_mem (newline_not_mem_encode noBreak) (encode_ne_nil nonempty)
  | cons noBreak _ ih =>
    rw [encode_append_newline, lines_append_newline (newline_not_mem_encode noBreak), ih,
      List.map_cons, encode_append_newline]
    rfl

end Program
end ScriptScan
