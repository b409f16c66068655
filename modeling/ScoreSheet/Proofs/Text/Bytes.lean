import Mathlib.Data.List.Basic
import ScoreSheet.Proofs.Report.Reading

/-!
Texts and their bytes.  A character below 128 is written as one byte, its own number, so that
bytes of such a text can be cut anywhere and are a text again.  Every printed number is one.

What is left of the bytes of any text that is cut is a text again unless the cut falls inside
a character, and that character takes more than one byte.  In a text put together from pieces such
a character stands in one of the pieces.
-/

namespace ScoreSheet

/-- The text that some bytes stand for, if they are one. -/
def textOf? (bytes : List UInt8) : Option String :=
  String.fromUTF8? ⟨bytes.toArray⟩

theorem textOf?_bytesOf (text : String) : textOf? (bytesOf text) = some text := by
  have whole : (⟨(bytesOf text).toArray⟩ : ByteArray) = text.toUTF8 := rfl
  have valid : text.toUTF8.IsValidUTF8 := text.isValidUTF8
  rw [textOf?, whole, String.fromUTF8?, dif_pos valid]
  rfl

def IsSingleByte (text : String) : Prop :=
  ∀ character ∈ text.toList, character.toNat < 128

instance (text : String) : Decidable (IsSingleByte text) :=
  List.decidableBAll (fun character : Char => character.toNat < 128) text.toList

section

variable {first second text : String}

theorem isSingleByte_append (single : IsSingleByte first) (singleNext : IsSingleByte second) :
    IsSingleByte (first ++ second) :=
  forall_mem_toList_append single singleNext

theorem IsNumberText.isSingleByte (number : IsNumberText text) : IsSingleByte text := by
  intro character member
  have numeral := number character member
  rw [isNumberCharacter, Bool.or_eq_true] at numeral
  rcases numeral with digit | listed
  · have bound := (Char.isDigit_iff_toNat.mp digit).2
    exact lt_of_le_of_lt bound (by decide)
  · have each : ['-', '.', 'N', 'a', 'i', 'n', 'f'].all (·.toNat < 128) = true := by decide
    exact of_decide_eq_true (List.all_eq_true.mp each character (List.contains_iff_mem.mp listed))

theorem bytesOf_eq_flatMap (text : String) :
    bytesOf text = text.toList.flatMap String.utf8EncodeChar := by
  have encoded : text.toByteArray = text.toList.utf8Encode := by
    rw [← String.toByteArray_ofList, String.ofList_toList]
  change text.toByteArray.data.toList = _
  rw [encoded, List.utf8Encode, List.data_toByteArray]

theorem utf8EncodeChar_of_lt {character : Char} (single : character.toNat < 128) :
    String.utf8EncodeChar character = [character.val.toUInt8] := by
  apply String.utf8EncodeChar_eq_singleton
  rw [Char.utf8Size_eq_one_iff, UInt32.le_iff_toNat_le]
  exact Nat.le_of_lt_succ single

theorem bytesOf_of_isSingleByte (single : IsSingleByte text) :
    bytesOf text = text.toList.map fun character => character.val.toUInt8 := by
  rw [bytesOf_eq_flatMap, List.map_eq_flatMap]
  exact List.flatMap_congr fun character member => utf8EncodeChar_of_lt (single character member)

theorem take_bytesOf (single : IsSingleByte text) (size : Nat) :
    (bytesOf text).take size = bytesOf (String.ofList (text.toList.take size)) := by
  have start : IsSingleByte (String.ofList (text.toList.take size)) := by
    intro character member
    rw [String.toList_ofList] at member
    exact single character (List.mem_of_mem_take member)
  rw [bytesOf_of_isSingleByte single, bytesOf_of_isSingleByte start, String.toList_ofList,
    List.map_take]

theorem length_bytesOf (single : IsSingleByte text) :
    (bytesOf text).length = text.toList.length := by
  rw [bytesOf_of_isSingleByte single, List.length_map]

end

/-- A character of more than one byte in a text, with `before` in front of it. -/
def WideAt (text before : String) (character : Char) : Prop :=
  1 < character.utf8Size ∧ ∃ after, text = before ++ character.toString ++ after

namespace WideAt

variable {text first second before : String} {character : Char}

theorem width_le (wide : WideAt text before character) :
    before.utf8ByteSize + character.utf8Size ≤ text.utf8ByteSize := by
  obtain ⟨_, after, rfl⟩ := wide
  rw [String.utf8ByteSize_append, String.utf8ByteSize_append, Char.toString_eq_singleton,
    String.utf8ByteSize_singleton]
  exact Nat.le_add_right _ _

theorem append_left (first : String) (wide : WideAt text before character) :
    WideAt (first ++ text) (first ++ before) character := by
  obtain ⟨large, after, rfl⟩ := wide
  exact ⟨large, after, by simp only [String.append_assoc]⟩

theorem of_append (wide : WideAt (first ++ second) before character) :
    WideAt first before character ∨
      ∃ start, before = first ++ start ∧ WideAt second start character := by
  obtain ⟨large, after, split⟩ := wide
  have characters : first.toList ++ second.toList =
      before.toList ++ character :: after.toList := by
    simpa using congrArg String.toList split
  have placed : ∀ (piece start : String) (rest : List Char),
      piece.toList = start.toList ++ character :: rest → WideAt piece start character := by
    intro piece start rest found
    refine ⟨large, String.ofList rest, String.toList_inj.mp ?_⟩
    simpa using found
  rcases List.append_eq_append_iff.mp characters with ⟨start, front, back⟩ | ⟨more, front, back⟩
  · refine Or.inr ⟨String.ofList start, String.toList_inj.mp ?_, placed _ _ after.toList ?_⟩
    · rw [front, String.toList_append, String.toList_ofList]
    · rw [back, String.toList_ofList]
  · cases more with
    | nil =>
        rw [List.append_nil] at front
        refine Or.inr ⟨"", ?_, placed _ _ after.toList back.symm⟩
        rw [String.append_empty]
        exact String.toList_inj.mp front.symm
    | cons own rest =>
        obtain ⟨rfl, _⟩ := List.cons.inj back
        exact Or.inl (placed first before rest front)

theorem not_isSingleByte (wide : WideAt text before character) : ¬ IsSingleByte text := by
  intro single
  obtain ⟨large, after, rfl⟩ := wide
  have small := single character (by simp)
  have one : character.utf8Size = 1 := by
    rw [Char.utf8Size_eq_one_iff, UInt32.le_iff_toNat_le]
    exact Nat.le_of_lt_succ small
  omega

theorem of_append_isSingleByte (wide : WideAt (first ++ second) before character)
    (single : IsSingleByte second) : WideAt first before character := by
  rcases wide.of_append with inFirst | ⟨start, _, inSecond⟩
  · exact inFirst
  · exact absurd single inSecond.not_isSingleByte

theorem of_isSingleByte_append (wide : WideAt (first ++ second) before character)
    (single : IsSingleByte first) :
    ∃ start, before = first ++ start ∧ WideAt second start character := by
  rcases wide.of_append with inFirst | inSecond
  · exact absurd single inFirst.not_isSingleByte
  · exact inSecond

theorem of_toString {other : Char} (wide : WideAt other.toString before character) :
    before = "" ∧ character = other := by
  obtain ⟨_, after, split⟩ := wide
  have characters : [other] = before.toList ++ character :: after.toList := by
    simpa using congrArg String.toList split
  rw [eq_comm, List.append_eq_singleton_iff] at characters
  rcases characters with ⟨front, back⟩ | ⟨_, back⟩
  · exact ⟨String.toList_eq_nil_iff.mp front, (List.cons.inj back).1⟩
  · cases back

end WideAt

theorem textOf?_take_eq_none_iff_not_isValid {text : String} {size : Nat}
    (le : size ≤ text.utf8ByteSize) :
    textOf? ((bytesOf text).take size) = none ↔ ¬ (⟨size⟩ : String.Pos.Raw).IsValid text := by
  have cut : (⟨((bytesOf text).take size).toArray⟩ : ByteArray) =
      text.toByteArray.extract 0 size := by
    apply ByteArray.ext
    rw [ByteArray.data_extract]
    apply Array.toList_inj.mp
    rw [Array.toList_extract, List.extract_eq_take_drop, List.drop_zero, Nat.sub_zero]
    rfl
  have inside : (⟨size⟩ : String.Pos.Raw) ≤ text.rawEndPos := le
  rw [textOf?, cut, String.fromUTF8?, dite_eq_right_iff,
    String.Pos.Raw.isValid_iff_isValidUTF8_extract_zero, and_iff_right inside]
  simp only [reduceCtorEq, imp_false]

theorem isValid_iff_exists_append {text : String} {size : Nat} :
    (⟨size⟩ : String.Pos.Raw).IsValid text ↔
      ∃ before after, text = before ++ after ∧ size = before.utf8ByteSize := by
  rw [String.Pos.Raw.isValid_iff_exists_append]
  simp only [String.Pos.Raw.ext_iff, String.byteIdx_rawEndPos]

theorem isValid_or_exists_wideAt (characters : List Char) {size : Nat}
    (le : size ≤ (String.ofList characters).utf8ByteSize) :
    (⟨size⟩ : String.Pos.Raw).IsValid (String.ofList characters) ∨
      ∃ before character, WideAt (String.ofList characters) before character ∧
        before.utf8ByteSize < size ∧ size < before.utf8ByteSize + character.utf8Size := by
  induction characters generalizing size with
  | nil =>
      left
      obtain rfl : size = 0 := Nat.eq_zero_of_le_zero le
      exact String.Pos.Raw.isValid_zero
  | cons first rest ih =>
      have width : (String.singleton first).utf8ByteSize = first.utf8Size :=
        String.utf8ByteSize_singleton
      rw [String.ofList_cons] at le ⊢
      rw [String.utf8ByteSize_append, width] at le
      by_cases reached : first.utf8Size ≤ size
      · have remaining : size - first.utf8Size ≤ (String.ofList rest).utf8ByteSize := by omega
        rcases ih remaining with valid | inside
        · left
          obtain ⟨before, after, split, atEnd⟩ := isValid_iff_exists_append.mp valid
          refine isValid_iff_exists_append.mpr ⟨String.singleton first ++ before, after, ?_, ?_⟩
          · rw [split, String.append_assoc]
          · rw [String.utf8ByteSize_append, width]
            omega
        · right
          obtain ⟨before, character, wide, above, below⟩ := inside
          refine ⟨_, character, wide.append_left _, ?_, ?_⟩ <;>
            rw [String.utf8ByteSize_append, width] <;> omega
      · rcases Nat.eq_zero_or_pos size with rfl | positive
        · exact Or.inl String.Pos.Raw.isValid_zero
        · right
          refine ⟨"", first, ⟨by omega, String.ofList rest, ?_⟩, positive, ?_⟩
          · rw [String.empty_append, Char.toString_eq_singleton]
          · rw [String.utf8ByteSize_empty]
            omega

theorem textOf?_take_eq_none_iff (text : String) (size : Nat) :
    textOf? ((bytesOf text).take size) = none ↔
      ∃ before character, WideAt text before character ∧
        before.utf8ByteSize < size ∧ size < before.utf8ByteSize + character.utf8Size := by
  by_cases le : size ≤ text.utf8ByteSize
  · rw [textOf?_take_eq_none_iff_not_isValid le]
    constructor
    · intro cut
      have ends := @isValid_or_exists_wideAt text.toList size
      rw [String.ofList_toList] at ends
      exact (ends le).resolve_left cut
    · rintro ⟨before, character, wide, above, below⟩ valid
      obtain ⟨first, second, rfl, atEnd⟩ := isValid_iff_exists_append.mp valid
      rcases wide.of_append with inFirst | ⟨start, rfl, _⟩
      · have width := inFirst.width_le
        omega
      · rw [String.utf8ByteSize_append] at above
        omega
  · have whole : (bytesOf text).length ≤ size := Nat.le_of_not_le le
    rw [List.take_of_length_le whole, textOf?_bytesOf]
    constructor
    · intro impossible
      cases impossible
    · rintro ⟨before, character, wide, _, below⟩
      have width := wide.width_le
      omega

/-- The first byte of a text begins a character. -/
theorem isUTF8FirstByte_of_head? {text : String} {byte : UInt8}
    (first : (bytesOf text).head? = some byte) : byte.IsUTF8FirstByte := by
  have found : (bytesOf text)[0]? = some byte := List.head?_eq_getElem? ▸ first
  obtain ⟨positive, same⟩ := List.getElem?_eq_some_iff.mp found
  rw [← same]
  exact text.isValidUTF8.isUTF8FirstByte_getElem_zero positive

end ScoreSheet
