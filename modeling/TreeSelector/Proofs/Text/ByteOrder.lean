import Mathlib.Data.List.Basic

/-!
# Texts in the order of their bytes

Texts are compared character by character. They may as well be compared byte by byte, as their
encoding in UTF-8 (`Text.bytes_lt_iff`): a smaller character is encoded by smaller bytes
(`Text.utf8EncodeChar_append_lt`). A character that takes more bytes than another has the
larger first byte. Of two characters that take as many, the encoding holds the digits of their
code in base 64, the highest first.
-/

set_option autoImplicit false

namespace TreeSelector

namespace Text

/-! ## One character -/

/-- The smaller of two numbers has the smaller digit, at the first of the four digits in base 64
in which the two differ. -/
theorem digits_lt {first second : Nat} (below : first < second) :
    first / 262144 < second / 262144 ∨ first / 262144 = second / 262144 ∧
      (first / 4096 % 64 < second / 4096 % 64 ∨ first / 4096 % 64 = second / 4096 % 64 ∧
        (first / 64 % 64 < second / 64 % 64 ∨ first / 64 % 64 = second / 64 % 64 ∧
          first % 64 < second % 64)) := by
  rcases Nat.lt_or_ge (first / 262144) (second / 262144) with high | high
  · exact .inl high
  · rcases Nat.lt_or_ge (first / 4096) (second / 4096) with middle | middle
    · omega
    · rcases Nat.lt_or_ge (first / 64) (second / 64) with low | low
      · omega
      · omega

theorem toNat_val_lt (character : Char) : character.val.toNat < 0x110000 := by
  rcases character.valid with low | ⟨-, high⟩
  · exact Nat.lt_trans low (by decide)
  · exact high

/-- **A smaller character is encoded by smaller bytes**, whatever follows. -/
theorem utf8EncodeChar_append_lt {first second : Char} (below : first < second)
    (behind behind' : List UInt8) :
    String.utf8EncodeChar first ++ behind < String.utf8EncodeChar second ++ behind' := by
  have smaller : first.val.toNat < second.val.toNat := below
  have bounded := toNat_val_lt second
  unfold String.utf8EncodeChar
  generalize first.val.toNat = code at *
  generalize second.val.toNat = code' at *
  have digits := digits_lt smaller
  dsimp only
  -- One case for each number of bytes of the two; the first bytes decide where these differ.
  split_ifs <;>
    simp (disch := omega) only [List.cons_append, List.nil_append, List.cons_lt_cons_iff,
      UInt8.lt_iff_toNat_lt, ← UInt8.toNat_inj, UInt8.toNat_ofNat', Nat.mod_eq_of_lt,
      Nat.add_lt_add_iff_right, Nat.add_right_cancel_iff] <;>
    omega

/-! ## Whole texts -/

/-- A text as it is encoded. -/
def bytes (text : String) : List UInt8 :=
  text.toUTF8.data.toList

theorem bytes_eq_flatMap (text : String) :
    bytes text = text.toList.flatMap String.utf8EncodeChar := by
  have encoded : text.toUTF8 = (String.ofList text.toList).toByteArray := by
    rw [String.ofList_toList]
    rfl
  rw [bytes, encoded, String.toByteArray_ofList, List.utf8Encode, List.data_toByteArray]

theorem flatMap_utf8EncodeChar_lt {first second : List Char} (below : first < second) :
    first.flatMap String.utf8EncodeChar < second.flatMap String.utf8EncodeChar := by
  induction below with
  | @nil character later =>
      rw [List.flatMap_nil, List.flatMap_cons]
      obtain ⟨byte, more, encoded⟩ :=
        List.exists_cons_of_ne_nil (String.utf8EncodeChar_ne_nil (c := character))
      rw [encoded, List.cons_append]
      exact List.nil_lt_cons byte _
  | rel below =>
      rw [List.flatMap_cons, List.flatMap_cons]
      exact utf8EncodeChar_append_lt below _ _
  | cons _ ih =>
      rw [List.flatMap_cons, List.flatMap_cons]
      exact List.append_left_lt ih

/-- **The order of texts is the order of their bytes.** -/
theorem bytes_lt_iff {first second : String} : bytes first < bytes second ↔ first < second := by
  have upwards {first second : String} (below : first < second) : bytes first < bytes second := by
    rw [bytes_eq_flatMap, bytes_eq_flatMap]
    exact flatMap_utf8EncodeChar_lt below
  refine ⟨fun below => ?_, upwards⟩
  by_contra notBelow
  rcases Std.le_iff_lt_or_eq.mp (String.not_lt.mp notBelow) with above | rfl
  · exact List.lt_asymm below (upwards above)
  · exact List.lt_irrefl _ below

end Text

end TreeSelector
