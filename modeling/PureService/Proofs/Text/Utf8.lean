import Mathlib.Data.List.Lex
import Mathlib.Data.String.Basic
import Mathlib.Order.Monotone.Basic

/-!
# The order of texts and of their bytes

Texts are compared character by character.  Their UTF-8 bytes come in the same
order, because the encoding of a greater character is greater already at one
of its own bytes, whatever follows it.
-/

namespace PureService.Text

/-- The UTF-8 bytes of a text, as numbers. -/
def bytes (text : String) : List Nat :=
  text.toByteArray.data.toList.map UInt8.toNat

/-- The UTF-8 bytes of one character, as numbers. -/
def charBytes (char : Char) : List Nat :=
  (String.utf8EncodeChar char).map UInt8.toNat

theorem bytes_eq_flatMap (text : String) : bytes text = text.toList.flatMap charBytes := by
  have encoded : text.toByteArray = text.toList.utf8Encode := by
    rw [← String.toByteArray_ofList, String.ofList_toList]
  simp only [bytes, encoded, List.utf8Encode, List.data_toByteArray, List.map_flatMap]
  rfl

theorem code_lt (char : Char) : char.toNat < 0x110000 := by
  have valid := char.valid
  simp only [UInt32.isValidChar, Nat.isValidChar] at valid
  change char.val.toNat < 0x110000
  omega

/-- The number of bytes shows in the first one, and the bytes together hold the
digits of the code to the base 64. -/
theorem charBytes_eq (char : Char) :
    charBytes char =
      if char.toNat ≤ 0x7F then [char.toNat]
      else if char.toNat ≤ 0x7FF then [char.toNat / 64 + 192, char.toNat % 64 + 128]
      else if char.toNat ≤ 0xFFFF then
        [char.toNat / 4096 + 224, char.toNat / 64 % 64 + 128, char.toNat % 64 + 128]
      else
        [char.toNat / 262144 + 240, char.toNat / 4096 % 64 + 128, char.toNat / 64 % 64 + 128,
          char.toNat % 64 + 128] := by
  have bounded := code_lt char
  have code : char.val.toNat = char.toNat := rfl
  simp only [charBytes, String.utf8EncodeChar, code]
  split_ifs <;> simp <;> omega

theorem charBytes_append_lt {first second : Char} (less : first < second)
    (firstRest secondRest : List Nat) :
    charBytes first ++ firstRest < charBytes second ++ secondRest := by
  have codes : first.toNat < second.toNat := less
  have bounded := code_lt second
  simp only [charBytes_eq]
  split_ifs <;> simp only [List.cons_append, List.nil_append, List.cons_lt_cons_iff] <;> omega

theorem charBytes_ne_nil (char : Char) : charBytes char ≠ [] := by
  rw [charBytes_eq]
  split_ifs <;> exact List.cons_ne_nil _ _

/-- The induction follows the first place at which the texts differ. -/
theorem flatMap_charBytes_lt {first second : List Char} (less : first < second) :
    first.flatMap charBytes < second.flatMap charBytes := by
  induction less with
  | @nil char chars =>
      obtain ⟨byte, rest, encoded⟩ := List.exists_cons_of_ne_nil (charBytes_ne_nil char)
      rw [List.flatMap_nil, List.flatMap_cons, encoded, List.cons_append]
      exact List.nil_lt_cons _ _
  | cons _ ih =>
      rw [List.flatMap_cons, List.flatMap_cons]
      exact List.append_left_lt ih
  | rel before => exact charBytes_append_lt before _ _

theorem bytes_strictMono : StrictMono bytes := by
  intro first second less
  rw [String.lt_iff] at less
  rw [bytes_eq_flatMap, bytes_eq_flatMap]
  exact flatMap_charBytes_lt less

end PureService.Text
