import Mathlib.Data.List.Basic
import Scenario.Request
/-!
The bytes of texts.

A text is its characters, each of one to four bytes, and is read back from its bytes. A character
below 128 is its own byte.
-/
namespace Scenario

theorem toList_loop (bytes : ByteArray) (position : Nat) (listed : List UInt8) :
    ByteArray.toList.loop bytes position listed =
      listed.reverse ++ bytes.data.toList.drop position := by
  fun_induction ByteArray.toList.loop bytes position listed with
  | case1 position listed inside ih =>
    have bound : position < bytes.data.toList.length := by simpa using inside
    rw [ih, List.drop_eq_getElem_cons bound]
    simp [ByteArray.get!, inside]
  | case2 position listed outside =>
    have bound : bytes.data.toList.length ≤ position := by simpa using outside
    rw [List.drop_eq_nil_of_le bound, List.append_nil]

theorem bytesOf_eq_flatMap (text : List Char) :
    bytesOf text = text.flatMap String.utf8EncodeChar := by
  rw [bytesOf, String.toUTF8_eq_toByteArray, ByteArray.toList, toList_loop, List.reverse_nil,
    List.nil_append, List.drop_zero, String.toByteArray_ofList]
  exact List.toList_data_toByteArray

theorem bytesOf_ascii {text : List Char} (ascii : ∀ c ∈ text, c.toNat ≤ 127) :
    bytesOf text = text.map fun c => UInt8.ofNat c.toNat := by
  rw [bytesOf_eq_flatMap]
  induction text with
  | nil => rfl
  | cons c rest ih =>
    obtain ⟨first, others⟩ := List.forall_mem_cons.mp ascii
    rw [List.flatMap_cons, ih others, List.map_cons, String.utf8EncodeChar]
    exact congrArg (· ++ rest.map fun c => UInt8.ofNat c.toNat) (if_pos first)

theorem fromUTF8?_bytesOf (text : String) :
    String.fromUTF8? (ByteArray.mk (bytesOf text.toList).toArray) = some text := by
  have listed : text.toByteArray.toList = text.toByteArray.data.toList := by
    rw [ByteArray.toList, toList_loop, List.reverse_nil, List.nil_append, List.drop_zero]
  have bytes : ByteArray.mk (bytesOf text.toList).toArray = text.toByteArray := by
    rw [bytesOf, String.ofList_toList, String.toUTF8_eq_toByteArray, listed]
  rw [bytes, String.fromUTF8?, dif_pos text.isValidUTF8]
  rfl

theorem bytesOf_inj {text other : String}
    (same : bytesOf text.toList = bytesOf other.toList) : text = other := by
  have read := fromUTF8?_bytesOf text
  rw [same, fromUTF8?_bytesOf other] at read
  exact (Option.some.inj read).symm

end Scenario
