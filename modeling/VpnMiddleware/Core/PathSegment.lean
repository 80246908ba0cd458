import VpnMiddleware.Core.SearchParams

/-!
# Texts as path segments

`encodeURIComponent` writes any text as one segment of a path, and the server
at the other end reads it back.
-/

namespace VpnMiddleware.PathSegment

open VpnMiddleware.WebText VpnMiddleware.SearchParams

private theorem toList_loop (bytes : ByteArray) (i : ℕ) (read : List UInt8) :
    ByteArray.toList.loop bytes i read =
      read.reverse ++ bytes.data.toList.drop i := by
  fun_induction ByteArray.toList.loop bytes i read with
  | case1 i read hi ih =>
      have hlength : i < bytes.data.toList.length := hi
      have hget : bytes.get! i = bytes.data.toList[i] :=
        getElem!_pos bytes.data i hi
      rw [ih, List.reverse_cons, List.append_assoc, List.singleton_append,
        List.drop_eq_getElem_cons hlength, hget]
  | case2 i read hi =>
      have hlength : bytes.data.toList.length ≤ i := Nat.le_of_not_lt hi
      rw [List.drop_eq_nil_of_le hlength, List.append_nil]

theorem toList_eq_data (bytes : ByteArray) : bytes.toList = bytes.data.toList := by
  rw [ByteArray.toList, toList_loop]
  rfl

theorem percentChar_eq (c : Char) :
    percentChar c = (String.utf8EncodeChar c).flatMap percentByte := by
  rw [percentChar, toList_eq_data, String.toUTF8_eq_toByteArray,
    String.toByteArray_singleton, List.utf8Encode_singleton,
    List.data_toByteArray]

/-- `encodeURIComponent` is the component encoder. -/
theorem toList_encodeURIComponent (text : String) :
    (encodeURIComponent text).toList = componentEncoder.encode text := by
  rw [encodeURIComponent, String.toList_ofList, Encoder.encode]
  congr 1
  funext c
  rw [Encoder.encodeChar, percentChar_eq]
  rfl

/-- What a server reads from a path behind a prefix. -/
def readSegment (before text : String) : Option String :=
  if before.toList.isPrefixOf text.toList then
    some (formDecode (text.toList.drop before.toList.length))
  else none

/-- A segment is read back. -/
theorem readSegment_encodeURIComponent (before text : String) :
    readSegment before (before ++ encodeURIComponent text) = some text := by
  have hprefix : before.toList.isPrefixOf
      (before ++ encodeURIComponent text).toList = true := by
    rw [String.toList_append, List.isPrefixOf_iff_prefix]
    exact List.prefix_append _ _
  rw [readSegment, if_pos hprefix, String.toList_append, List.drop_left,
    toList_encodeURIComponent, Encoder.formDecode_encode]

end VpnMiddleware.PathSegment
