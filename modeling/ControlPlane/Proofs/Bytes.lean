/-
The bytes of a text.

A text is stored as bytes, and they can be taken one character after the other (`charBytes_eq`,
`toList_utf8Encode`). So a list of bytes spells a text exactly if it is the bytes of its characters,
one after the other (`ofBytes?_eq_some_iff`).
-/
import ControlPlane.Text.Percent

set_option autoImplicit false

namespace ControlPlane

namespace Text

/-- The loop that lists bytes puts those from a place on behind what it has already. -/
theorem toList_loop (bs : ByteArray) (i : Nat) (r : List UInt8) :
    ByteArray.toList.loop bs i r = r.reverse ++ bs.data.toList.drop i := by
  induction i, r using ByteArray.toList.loop.induct bs with
  | case1 i r hi ih =>
      have hlen : i < bs.data.toList.length := hi
      have hget : bs.get! i = bs.data.toList[i] := by
        unfold ByteArray.get!
        simp [hi]
      rw [ByteArray.toList.loop, if_pos hi, ih, List.drop_eq_getElem_cons hlen, List.reverse_cons,
        hget, List.append_assoc, List.singleton_append]
  | case2 i r hi =>
      have hlen : bs.data.toList.length ≤ i := Nat.le_of_not_lt hi
      rw [ByteArray.toList.loop, if_neg hi, List.drop_eq_nil_of_le hlen, List.append_nil]

/-- The bytes of an array are listed in order. -/
theorem toList_byteArray (bs : ByteArray) : bs.toList = bs.data.toList := by
  rw [ByteArray.toList, toList_loop, List.reverse_nil, List.nil_append, List.drop_zero]

/-- The bytes of a character are its encoding. -/
theorem charBytes_eq (c : Char) : charBytes c = String.utf8EncodeChar c := by
  rw [charBytes, String.toUTF8, toList_byteArray, String.toByteArray_singleton,
    List.utf8Encode_singleton, List.toList_data_toByteArray]

/-- The bytes of a text are those of its characters, one after the other. -/
theorem toList_utf8Encode (cs : List Char) : cs.utf8Encode.data.toList = cs.flatMap charBytes := by
  rw [List.utf8Encode, List.toList_data_toByteArray, funext charBytes_eq]

/-- A text is stored as the encoding of its characters. -/
theorem toByteArray_eq (s : String) : s.toByteArray = s.toList.utf8Encode := by
  rw [← String.toByteArray_ofList, String.ofList_toList]

/-- A list of bytes spells the text whose bytes it is, and no other one. -/
theorem ofBytes?_eq_some_iff {bs : List UInt8} {s : String} :
    ofBytes? bs = some s ↔ bs = s.toList.flatMap charBytes := by
  rw [ofBytes?, String.fromUTF8?, ← toList_utf8Encode, ← toByteArray_eq]
  constructor
  · intro h
    split at h
    next =>
      rw [← Option.some.inj h]
      rfl
    next => cases h
  · intro h
    have hbytes : (⟨bs.toArray⟩ : ByteArray) = s.toByteArray := by rw [h]
    rw [dif_pos (hbytes ▸ s.isValidUTF8), Option.some.injEq]
    exact String.toByteArray_inj.1 hbytes

end Text

end ControlPlane
