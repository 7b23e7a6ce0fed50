import RouteAdapter.Bytes.Basic

/-!
# Texts in UTF-8

The bytes of a text are those of its characters, and determine the text.
-/

namespace RouteAdapter.Bytes

theorem utf8_eq_flatMap (s : String) : utf8 s = s.toList.flatMap String.utf8EncodeChar := by
  show s.toByteArray.data.toList = _
  rw [← String.utf8Encode_toList, List.utf8Encode, List.toList_data_toByteArray]

/-- A character of seven bits is its own byte. -/
theorem mem_utf8 {s : String} {c : Char} (member : c ∈ s.toList) (ascii : c.toNat ≤ 0x7F) :
    UInt8.ofNat c.toNat ∈ utf8 s := by
  rw [utf8_eq_flatMap]
  refine List.mem_flatMap.mpr ⟨c, member, ?_⟩
  show _ ∈ if c.toNat ≤ 0x7F then [UInt8.ofNat c.toNat] else _
  rw [if_pos ascii]
  exact List.mem_singleton_self _

theorem utf8?_utf8 (s : String) : utf8? (utf8 s) = some s := by
  have valid : s.toUTF8.IsValidUTF8 := s.isValidUTF8
  show String.fromUTF8? s.toUTF8 = some s
  rw [String.fromUTF8?, dif_pos valid]
  rfl

theorem utf8_of_utf8? {bytes : Bytes} {s : String} (read : utf8? bytes = some s) :
    utf8 s = bytes := by
  unfold utf8? String.fromUTF8? at read
  split at read
  · cases read
    rfl
  · cases read

end RouteAdapter.Bytes
