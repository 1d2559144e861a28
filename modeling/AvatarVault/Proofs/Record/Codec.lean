import AvatarVault.Proofs.Json.RoundTrip
import AvatarVault.Record.Codec
/-!
The content of a metadata file gives back the record that it was written for, byte by byte.
-/
namespace AvatarVault

theorem fromUTF8?_toUTF8 (s : String) : String.fromUTF8? s.toUTF8 = some s := by
  have valid : s.toUTF8.IsValidUTF8 := s.isValidUTF8
  rw [String.fromUTF8?, dif_pos valid]
  rfl

namespace Record

theorem only?_pair {first second : String} (different : first ≠ second) (a b : Json) :
    only? first [(some first, a), (some second, b)] = some a ∧
      only? second [(some first, a), (some second, b)] = some b := by
  simp [only?, different, different.symm]

theorem ofValues?_toJson (m : UploadMetadata) :
    ofValues? (.natural m.timestampMillis.toNat) (.text (some m.url)) = some m := by
  have small : m.timestampMillis.toNat < UInt64.size := m.timestampMillis.toNat_lt_size
  simp [ofValues?, Json.natural?, Json.text?, small]

/-- **A record is read back from its content**: any time, any address. -/
theorem decode?_encode (m : UploadMetadata) : decode? (encode m) = some m := by
  have different : timeField ≠ urlField := by decide
  obtain ⟨time, url⟩ := only?_pair different (.natural m.timestampMillis.toNat) (.text (some m.url))
  simp only [decode?, encode, Json.parse_renderObject, List.map_cons, List.map_nil,
    Json.Scalar.toJson, List.all_cons, List.all_nil, Option.isSome_some, Bool.and_self, if_true,
    time, url, bind, Option.bind]
  exact ofValues?_toJson m

end Record

end AvatarVault
