import AvatarVault.Json.Reader
import AvatarVault.Json.Writer
import AvatarVault.Upload.Outcome
/-!
The record of the last upload as JSON: in the metadata file, and as it is shown.
-/
namespace AvatarVault.Record

/-- The field of the upload time in the metadata file. -/
def timeField : String := "last_upload_millis"

/-- The field of the address in the metadata file. -/
def urlField : String := "avatar_url"

/-- The content of the metadata file for a record. -/
def encode (m : UploadMetadata) : String :=
  Json.renderObject
    [(timeField, .natural m.timestampMillis.toNat), (urlField, .text m.url)]

/-- The record as it is shown. -/
def describe (m : UploadMetadata) : String :=
  Json.renderObject [("timestamp_millis", .natural m.timestampMillis.toNat), ("url", .text m.url)]

/-- The record with this time and this address. -/
def ofValues? (time url : Json) : Option UploadMetadata := do
  let millis ← time.natural?
  let url ← url.text?
  if millis < UInt64.size then return { timestampMillis := millis.toUInt64, url } else none

/-- The only value of a field. -/
def only? (name : String) (fields : List (Option String × Json)) : Option Json :=
  match fields.filter fun field => field.1 == some name with
  | [(_, value)] => some value
  | _ => none

/-- The record in the content of a metadata file: an object that has both fields once, and maybe
others, or an array of the two values. -/
def decode? (content : String) : Option UploadMetadata :=
  match Json.parse content with
  | some (.array [time, url]) => ofValues? time url
  | some (.object fields) => do
    if fields.all fun field => field.1.isSome then
      ofValues? (← only? timeField fields) (← only? urlField fields)
    else none
  | _ => none

end AvatarVault.Record
