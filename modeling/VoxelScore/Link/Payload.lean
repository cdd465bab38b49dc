import VoxelScore.Link.Base64
import VoxelScore.Link.Percent
import VoxelScore.Text.Blank

/-!
# Share payloads

The payload of a share link is the base64 of the UTF-8 of its code, possibly percent-escaped and
broken by blanks. Decoding undoes these layers from the outside in and trims the code.

## Main definitions

* `Payload.decode` — the code of a payload, or the layer that fails and why.
* `Payload.Error.message` — the wording of a failure.
-/

namespace VoxelScore.Payload

/-- The layer of a payload that cannot be undone. -/
inductive Error where
  /-- The escapes resolve to bytes that are no UTF-8. -/
  | percent (fault : Utf8.Fault)
  /-- The resolved text is no base64. -/
  | base64 (error : Base64.Error)
  /-- The decoded bytes are no UTF-8. -/
  | utf8 (fault : Utf8.Fault)
  /-- The code is blank. -/
  | empty
  deriving DecidableEq, Repr

/-- The wording of a failure. -/
def Error.message : Error → String
  | .percent fault => "payload is not valid percent-encoded UTF-8: " ++ fault.message
  | .base64 error => "invalid base64: " ++ error.message
  | .utf8 fault => "decoded payload is not UTF-8: " ++ fault.message
  | .empty => "decoded payload is empty"

/-- The code that a payload carries, trimmed and not empty. -/
def decode (payload : Text) : Except Error Text := do
  let sanitized := payload.filter (!Text.isBlank ·)
  let unescaped ← (Percent.decodeText sanitized).mapError .percent
  let bytes ← (Base64.decode (Utf8.encode unescaped)).mapError .base64
  let code ← (Utf8.decode bytes).mapError .utf8
  if (Text.trim code).isEmpty then throw .empty
  return Text.trim code

example : decode " JDogbm90ZSgiYyBl\nIGciKQ%3D%3D ".toList = .ok "$: note(\"c e g\")".toList := by
  rfl

example : decode "ICAg".toList = .error .empty := by rfl

end VoxelScore.Payload
