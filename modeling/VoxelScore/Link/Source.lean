import VoxelScore.Link.Payload
import VoxelScore.Link.Url

/-!
# Sources of pattern code

A caller finds pattern code directly, as the payload of a share link, or as the name under which a
server keeps it. A page link refers to one of them; resolving a reference gives code and a
description of where it came from, and never fails: what cannot be resolved becomes the default
code, and the description says why.

## Main definitions

* `Source` — a reference to pattern code.
* `Source.ofLink?` — the reference that a page link carries.
* `Source.resolve` — the code of a reference and its description.
* `Source.describe`, `Source.statusLine` — the wording of descriptions and of the status.
-/

namespace VoxelScore

/-- A reference to pattern code. -/
inductive Source where
  /-- The code itself. -/
  | code (text : Text)
  /-- The payload of a share link, and the link if it was found inside another one. -/
  | hash (payload : Text) (link : Option Text)
  /-- A name that would need a server to look up. -/
  | shareId (id : Text)
  deriving DecidableEq, Repr

namespace Source

/-! ## Page links -/

/-- The text starts with `http://` or `https://` in any case and has at least one more character
than `http://`. -/
def looksNested (fragment : Text) : Bool :=
  let start := Text.lower (fragment.take 8)
  start.length = 8 &&
    ("http://".toList.isPrefixOf start || "https://".toList.isPrefixOf start)

/-- The payload of a share link that was pasted into the fragment of another link. -/
def nested? (fragment : Text) : Option Source := do
  if !looksNested fragment then none
  let link ← Url.parse? fragment
  let payload ← link.fragment
  if payload.isEmpty then none else some (.hash payload (some fragment))

/-- The code of a `code` parameter: escapes that are left in it are resolved when that gives UTF-8,
and it is trimmed. -/
def ofParameter (value : Text) : Source :=
  match Percent.decodeText value with
  | .ok text => .code (Text.trim text)
  | .error _ => .code (Text.trim value)

/-- The reference that a page link carries. A `code` parameter is the code itself, any other query
that is not empty a share name, and a fragment that is not empty a payload, or a share link that
carries one. Escaped queries and fragments hold no blanks, so there is nothing to trim. -/
def ofLink? (location : Text) : Option Source := do
  let link ← Url.parse? (Text.trim location)
  if let some (_, value) := link.parameters.find? (·.1 = "code".toList) then
    return ofParameter value
  let query := link.query.getD []
  if !query.isEmpty then
    return .shareId query
  let fragment ← link.fragment
  if fragment.isEmpty then none
  else some ((nested? fragment).getD (.hash fragment none))

/-! ## Resolution -/

/-- The code that stands in for code that is missing or cannot be resolved. -/
def defaultCode : Text :=
  "$: s(\"bd [sd hh] bd sd\").fast(1)".toList

/-- How many characters of code a description shows. -/
def snippetLength : Nat := 48

/-- A label and the start of the code, its blanks collapsed; an ellipsis shows that it was cut. -/
def describe (label : String) (code : Text) : String :=
  let compact := Text.squeeze code
  let snippet :=
    if compact.length > snippetLength then compact.take snippetLength ++ ['…'] else compact
  label ++ ": " ++ String.ofList snippet

/-- Code and where it came from. -/
structure Resolved where
  code : Text
  description : String
  deriving DecidableEq, Repr

/-- Code that was given as such. -/
def Resolved.inline (code : Text) : Resolved :=
  ⟨code, describe "inline" code⟩

/-- The code of a reference, or the default code if there is no reference, if its payload cannot be
decoded, or if it is a name that only a server knows. -/
def resolve : Option Source → Resolved
  | none => ⟨defaultCode, "default pattern"⟩
  | some (.code text) => .inline text
  | some (.hash payload _) =>
    match Payload.decode payload with
    | .ok text => ⟨text, describe "hash" text⟩
    | .error _ => ⟨defaultCode, "hash decode failed - fallback pattern"⟩
  | some (.shareId id) =>
    ⟨defaultCode, "share ID (" ++ String.ofList id ++ ") not supported offline"⟩

/-- A description and the number of lanes. -/
def statusLine (description : String) (lanes : Nat) : String :=
  description ++ " (" ++ toString lanes ++ " lane" ++ (if lanes = 1 then "" else "s") ++ ")"

end Source

end VoxelScore
