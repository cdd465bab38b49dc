import VoxelScore.Link.Host

/-!
# Links

The parts of an absolute link that can carry a pattern: its query and its fragment. Scheme, user,
host and port are checked, since a link with a malformed one of them is no link at all, and path
text is skipped.

## Main definitions

* `Url` — query and fragment, percent-encoded as a browser writes them.
* `Url.parse?` — the link that a text is, if it is one.
* `Url.parameters` — the decoded name and value pairs of the query.
-/

namespace VoxelScore

/-- The query and the fragment of a link, without their marks `?` and `#`. -/
structure Url where
  query : Option Text
  fragment : Option Text
  deriving DecidableEq, Repr

namespace Url

/-! ## Schemes -/

/-- How the text after a scheme is read. -/
inductive SchemeKind where
  /-- `http`, `https`, `ws`, `wss` and `ftp`: a host is required, and `\` is as good as `/`. -/
  | web
  /-- `file`: a host is optional. -/
  | file
  /-- Every other scheme. -/
  | other
  deriving DecidableEq, Repr

/-- The kind of a scheme in small letters. -/
def SchemeKind.ofName (name : Text) : SchemeKind :=
  if ["http", "https", "ws", "wss", "ftp"].any (·.toList = name) then .web
  else if name = "file".toList then .file
  else .other

/-- Web and file links, whose rules differ from those of all other links. -/
def SchemeKind.isSpecial (kind : SchemeKind) : Bool :=
  kind ≠ .other

/-- A character of a scheme after its first one. -/
def isSchemeChar (c : Char) : Bool :=
  c.isAlphanum || c = '+' || c = '-' || c = '.'

/-- The kind of the scheme and what follows its colon. -/
def splitScheme? (t : Text) : Option (SchemeKind × Text) :=
  let name := t.takeWhile isSchemeChar
  match name.head?, t.dropWhile isSchemeChar with
  | some first, ':' :: r =>
    if first.isAlpha then some (.ofName (Text.lower name), r) else none
  | _, _ => none

/-! ## Authorities -/

/-- The character ends the authority of a link of this kind. -/
def endsAuthority (kind : SchemeKind) (c : Char) : Bool :=
  c = '/' || c = '?' || c = '#' || (c = '\\' && kind.isSpecial)

/-- The host of an authority without user, up to the first colon outside brackets. -/
def hostPart (inBrackets : Bool) : Text → Text
  | [] => []
  | c :: r =>
    if c = ':' && !inBrackets then []
    else c :: hostPart (c = '[' || (inBrackets && c ≠ ']')) r

/-- A port is a run of digits of value at most 65535, or empty. -/
def isPort (digits : Text) : Bool :=
  (Digits.value? 10 digits).any (· ≤ 65535)

/-- What may follow the host of a link: nothing, or a colon and a port. A port of a link whose
scheme is not special ends at a backslash too. -/
def isPortPart : Text → Bool
  | [] => true
  | ':' :: port => isPort (port.takeWhile (· ≠ '\\'))
  | _ => false

/-- The authority after `//` is well formed: user, host and port. An empty host is allowed only
without user and port, and never in a web link. -/
def isAuthority (kind : SchemeKind) (authority : Text) : Bool :=
  let (user, hostPort) := (authority.splitLast? '@').getD ([], authority)
  let named := user ≠ [] && user ≠ [':']
  let host := hostPart false hostPort
  let port := hostPort.drop host.length
  isPortPart port &&
    if host.isEmpty then
      !kind.isSpecial && !named && port.isEmpty && !(authority.contains '@' && user.isEmpty)
    else if kind.isSpecial then Host.isDomain host
    else Host.isOpaque host

/-- A letter and a colon or bar: the start of a path on such systems, never a host. -/
def isDriveLetter : Text → Bool
  | [letter, mark] => letter.isAlpha && (mark = ':' || mark = '|')
  | _ => false

/-- The host of a file link is empty, a drive letter or a domain. -/
def isFileHost (host : Text) : Bool :=
  host.isEmpty || isDriveLetter host || Host.isDomain host

/-- A slash of either direction. -/
def isSlash (c : Char) : Bool :=
  c = '/' || c = '\\'

/-- The text after the scheme has a well-formed authority where it needs one. -/
def hasAuthority (kind : SchemeKind) (t : Text) : Bool :=
  match kind, t with
  | .web, t => isAuthority .web ((t.dropWhile isSlash).takeWhile (!endsAuthority .web ·))
  | .file, a :: b :: r =>
    !(isSlash a && isSlash b) || isFileHost (r.takeWhile (!endsAuthority .file ·))
  | .other, '/' :: '/' :: r => isAuthority .other (r.takeWhile (!endsAuthority .other ·))
  | _, _ => true

/-! ## Query and fragment -/

/-- The characters that a fragment keeps. -/
def fragmentKeeps (c : Char) : Bool :=
  0x20 < c.toNat && c.toNat < 0x7F && !"\"<>`".toList.contains c

/-- The characters that a query keeps; special links escape the apostrophe as well. -/
def queryKeeps (special : Bool) (c : Char) : Bool :=
  0x20 < c.toNat && c.toNat < 0x7F && !"\"#<>".toList.contains c && !(special && c = '\'')

/-- Query and fragment of the text after a scheme. -/
def ofRest (special : Bool) (t : Text) : Url :=
  let tail := t.dropWhile fun c => c ≠ '?' && c ≠ '#'
  let fragment? := fun (r : Text) =>
    match r with
    | '#' :: f => some (Percent.escape fragmentKeeps f)
    | _ => none
  match tail with
  | '?' :: r =>
    ⟨some (Percent.escape (queryKeeps special) (r.takeWhile (· ≠ '#'))),
      fragment? (r.dropWhile (· ≠ '#'))⟩
  | r => ⟨none, fragment? r⟩

/-- A control character or a space, dropped at both ends of a link. -/
def isEdge (c : Char) : Bool :=
  c.toNat ≤ 0x20

/-- A tab or line break, dropped anywhere in a link. -/
def isBreak (c : Char) : Bool :=
  c = '\t' || c = '\n' || c = '\r'

/-- The text as a link is read from it. -/
def clean (t : Text) : Text :=
  (Text.dropEndWhile isEdge (t.dropWhile isEdge)).filter (!isBreak ·)

/-- The link that a text is; nothing for a text without scheme or with a malformed authority. -/
def parse? (t : Text) : Option Url := do
  let (kind, rest) ← splitScheme? (clean t)
  if hasAuthority kind rest then some (ofRest kind.isSpecial rest) else none

/-! ## Parameters -/

/-- The name or value that a piece of a query writes: a plus sign is a space, escapes are resolved,
and faults in the UTF-8 become U+FFFD. -/
def formDecode (piece : Text) : Text :=
  Utf8.decodeLossy (Percent.decode (Utf8.encode (piece.map fun c => if c = '+' then ' ' else c)))

/-- The pairs of a query in order: pieces between ampersands, name before the first equals sign.
Empty pieces are none. -/
def pairs (query : Text) : List (Text × Text) :=
  ((query.splitOnP (· = '&')).filter (!·.isEmpty)).map fun piece =>
    let (name, value) := (Text.splitOnce? '=' piece).getD (piece, [])
    (formDecode name, formDecode value)

/-- The decoded parameters of the link. -/
def parameters (url : Url) : List (Text × Text) :=
  (url.query.map pairs).getD []

end Url

end VoxelScore
