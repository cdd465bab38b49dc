import VoxelScore.Link.Label
import VoxelScore.Link.Percent
import VoxelScore.Number.Digits

/-!
# Hosts of links

A link is rejected as a whole when its host is not well formed, so the library decides which hosts
are: bracketed IPv6 addresses, names whose last label is a number (they must be IPv4 addresses),
other names of sound labels without forbidden characters, and, in links whose scheme is not a web
scheme, any opaque text without forbidden characters.

## Main definitions

* `Host.isDomain` — the hosts of `http:`, `https:`, `ws:`, `wss:`, `ftp:` and `file:` links.
* `Host.isOpaque` — the hosts of all other links.
-/

namespace VoxelScore.Host

/-! ## Numbers and IPv4 -/

/-- The number that a part of an IPv4 address writes: hexadecimal after `0x`, octal after another
leading zero, else decimal. -/
def ipv4Number? : Text → Option Nat
  | [] => none
  | '0' :: 'x' :: r => Digits.value? 16 r
  | '0' :: 'X' :: r => Digits.value? 16 r
  | '0' :: d :: r => Digits.value? 8 (d :: r)
  | digits => Digits.value? 10 digits

/-- The labels of a name; a dot at the end adds none. -/
def labels (name : Text) : List Text :=
  let all := name.splitOnP (· = '.')
  if all.length > 1 && all.getLast? = some [] then all.dropLast else all

/-- The last label is a number, so that the name has to be an IPv4 address. -/
def endsInNumber (name : Text) : Bool :=
  match (labels name).getLast? with
  | some last => (!last.isEmpty && last.all Char.isDigit) || (ipv4Number? last).isSome
  | none => false

/-- At most four numbers, all but the last one byte each, the last one filling the bytes that are
left. -/
def isIpv4 (name : Text) : Bool :=
  match (labels name).mapM ipv4Number? with
  | none => false
  | some numbers =>
    numbers.length ≤ 4 && numbers.dropLast.all (· ≤ 255) &&
      numbers.getLast?.any (· < Nat.pow 256 (5 - numbers.length))

/-! ## IPv6 -/

/-- One to four hexadecimal digits. -/
def isIpv6Piece (piece : Text) : Bool :=
  1 ≤ piece.length && piece.length ≤ 4 && (Digits.value? 16 piece).isSome

/-- Four decimal bytes without leading zeros, which may take the place of the last two pieces. -/
def isDottedQuad (piece : Text) : Bool :=
  let parts := piece.splitOnP (· = '.')
  parts.length = 4 && parts.all fun part =>
    !part.isEmpty && (part.length = 1 || part.head? ≠ some '0') &&
      (Digits.value? 10 part).any (· ≤ 255)

/-- How many pieces a colon-separated run holds, if all are well formed. Only the last one may be
dotted, and only where `dotted` allows it. -/
def ipv6Count? (dotted : Bool) : List Text → Option Nat
  | [] => some 0
  | [piece] =>
    if isIpv6Piece piece then some 1
    else if dotted && isDottedQuad piece then some 2
    else none
  | piece :: r => if isIpv6Piece piece then (ipv6Count? dotted r).map (· + 1) else none

/-- The colon-separated pieces of a run; none for the empty run. -/
def ipv6Pieces (run : Text) : List Text :=
  if run.isEmpty then [] else run.splitOnP (· = ':')

/-- What stands around the first `::`. -/
def splitAtGap? : Text → Option (Text × Text)
  | ':' :: ':' :: r => some ([], r)
  | c :: r => (splitAtGap? r).map fun (before, after) => (c :: before, after)
  | [] => none

/-- Eight pieces, or up to seven around one `::`. -/
def isIpv6 (address : Text) : Bool :=
  match splitAtGap? address with
  | none => ipv6Count? true (ipv6Pieces address) = some 8
  | some (before, after) =>
    match ipv6Count? false (ipv6Pieces before), ipv6Count? true (ipv6Pieces after) with
    | some m, some n => m + n ≤ 7
    | _, _ => false

/-- An IPv6 address in brackets. -/
def isBracketed (host : Text) : Bool :=
  host.getLast? = some ']' && isIpv6 (host.drop 1).dropLast

/-! ## Hosts -/

/-- The characters that no name may hold: controls, the space, and the marks that separate the
parts of a link. -/
def isForbidden (c : Char) : Bool :=
  c.toNat ≤ 0x20 || c.toNat = 0x7F || "%#/:<>?@[\\]^|".toList.contains c

/-- The hosts of web and file links: a bracketed address, or a name that, its escapes resolved,
holds no forbidden character, has sound labels, and is an IPv4 address if it ends in a number. -/
def isDomain (host : Text) : Bool :=
  if host.head? = some '[' then isBracketed host
  else
    match Percent.decodeText host with
    | .error _ => false
    | .ok name =>
      !name.isEmpty && !name.any isForbidden && Label.areSound (labels name) &&
        (!endsInNumber name || isIpv4 name)

/-- The characters that no opaque host may hold. -/
def isForbiddenOpaque (c : Char) : Bool :=
  "\x00\t\n\r #/:<>?@[\\]^|".toList.contains c

/-- The hosts of all other links. -/
def isOpaque (host : Text) : Bool :=
  if host.head? = some '[' then isBracketed host
  else !host.any isForbiddenOpaque

example : isDomain "strudel.cc".toList ∧ isDomain "[::1]".toList ∧ isDomain "1.2.3".toList := by
  decide

example : isDomain "a b".toList = false ∧ isDomain "256.1.1.1".toList = false ∧
    isDomain "[::g]".toList = false := by decide

end VoxelScore.Host
