import RequestAuth.Fault
import RequestAuth.Text.Hex

/-!
# Addresses

An address is split into scheme, authority, path, query and fragment by its delimiters alone, and
put together again; nothing is decoded or normalised but the case of the scheme. Control characters
and blanks in front are dropped, and so are tabs and line breaks everywhere.

The host of an authority with brackets has to be an address that is written between them, and an
authority beyond ASCII must not hold a character that would turn into a delimiter when it is
normalised.
-/

namespace RequestAuth

/-- The parts of an address, without the delimiters between them. -/
structure Url where
  /-- What stands before the first colon, in small letters. -/
  scheme : List Char
  /-- The host with what belongs to it, behind two slashes. -/
  authority : List Char
  /-- The path. -/
  path : List Char
  /-- What stands behind a question mark. -/
  query : List Char
  /-- What stands behind a number sign. -/
  fragment : List Char
  deriving DecidableEq

namespace Url

/-! ### Host addresses between brackets -/

/-- Whether a text is one of the four numbers of a dotted address. -/
def isOctet (s : List Char) : Bool :=
  !s.isEmpty && s.all Char.isDigit && s.length ≤ 3 && (s.length == 1 || s.head? != some '0') &&
    s.foldl (fun n c => 10 * n + (c.toNat - 48)) 0 ≤ 255

/-- Whether a text is a dotted address of four numbers. -/
def isDotted (s : List Char) : Bool :=
  let octets := s.splitOn '.'
  octets.length == 4 && octets.all isOctet

/-- Whether a text is a group of up to four hexadecimal digits. -/
def isGroup (s : List Char) : Bool :=
  !s.isEmpty && s.length ≤ 4 && s.all fun c => (Text.hexValue? c).isSome

/-- Whether groups, the empty ones among them, make up an address of eight groups: exactly eight, or
fewer with one gap, which is an empty group inside or two at an end. -/
def areGroups (groups : List (List Char)) : Bool :=
  let inner := (groups.drop 1).dropLast
  let gaps := inner.countP List.isEmpty
  if gaps = 0 then groups.length == 8 && groups.all isGroup
  else if gaps = 1 then
    let before := groups.takeWhile (!·.isEmpty)
    let (before, after) :=
      if before.isEmpty then ([], groups.drop 2) else (before, groups.drop (before.length + 1))
    let after := if after == [[]] then [] else after
    before.all isGroup && after.all isGroup && before.length + after.length ≤ 7
  else false

/-- The groups of an address, a dotted address at the end counting as two. -/
def groups? (s : List Char) : Option (List (List Char)) :=
  let groups := s.splitOn ':'
  if groups.length < 3 then none
  else
    let last := groups.getLastD []
    let groups :=
      if last.contains '.' then
        if isDotted last then some (groups.dropLast ++ [['0'], ['0']]) else none
      else some groups
    groups.filter fun g => g.length ≤ 9

/-- Whether a text is an address of eight groups, with or without the name of a zone. -/
def isGrouped (s : List Char) : Bool :=
  let address := s.takeWhile (· != '%')
  let zone := s.dropWhile (· != '%')
  !s.contains '/' && (zone.isEmpty || (zone.length ≥ 2 && !(zone.drop 1).contains '%')) &&
    (match groups? address with
      | some groups => areGroups groups
      | none => false)

/-- Whether a text has the form of an address of a later version. -/
def isLaterVersion : List Char → Bool
  | 'v' :: rest =>
    let digits := rest.takeWhile fun c => (Text.hexValue? c).isSome
    match rest.drop digits.length with
    | '.' :: tail => !digits.isEmpty && !tail.isEmpty
    | _ => false
  | _ => false

/-- Whether the host between brackets is an address. -/
def checkBracketed (host : List Char) : Except Fault Unit :=
  if host.head? == some 'v' then
    if isLaterVersion host then .ok () else .error (.valueInvalid "IPvFuture address is invalid")
  else if isDotted host then
    .error (.valueInvalid "An IPv4 address cannot be in brackets")
  else if isGrouped host then .ok ()
  else
    let shown := quotedText (String.ofList host)
    .error (.valueInvalid s!"{shown} does not appear to be an IPv4 or IPv6 address")

/-! ### The authority -/

/-- The characters beyond ASCII that hold a delimiter when they are normalised. -/
def disguised : List Nat :=
  [0x2047, 0x2048, 0x2049, 0x2100, 0x2101, 0x2105, 0x2106, 0x2A74, 0xFE13, 0xFE16, 0xFE55, 0xFE56,
    0xFE5F, 0xFE6B, 0xFF03, 0xFF0F, 0xFF1A, 0xFF1F, 0xFF20]

/-- What stands before the first occurrence of a character, and what stands behind it. -/
def cut (sep : Char) (s : List Char) : List Char × List Char :=
  (s.takeWhile (· != sep), (s.dropWhile (· != sep)).drop 1)

/-- What stands behind the last occurrence of a character, everything if there is none. -/
def behindLast (sep : Char) (s : List Char) : List Char :=
  (s.reverse.takeWhile (· != sep)).reverse

/-- A fault of the brackets of an authority. -/
def bracketFault : Fault := .valueInvalid "Invalid IPv6 URL"

/-- The host of an authority that has brackets somewhere. Behind the user, an opening bracket has to
come first, and what follows the closing one has to be a port; without an opening bracket there, the
host ends at the first colon. -/
def hostInBrackets (authority : List Char) : Except Fault (List Char) :=
  let place := behindLast '@' authority
  if place.contains '[' then
    let (before, rest) := cut '[' place
    let (host, port) := cut ']' rest
    if before.isEmpty && (port.isEmpty || port.head? == some ':') then .ok host
    else .error bracketFault
  else .ok (cut ':' place).1

/-- Whether an authority may stand in an address. -/
def checkAuthority (authority : List Char) : Except Fault Unit := do
  let opened := authority.contains '['
  let closed := authority.contains ']'
  if opened != closed then throw bracketFault
  if opened then checkBracketed (← hostInBrackets authority)
  if authority.any fun c => disguised.contains c.toNat then
    let shown := String.ofList authority
    throw (.valueInvalid
      s!"netloc '{shown}' contains invalid characters under NFKC normalization")

/-! ### Splitting -/

/-- Whether a character is a tab or ends a line. -/
def isDropped (c : Char) : Bool := c == '\t' || c == '\n' || c == '\r'

/-- The text without control characters and blanks in front, and without tabs and line breaks. -/
def clean (s : List Char) : List Char :=
  (s.dropWhile fun c => c.toNat ≤ 32).filter fun c => !isDropped c

/-- Whether a character may stand in a scheme. -/
def isSchemeChar (c : Char) : Bool := c.isAlphanum || c == '+' || c == '-' || c == '.'

/-- The scheme, in small letters, and what stands behind its colon. -/
def splitScheme (s : List Char) : List Char × List Char :=
  let front := s.takeWhile (· != ':')
  if s.contains ':' && front.head?.any Char.isAlpha && front.all isSchemeChar then
    (front.map Char.toLower, s.drop (front.length + 1))
  else ([], s)

/-- Whether a character ends the authority. -/
def endsAuthority (c : Char) : Bool := c == '/' || c == '?' || c == '#'

/-- The authority behind two slashes, and what follows it. -/
def splitAuthority : List Char → List Char × List Char
  | '/' :: '/' :: rest =>
    (rest.takeWhile fun c => !endsAuthority c, rest.dropWhile fun c => !endsAuthority c)
  | s => ([], s)

/-- The parts of an address. -/
def split (s : List Char) : Except Fault Url := do
  let (scheme, rest) := splitScheme (clean s)
  let (authority, rest) := splitAuthority rest
  checkAuthority authority
  let (rest, fragment) := cut '#' rest
  let (path, query) := cut '?' rest
  return ⟨scheme, authority, path, query, fragment⟩

/-! ### Putting together -/

/-- The schemes whose addresses have an authority, if only an empty one. -/
def authoritySchemes : List String :=
  ["ftp", "http", "gopher", "nntp", "telnet", "imap", "wais", "file", "mms", "https", "shttp",
    "snews", "prospero", "rtsp", "rtspu", "rsync", "svn", "svn+ssh", "sftp", "nfs", "git",
    "git+ssh", "ws", "wss"]

/-- Whether two slashes and the authority are written. -/
def showsAuthority (u : Url) : Bool :=
  !u.authority.isEmpty ||
    (authoritySchemes.contains (String.ofList u.scheme) && !(['/', '/'].isPrefixOf u.path))

/-- The authority and the path, with a slash between them. -/
def authorityAndPath (u : Url) : List Char :=
  if u.showsAuthority then
    let path := if u.path.isEmpty || u.path.head? == some '/' then u.path else '/' :: u.path
    '/' :: '/' :: u.authority ++ path
  else u.path

/-- A part with what marks it, or nothing when the part is empty. -/
def marked (mark : Char) (part : List Char) : List Char := if part.isEmpty then [] else mark :: part

/-- The address with the given parts. -/
def join (u : Url) : List Char :=
  (if u.scheme.isEmpty then [] else u.scheme ++ [':']) ++ u.authorityAndPath ++
    marked '?' u.query ++ marked '#' u.fragment

/-- The parts with a query behind the one that is there. -/
def addQuery (u : Url) (query : List Char) : Url :=
  { u with query := if u.query.isEmpty then query else u.query ++ '&' :: query }

end Url

/-- The address with an encoded query behind the query it has. -/
def appendQuery (url query : String) : Except Fault String := do
  let u ← Url.split url.toList
  return String.ofList (u.addQuery query.toList).join

/-- The address of the token endpoint: an address with scheme and authority is taken as it is, and
anything else takes the place of the path of the base. -/
def tokenUrl (endpoint base : Option String) : Except Fault String := do
  let endpoint := endpoint.getD ""
  if endpoint.isEmpty then throw (.settingMissing "OAuth2 authentication" "token_endpoint")
  let u ← Url.split endpoint.toList
  if !u.scheme.isEmpty && !u.authority.isEmpty then return endpoint
  let base := base.getD ""
  if base.isEmpty then throw (.baseMissing endpoint)
  let b ← Url.split base.toList
  let path := if endpoint.startsWith "/" then endpoint.toList else '/' :: endpoint.toList
  return String.ofList (Url.join ⟨b.scheme, b.authority, path, [], []⟩)

end RequestAuth
