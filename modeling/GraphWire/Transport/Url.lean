/-! # URLs as requests are sent to them

A request goes to the URL that the URL Standard's parser makes of its text, written back out by
the standard's serializer, for the schemes `http` and `https`. Writing a URL back out is not the
identity on its text:

* controls and spaces at either end are dropped, and tabs and line breaks anywhere;
* the scheme and the host are lower-cased, a host that ends in a number is read as an IPv4
  address and written in dotted decimal, and the scheme's default port is left out;
* `\` separates path segments as `/` does, and the segments `.` and `..`, also written with
  `%2e`, are resolved;
* a character that may not stand in the path, the query or the fragment is percent-encoded,
  each byte of its UTF-8 form as `%` and two upper-case hexadecimal digits.

User info in the authority is not part of the URL a request is sent to: it goes into an
authorization header instead. An address in brackets is kept as written, lower-cased. -/

namespace GraphWire

/-- Why a text is no URL a request can be sent to. -/
inductive UrlError where
  | relativeWithoutBase
  | badScheme
  | emptyHost
  | invalidPort
  | invalidIpv4
  | invalidIpv6
  | invalidDomain
deriving DecidableEq, Repr

/-- The wording of a URL error. -/
def UrlError.message : UrlError → String
  | .relativeWithoutBase => "relative URL without a base"
  | .badScheme => "URL scheme is not allowed"
  | .emptyHost => "empty host"
  | .invalidPort => "invalid port number"
  | .invalidIpv4 => "invalid IPv4 address"
  | .invalidIpv6 => "invalid IPv6 address"
  | .invalidDomain => "invalid international domain name"

/-- A URL of the scheme `http` or `https`, its parts written as they are serialized. -/
structure Url where
  scheme : String
  host : String
  port : Option Nat
  path : List String
  query : Option String
  fragment : Option String
deriving DecidableEq, Repr

namespace Url

/-! ## Percent-encoding -/

/-- Whether a character is a C0 control or beyond ASCII: every percent-encode set holds
these. -/
def isControlOrWide (c : Char) : Bool := c.toNat < 0x20 || c.toNat > 0x7E

/-- The characters percent-encoded in a fragment. -/
def inFragmentSet (c : Char) : Bool := isControlOrWide c || " \"<>`".contains c

/-- The characters percent-encoded in the query of a URL of a special scheme. -/
def inQuerySet (c : Char) : Bool := isControlOrWide c || " \"#<>'".contains c

/-- The characters percent-encoded in a path segment. -/
def inPathSet (c : Char) : Bool := isControlOrWide c || " \"#<>?`".contains c ||
  c = '\x7b' || c = '\x7d'

/-- An upper-case hexadecimal digit. -/
def hexUpper (n : Nat) : Char := if n < 10 then Char.ofNat (48 + n) else Char.ofNat (55 + n)

/-- A byte percent-encoded. -/
def percentByte (b : UInt8) : List Char := ['%', hexUpper (b.toNat / 16), hexUpper (b.toNat % 16)]

/-- A character as it is written: percent-encoded, byte by byte, if it is in the set. -/
def encodeChar (inSet : Char → Bool) (c : Char) : List Char :=
  if inSet c then (String.singleton c).toUTF8.toList.flatMap percentByte else [c]

/-- Characters as they are written, those in the set percent-encoded. -/
def encode (inSet : Char → Bool) (cs : List Char) : String :=
  String.ofList (cs.flatMap (encodeChar inSet))

/-- The value of a hexadecimal digit. -/
def hexValue (c : Char) : Option Nat :=
  if c.isDigit then some (c.toNat - 48)
  else if 'a' ≤ c && c ≤ 'f' then some (c.toNat - 87)
  else if 'A' ≤ c && c ≤ 'F' then some (c.toNat - 55)
  else none

/-- Bytes with every `%` and two hexadecimal digits after it read as the byte they name. -/
def percentDecode : List UInt8 → List UInt8
  | [] => []
  | b :: h :: l :: more =>
    match b == 37, hexValue (Char.ofNat h.toNat), hexValue (Char.ofNat l.toNat) with
    | true, some x, some y => UInt8.ofNat (16 * x + y) :: percentDecode more
    | _, _, _ => b :: percentDecode (h :: l :: more)
  | b :: rest => b :: percentDecode rest
termination_by bs => bs.length

/-! ## Scheme and authority -/

/-- The text with controls and spaces dropped at either end and tabs and line breaks
anywhere. -/
def clean (text : String) : List Char :=
  let edge := fun (c : Char) => c.toNat ≤ 0x20
  let cs := (text.toList.dropWhile edge).reverse.dropWhile edge
  cs.reverse.filter (fun c => c ≠ '\t' && c ≠ '\n' && c ≠ '\r')

/-- The scheme of a text, lower-cased, and what follows its `:`. -/
def splitScheme (cs : List Char) : Option (String × List Char) :=
  match cs with
  | c :: _ =>
    if c.isAlpha then
      let name := cs.takeWhile (fun d => d.isAlphanum || d = '+' || d = '-' || d = '.')
      match cs.drop name.length with
      | ':' :: rest => some (String.ofList (name.map Char.toLower), rest)
      | _ => none
    else none
  | [] => none

/-- Whether a character separates path segments. -/
def isSlash (c : Char) : Bool := c = '/' || c = '\\'

/-- Whether a character ends the authority. -/
def endsAuthority (c : Char) : Bool := isSlash c || c = '?' || c = '#'

/-- What follows the last `@` of an authority, and whether there is one. -/
def afterUserInfo (authority : List Char) : List Char × Bool :=
  let back := authority.reverse
  let host := back.takeWhile (· ≠ '@')
  (host.reverse, host.length < back.length)

/-- The host of a host and port, and the port's digits after its `:` if one is there; a `:`
between brackets belongs to the host. -/
def splitPort : Bool → List Char → List Char × Option (List Char)
  | _, [] => ([], none)
  | inside, c :: rest =>
    if c = ':' && !inside then ([], some rest)
    else
      let (host, port) := splitPort (if c = '[' then true else if c = ']' then false else inside)
        rest
      (c :: host, port)

/-- The number digits stand for in a radix. -/
def digitsValue (radix : Nat) (ds : List Char) : Nat :=
  ds.foldl (fun n d => radix * n + (hexValue d).getD 0) 0

/-- The port of a scheme, none when it is the scheme's default; at most 65535. -/
def parsePort (scheme : String) (ds : List Char) : Except UrlError (Option Nat) :=
  if ds.isEmpty then .ok none
  else if !ds.all Char.isDigit then .error .invalidPort
  else
    let n := digitsValue 10 ds
    if n > 65535 then .error .invalidPort
    else if n = (if scheme = "https" then 443 else 80) then .ok none
    else .ok (some n)

/-! ## Hosts -/

/-- A part of an IPv4 address: decimal, hexadecimal after `0x`, or octal after a leading `0`;
none if it is empty or beyond 32 bits. -/
def ipv4Number (cs : List Char) : Option Nat :=
  let (radix, ds) := match cs with
    | '0' :: x :: rest => if x = 'x' || x = 'X' then (16, rest) else (8, x :: rest)
    | _ => (10, cs)
  let valid := fun (d : Char) => match hexValue d with
    | some v => decide (v < radix) && (radix = 16 || d.isDigit)
    | none => false
  if cs.isEmpty || !ds.all valid then none
  else
    let n := digitsValue radix ds
    if n < Nat.pow 2 32 then some n else none

/-- The parts of a text between dots. -/
def dotParts (cs : List Char) : List (List Char) :=
  (String.ofList cs).splitOn "." |>.map String.toList

/-- Whether a host ends in a number, and so must be an IPv4 address. -/
def endsInNumber (cs : List Char) : Bool :=
  let parts := (dotParts cs).reverse
  let last := match parts with
    | [] :: next :: _ => some next
    | [] :: [] => none
    | p :: _ => some p
    | [] => none
  match last with
  | some p => (!p.isEmpty && p.all Char.isDigit) || (ipv4Number p).isSome
  | none => false

/-- An IPv4 address in dotted decimal from up to four numbers, the last of which fills the
bytes the others leave. -/
def parseIpv4 (cs : List Char) : Except UrlError String := do
  let parts := dotParts cs
  let parts := if parts.getLast? = some [] then parts.dropLast else parts
  if parts.length > 4 || parts.isEmpty then throw .invalidIpv4
  let numbers ← parts.mapM (fun p => match ipv4Number p with
    | some n => .ok n
    | none => .error .invalidIpv4)
  let front := numbers.dropLast
  let last := numbers.getLast?.getD 0
  if last ≥ Nat.pow 256 (4 - front.length) || front.any (· > 255) then throw .invalidIpv4
  let address := front.zipIdx.foldl (fun a (n, i) => a + n * Nat.pow 256 (3 - i)) last
  return ".".intercalate ([3, 2, 1, 0].map (fun k => toString (address / Nat.pow 256 k % 256)))

/-- Whether a character may not stand in a domain. -/
def isForbiddenInDomain (c : Char) : Bool :=
  c.toNat ≤ 0x20 || c.toNat = 0x7F || "#%/:<>?@[\\]^|".contains c

/-- The host of a URL of a special scheme: percent-decoded, lower-cased, and read as an IPv4
address if it ends in a number. -/
def parseHost (cs : List Char) : Except UrlError String :=
  match cs with
  | '[' :: _ =>
    if cs.getLast? = some ']' &&
        (cs.drop 1).dropLast.all (fun c => (hexValue c).isSome || c = ':' || c = '.') then
      .ok (String.ofList (cs.map Char.toLower))
    else .error .invalidIpv6
  | _ =>
    match String.fromUTF8? ⟨(percentDecode (String.ofList cs).toUTF8.toList).toArray⟩ with
    | none => .error .invalidDomain
    | some s =>
      let d := s.toList.map Char.toLower
      if d.isEmpty then .error .emptyHost
      else if d.any isForbiddenInDomain then .error .invalidDomain
      else if endsInNumber d then parseIpv4 d
      else .ok (String.ofList d)

/-! ## Paths -/

/-- Whether a written segment is `.`. -/
def isSingleDot (s : String) : Bool := s = "." || s.toLower = "%2e"

/-- Whether a written segment is `..`. -/
def isDoubleDot (s : String) : Bool :=
  let l := s.toLower
  l = ".." || l = ".%2e" || l = "%2e." || l = "%2e%2e"

/-- The segments of a path after those already read: `..` drops the last one, `.` is passed
over, and either adds an empty segment when it ends the path. -/
def addSegments (path : List String) : List (List Char) → List String
  | [] => path
  | seg :: rest =>
    let s := encode inPathSet seg
    let last := rest.isEmpty
    let path :=
      if isDoubleDot s then path.dropLast ++ (if last then [""] else [])
      else if isSingleDot s then path ++ (if last then [""] else [])
      else path ++ [s]
    addSegments path rest

/-- The segments of a text between slashes; `seg` holds the characters of the segment being
read, reversed. -/
def splitSegments (seg : List Char) : List Char → List (List Char)
  | [] => [seg.reverse]
  | c :: rest => if isSlash c then seg.reverse :: splitSegments [] rest
    else splitSegments (c :: seg) rest

/-! ## Parsing and writing -/

/-- The URL a text stands for, or why it stands for none. -/
def parse (text : String) : Except UrlError Url := do
  let (scheme, rest) ← match splitScheme (clean text) with
    | some p => pure p
    | none => throw UrlError.relativeWithoutBase
  unless scheme = "http" || scheme = "https" do throw .badScheme
  let rest := rest.dropWhile isSlash
  let authority := rest.takeWhile (fun c => !endsAuthority c)
  let tail := rest.drop authority.length
  let (hostPort, hasUserInfo) := afterUserInfo authority
  if hasUserInfo && hostPort.isEmpty then throw .emptyHost
  let (hostText, portText) := splitPort false hostPort
  if hostText.isEmpty then throw .emptyHost
  let host ← parseHost hostText
  let port ← parsePort scheme (portText.getD [])
  let pathText := tail.takeWhile (fun c => c ≠ '?' && c ≠ '#')
  let afterPath := tail.drop pathText.length
  let pathText := match pathText with
    | c :: more => if isSlash c then more else pathText
    | [] => []
  let (query, fragmentText) := match afterPath with
    | '?' :: more =>
      let q := more.takeWhile (· ≠ '#')
      (some (encode inQuerySet q), more.drop q.length)
    | other => (none, other)
  let fragment := match fragmentText with
    | '#' :: more => some (encode inFragmentSet more)
    | _ => none
  return ⟨scheme, host, port, addSegments [] (splitSegments [] pathText), query, fragment⟩

/-- The URL written out. -/
def text (u : Url) : String :=
  u.scheme ++ "://" ++ u.host ++ (match u.port with
    | some p => ":" ++ toString p
    | none => "") ++
  String.join (u.path.map ("/" ++ ·)) ++
  (match u.query with
    | some q => "?" ++ q
    | none => "") ++
  (match u.fragment with
    | some f => "#" ++ f
    | none => "")

end Url

end GraphWire
