import ChainGateway.Net.Punycode
import ChainGateway.Net.SocketAddress
import ChainGateway.Text.Lowercase
import ChainGateway.Text.Segments
import ChainGateway.Text.Utf8

/-!
# Urls

A url is read leniently and kept in its normal form: scheme and host in lower case, numeric
hosts as addresses, no port where it is the usual one of the scheme, no credentials, no `.` and
`..` in the path, and whatever may not stand in a part of it written as hexadecimal octets after
a percent sign.  Two spellings of one url have the same normal form.
-/

namespace ChainGateway.Net

open Text

/-- A url in normal form. -/
structure Url where
  scheme : String
  /-- The host; there is none in urls that only carry a path. -/
  host? : Option String := none
  port? : Option Nat := none
  path : String := ""
  /-- The query with its question mark, or nothing. -/
  query : String := ""
  /-- The fragment with its number sign, or nothing. -/
  fragment : String := ""
  deriving DecidableEq, Repr

namespace Url

/-- The text of a url. -/
def text (url : Url) : String :=
  let authority :=
    match url.host? with
    | some host =>
        "//" ++ host ++ (match url.port? with
          | some port => ":" ++ Decimal.text port
          | none => "")
    | none => ""
  url.scheme ++ ":" ++ authority ++ url.path ++ url.query ++ url.fragment

/-! ## Octets after a percent sign -/

/-- A hexadecimal digit in upper case. -/
def upperHex (digit : Nat) : Char :=
  if digit < 10 then Char.ofNat ('0'.toNat + digit) else Char.ofNat ('A'.toNat + (digit - 10))

/-- The characters, with those that may not stand here written as octets. -/
def escape (isSafe : Char → Bool) (chars : List Char) : List Char :=
  chars.flatMap fun char =>
    if isSafe char then [char]
    else (Utf8.encodeChar char).flatMap fun octet =>
      ['%', upperHex (octet.toNat / 16), upperHex (octet.toNat % 16)]

/-- The octets that the characters stand for. -/
def unescape : List Char → Octets
  | '%' :: first :: second :: rest =>
      match digitValue? 16 first, digitValue? 16 second with
      | some high, some low => (high * 16 + low).toUInt8 :: unescape rest
      | _, _ => '%'.toUInt8 :: unescape (first :: second :: rest)
  | char :: rest => Utf8.encodeChar char ++ unescape rest
  | [] => []

/-- Is this a printable character of the basic alphabet? -/
def isPrintable (char : Char) : Bool :=
  decide (0x20 ≤ char.toNat) && decide (char.toNat < 0x7F)

/-- May the character stand in a fragment? -/
def isFragmentChar (char : Char) : Bool :=
  isPrintable char && !([' ', '"', '<', '>', (Char.ofNat 0x60)].contains char)

/-- May the character stand in a path? -/
def isPathChar (char : Char) : Bool :=
  isFragmentChar char && !(['#', '?', '\x7b', '\x7d'].contains char)

/-- May the character stand in a query? -/
def isQueryChar (char : Char) : Bool :=
  isPrintable char && !([' ', '"', '#', '<', '>', '\''].contains char)

/-! ## Hosts -/

/-- May the character not stand in the name of a host? -/
def isForbidden (char : Char) : Bool :=
  decide (char.toNat ≤ 0x20) || decide (char.toNat = 0x7F) ||
    ['#', '%', '/', ':', '<', '>', '?', '@', '[', '\\', ']', '^', '|'].contains char

/-- A label in the basic alphabet. -/
def basicLabel (label : List Char) : List Char :=
  if label.all fun char => char.toNat < 0x80 then label
  else ['x', 'n', '-', '-'] ++ Punycode.encode label

/-- Joins segments with a separator. -/
def join (separator : Char) (parts : List (List Char)) : List Char :=
  [separator].intercalate parts

/-- The number that a part of a numeric host denotes: hexadecimal after `0x`, octal after `0`. -/
def numberOf? (part : List Char) : Option Nat :=
  let (base, digits) :=
    match part with
    | '0' :: 'x' :: digits => (16, digits)
    | '0' :: digit :: digits => (8, digit :: digits)
    | digits => (10, digits)
  match readDigits base 0 0 digits with
  | (_, value, []) => if part.isEmpty then none else some value
  | _ => none

/-- The labels of a host, without an empty one at the end. -/
def labelsOf (name : List Char) : List (List Char) :=
  let labels := segments '.' name
  if 1 < labels.length ∧ labels.getLast? = some [] then labels.dropLast else labels

/-- Is the host meant to be numeric? -/
def isNumeric (name : List Char) : Bool :=
  match (labelsOf name).getLast? with
  | some label => (!label.isEmpty && label.all Char.isDigit) || (numberOf? label).isSome
  | none => false

/-- The address that the numbers of a numeric host denote: the last one fills all octets that
are left. -/
def addressOf? (numbers : List Nat) : Option (List Nat) :=
  let left := 5 - numbers.length
  match numbers.reverse with
  | last :: others =>
      if 4 < numbers.length ∨ others.any (255 < ·) ∨ Nat.pow 256 left ≤ last then none
      else
        some (others.reverse ++
          ((List.range left).reverse.map fun place => last / Nat.pow 256 place % 256))
  | [] => none

/-- The normal form of a numeric host. -/
def numericHost? (name : List Char) : Option String := do
  let numbers ← (labelsOf name).mapM numberOf?
  return v4Text (← addressOf? numbers)

/-- The normal form of a host in a scheme that knows hosts. -/
def normalHost? (host : List Char) : Option String :=
  match host with
  | '[' :: address =>
      match readV6? address with
      | some (.v6 groups, [']']) => some ("[" ++ v6Text groups.toList ++ "]")
      | _ => none
  | _ => do
      let name := (lowercase (← Utf8.decode? (unescape host))).toList
      let name := join '.' ((segments '.' name).map basicLabel)
      if name.isEmpty ∨ name.any isForbidden then none
      else if isNumeric name then numericHost? name
      else some (String.ofList name)

/-! ## Paths -/

/-- A path segment that names the directory itself. -/
def isHere (segment : List Char) : Bool :=
  [".", "%2e"].contains (foldSegment segment)
where
  /-- A segment in lower case. -/
  foldSegment (segment : List Char) : String := String.ofList (segment.map Char.toLower)

/-- A path segment that names the directory above. -/
def isAbove (segment : List Char) : Bool :=
  ["..", ".%2e", "%2e.", "%2e%2e"].contains (isHere.foldSegment segment)

/-- The segments of a path without those that name a directory relative to it; `done` holds
those already handled, the last one first. -/
def resolveSegments (done : List (List Char)) : List (List Char) → List (List Char)
  | [] => done.reverse
  | segment :: rest =>
      if isAbove segment then
        resolveSegments (if rest.isEmpty then [] :: done.tail else done.tail) rest
      else if isHere segment then
        resolveSegments (if rest.isEmpty then [] :: done else done) rest
      else resolveSegments (segment :: done) rest

/-- The normal form of a path that follows a host. -/
def pathOf (chars : List Char) : List Char :=
  let chars := match chars with
    | '/' :: rest => rest
    | rest => rest
  '/' :: join '/' (resolveSegments [] ((segments '/' chars).map (escape isPathChar)))

/-! ## Whole urls -/

/-- The default port of a scheme that knows hosts; `none` for other schemes. -/
def defaultPort? (scheme : String) : Option Nat :=
  [("http", 80), ("https", 443), ("ws", 80), ("wss", 443), ("ftp", 21)].lookup scheme

/-- May the character stand in a scheme after its first letter? -/
def isSchemeChar (char : Char) : Bool :=
  char.isAlphanum || char = '+' || char = '-' || char = '.'

/-- The scheme in lower case and the characters after its colon. -/
def readScheme? (chars : List Char) : Option (String × List Char) :=
  match chars.takeWhile isSchemeChar, chars.dropWhile isSchemeChar with
  | first :: scheme, ':' :: rest =>
      if first.isAlpha then some (String.ofList ((first :: scheme).map Char.toLower), rest)
      else none
  | _, _ => none

/-- The port after a host: none, or a colon and digits. -/
def readPortPart? : List Char → Option (Option Nat)
  | [] => some none
  | ':' :: digits =>
      if digits.isEmpty then some none
      else if digits.all Char.isDigit then
        let (_, port, _) := readDigits 10 0 0 digits
        if port < 0x10000 then some (some port) else none
      else none
  | _ => none

/-- The host of an authority and what follows it. -/
def splitHost (authority : List Char) : List Char × List Char :=
  match authority with
  | '[' :: rest =>
      let inner := rest.takeWhile (· ≠ ']')
      ('[' :: inner ++ (rest.drop inner.length).take 1, rest.drop (inner.length + 1))
  | _ => (authority.takeWhile (· ≠ ':'), authority.dropWhile (· ≠ ':'))

/-- What follows the credentials of an authority. -/
def afterCredentials (authority : List Char) : List Char :=
  (authority.reverse.takeWhile (· ≠ '@')).reverse

/-- The query and the fragment, from the characters after a path. -/
def tailOf (chars : List Char) : String × String :=
  let query := chars.takeWhile (· ≠ '#')
  let fragment := chars.dropWhile (· ≠ '#')
  (String.ofList (match query with
      | [] => []
      | mark :: query => mark :: escape isQueryChar query),
    String.ofList (match fragment with
      | [] => []
      | mark :: fragment => mark :: escape isFragmentChar fragment))

/-- Does a query or a fragment begin here? -/
def endsPath (char : Char) : Bool :=
  char = '?' || char = '#'

/-- A url whose scheme has a default port: it has a host. -/
def withHost? (scheme : String) (default : Nat) (chars : List Char) : Option Url := do
  let before := chars.takeWhile fun char => !endsPath char
  let tail := chars.drop before.length
  let chars := (before.map fun char => if char = '\\' then '/' else char).dropWhile (· = '/')
  let authority := chars.takeWhile (· ≠ '/')
  let (host, after) := splitHost (afterCredentials authority)
  let host ← normalHost? host
  let port ← readPortPart? after
  let (query, fragment) := tailOf tail
  return {
    scheme
    host? := some host
    port? := port.filter (· ≠ default)
    path := String.ofList (pathOf (chars.drop authority.length))
    query
    fragment }

/-- A url of any other scheme. -/
def withoutHost (scheme : String) (chars : List Char) : Url :=
  let path := chars.takeWhile fun char => !endsPath char
  let (query, fragment) := tailOf (chars.drop path.length)
  { scheme, path := String.ofList (escape isPrintable path), query, fragment }

/-- Is the character passed over at both ends of a url? -/
def isEdge (char : Char) : Bool :=
  decide (char.toNat ≤ 0x20)

/-- The url that a text denotes, if it denotes one. -/
def ofText? (text : String) : Option Url := do
  let chars := ((text.toList.dropWhile isEdge).reverse.dropWhile isEdge).reverse
  let chars := chars.filter fun char => !(char = '\t' || char = '\n' || char = '\r')
  let (scheme, rest) ← readScheme? chars
  match defaultPort? scheme with
  | some port => withHost? scheme port rest
  | none => return withoutHost scheme rest

end Url

end ChainGateway.Net
