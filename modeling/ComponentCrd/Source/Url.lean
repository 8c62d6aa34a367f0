import ComponentCrd.Source.Host

/-! Web addresses with the schemes http and https. Blanks and controls around the text and tabs
and line ends inside it do not count, a backslash is a slash, and the path has no dot segments.
-/

namespace ComponentCrd.Source

open Text

/-- The schemes of web addresses. -/
inductive Scheme where
  | http
  | https
deriving DecidableEq, Repr

namespace Scheme

/-- The name of a scheme. -/
def name : Scheme → String
  | .http => "http"
  | .https => "https"

/-- The port that needs not be given. -/
def defaultPort : Scheme → Nat
  | .http => 80
  | .https => 443

end Scheme

/-- A web address. What is before the host and behind the path stands as it was given. -/
structure Url where
  scheme : Scheme
  userinfo? : Option String
  host : String
  port? : Option Nat
  path : String
  query? : Option String
  fragment? : Option String
deriving DecidableEq, Repr

/-- The address without credentials, query and fragment. -/
def Url.sanitized (url : Url) : String :=
  let port := (url.port?.map fun port => ":" ++ toString port).getD ""
  url.scheme.name ++ "://" ++ url.host ++ port ++ url.path

namespace Url

/-- Whether a character does not count at the ends of the text. -/
def isMargin (c : Char) : Bool := c.toNat ≤ 0x20

/-- The text without what does not count. -/
def trimmed (text : List Char) : List Char :=
  let inner := ((text.dropWhile isMargin).reverse.dropWhile isMargin).reverse
  inner.filter fun c => c != '\t' && c != '\n' && c != '\r'

/-- Slashes and backslashes. -/
def isSlash (c : Char) : Bool := c == '/' || c == '\\'

/-- What ends the part of the host. -/
def endsAuthority (c : Char) : Bool := isSlash c || c == '?' || c == '#'

/-- The scheme that a text begins with, and the text behind its colon. -/
def scheme? (text : List Char) : Option (Scheme × List Char) :=
  let (name, rest) := text.span (· != ':')
  let lowered := name.map Char.toLower
  match rest with
  | _ :: rest =>
      if lowered = Scheme.http.name.toList then some (.http, rest)
      else if lowered = Scheme.https.name.toList then some (.https, rest)
      else none
  | [] => none

/-- The text before the last at sign, if there is one, and the text behind it. -/
def splitUserinfo (authority : List Char) : Option (List Char) × List Char :=
  let (behind, before) := authority.reverse.span (· != '@')
  match before with
  | [] => (none, authority)
  | _ :: before => (some before.reverse, behind.reverse)

/-- The host and what follows its colon; a colon between brackets belongs to the host. -/
def splitPort (inBrackets : Bool) : List Char → List Char × Option (List Char)
  | [] => ([], none)
  | c :: rest =>
      if c = ':' ∧ !inBrackets then
        ([], some rest)
      else
        let inBrackets := if c = '[' then true else if c = ']' then false else inBrackets
        let (host, port?) := splitPort inBrackets rest
        (c :: host, port?)

/-- The port of an address, none if it is the default or not given. -/
def portOf? (scheme : Scheme) (digits : List Char) : Option (Option Nat) := do
  let number ← numberOf? 10 digits
  guard (number < 65536)
  return if digits.isEmpty ∨ number = scheme.defaultPort then none else some number

/-- Characters of a path that stand as the percent signs of their bytes. -/
def isEncoded (c : Char) : Bool :=
  c.toNat ≤ 0x20 || 0x7F ≤ c.toNat || ['"', '#', '<', '>', '?', '`', '\x7b', '\x7d'].contains c

/-- A byte as a percent sign and two digits. -/
def percentEncoded (byte : UInt8) : List Char :=
  ['%', upperHex (byte.toNat / 16), upperHex byte.toNat]

/-- A character as it stands in a path. -/
def pathChar (c : Char) : List Char :=
  if isEncoded c then (String.utf8EncodeChar c).flatMap percentEncoded else [c]

/-- The segment with percent signs for dots turned into dots, if it holds dots only. -/
def dots : List Char → Option Nat
  | [] => some 0
  | '.' :: rest => (dots rest).map (· + 1)
  | '%' :: '2' :: 'e' :: rest => (dots rest).map (· + 1)
  | '%' :: '2' :: 'E' :: rest => (dots rest).map (· + 1)
  | _ => none

/-- The segments of a path with dot segments resolved, put behind those that stand already in
reverse. One dot stays where it is, two go back; at the end both leave an empty segment.
-/
def resolvedSegments (before : List (List Char)) : List (List Char) → List (List Char)
  | [] => before.reverse
  | segment :: rest =>
      let last := rest.isEmpty
      match dots segment with
      | some 1 => resolvedSegments (if last then [] :: before else before) rest
      | some 2 => resolvedSegments (if last then [] :: before.tail else before.tail) rest
      | _ => resolvedSegments (segment.flatMap pathChar :: before) rest

/-- The path of an address from the text behind the host. -/
def pathOf (text : List Char) : List Char :=
  let slashed := text.map fun c => if c = '\\' then '/' else c
  (resolvedSegments [] (segments '/' (slashed.drop 1))).flatMap ('/' :: ·)

/-- The text behind the mark, and the text before it. -/
def splitMark (mark : Char) (text : List Char) : List Char × Option String :=
  let (before, behind) := text.span (· != mark)
  match behind with
  | [] => (before, none)
  | _ :: behind => (before, some (String.ofList behind))

/-- The web address that a text stands for. -/
def ofText? (text : String) : Option Url := do
  let (scheme, rest) ← scheme? (trimmed text.toList)
  let (authority, rest) := (rest.dropWhile isSlash).span (!endsAuthority ·)
  let (userinfo?, location) := splitUserinfo authority
  let (hostText, portText?) := splitPort false location
  let host ← host? hostText
  let port? ← portOf? scheme (portText?.getD [])
  let (rest, fragment?) := splitMark '#' rest
  let (path, query?) := splitMark '?' rest
  return {
    scheme, port?, query?, fragment?
    userinfo? := userinfo?.map String.ofList
    host := String.ofList host
    path := String.ofList (pathOf path) }

end Url

end ComponentCrd.Source
