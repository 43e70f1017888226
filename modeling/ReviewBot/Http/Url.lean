import ReviewBot.Http.Authority

set_option autoImplicit false

/-!
# URLs

A URL is read into its usual form: scheme and host in small letters, no usual port, no steps up in
the path, and everything written by percent signs that has to be. Only the schemes of the web have a
host; for any other one the rest is kept as it is.
-/

namespace ReviewBot

/-- A URL in its usual form. -/
structure Url where
  /-- The scheme. -/
  scheme : String
  /-- Host and port, if the scheme is one of the web. -/
  authority : Option String
  /-- Path and query. -/
  target : String
  /-- What follows a number sign. -/
  fragment : Option String
  deriving DecidableEq

namespace Url

/-- The URL as it is written. -/
def text (u : Url) : String :=
  u.scheme ++ ":" ++ (u.authority.elim "" ("//" ++ ·)) ++ u.target ++
    (u.fragment.elim "" ("#" ++ ·))

/-- Requests can be sent to the URL. -/
def isHttp (u : Url) : Bool := u.scheme = "http" || u.scheme = "https"

/-- The port that is usual for a scheme of the web. -/
def usualPort? : String → Option Nat
  | "http" => some 80
  | "https" => some 443
  | "ws" => some 80
  | "wss" => some 443
  | "ftp" => some 21
  | _ => none

/-- The text without controls and blanks at its ends, and without tabs and line ends. -/
def clean (s : List Char) : List Char :=
  let dropBlanks (s : List Char) : List Char := s.dropWhile (·.toNat ≤ 0x20)
  (dropBlanks (dropBlanks s).reverse).reverse.filter fun c => !(c = '\t' || c = '\n' || c = '\r')

/-- The scheme in small letters, and what follows the colon after it. -/
def scheme? (s : List Char) : Option (String × List Char) := do
  let (scheme, rest) ← Text.splitChar? ':' s
  let valid (c : Char) : Bool := c.isAlphanum || c = '+' || c = '-' || c = '.'
  if (scheme.head?.any Char.isAlpha) && scheme.all valid then
    some (String.ofList (scheme.map Char.toLower), rest)
  else none

/-- A slash; a backslash counts as one. -/
def isSlash (c : Char) : Bool := c = '/' || c = '\\'

/-- The segments of a path. -/
def segments (path : List Char) : List (List Char) :=
  Text.pieces '/' (path.map fun c => if c = '\\' then '/' else c)

/-- The segment stays where it is. -/
def isSingleDot (segment : List Char) : Bool :=
  [".", "%2e"].contains (String.ofList (segment.map Char.toLower))

/-- The segment goes up. -/
def isDoubleDot (segment : List Char) : Bool :=
  ["..", ".%2e", "%2e.", "%2e%2e"].contains (String.ofList (segment.map Char.toLower))

/-- Follows segments; `done` holds those that count so far, latest first. -/
def follow (done : List (List Char)) : List (List Char) → List (List Char)
  | [] => done.reverse
  | segment :: rest =>
    if isDoubleDot segment then
      if rest.isEmpty then ([] :: done.drop 1).reverse else follow (done.drop 1) rest
    else if isSingleDot segment then
      if rest.isEmpty then ([] :: done).reverse else follow done rest
    else follow (segment :: done) rest

/-- The path in its usual form. -/
def path (s : List Char) : List Char :=
  '/' :: ['/'].intercalate
    ((follow [] (segments (if s.head?.any isSlash then s.drop 1 else s))).map
      (Percent.encode " \"<>\x60#?\x7b\x7d"))

/-- The query in its usual form, with the question mark in front. -/
def query (s : List Char) : List Char := Percent.encode " \"#<>'" s

/-- The URL of a web scheme whose usual port is given, from what follows the colon. -/
def ofWeb? (scheme : String) (usualPort : Nat) (fragment : Option String) (s : List Char) :
    Option Url := do
  let s := s.dropWhile isSlash
  let endsAuthority (c : Char) : Bool := isSlash c || c = '?'
  let authority ← Authority.read? usualPort (s.takeWhile (!endsAuthority ·))
  let s := s.dropWhile (!endsAuthority ·)
  let target := path (s.takeWhile (· ≠ '?')) ++ query (s.dropWhile (· ≠ '?'))
  some ⟨scheme, some authority, String.ofList target, fragment⟩

/-- Reads a URL. -/
def read? (text : String) : Option Url := do
  let (scheme, rest) ← scheme? (clean text.toList)
  let (rest, fragment) := match Text.splitChar? '#' rest with
    | some (rest, fragment) =>
      (rest, some (String.ofList (Percent.encode " \"<>\x60" fragment)))
    | none => (rest, none)
  match usualPort? scheme with
  | some port => ofWeb? scheme port fragment rest
  | none => some ⟨scheme, none, String.ofList (Percent.encode "" rest), fragment⟩

end Url

end ReviewBot
