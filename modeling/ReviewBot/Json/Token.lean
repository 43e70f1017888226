import ReviewBot.Document.Basic
import ReviewBot.Numeric.Hex

set_option autoImplicit false

/-!
# Tokens of JSON

`tokens?` divides a text into brackets, separators, literals, numbers and strings. Escapes are
resolved here; the two escapes of a surrogate pair make one character.
-/

namespace ReviewBot.Json

/-- A token of a JSON text. -/
inductive Token where
  | openList
  | closeList
  | openObject
  | closeObject
  | comma
  | colon
  /-- A literal, a number or a string. -/
  | scalar (d : Document)

/-- The blanks that may stand between tokens. -/
def isSpace (c : Char) : Bool := c = ' ' || c = '\n' || c = '\t' || c = '\r'

/-- A character of a string as written: a character, or a sixteen-bit unit given by an escape. -/
inductive Unit16 where
  | char (c : Char)
  | unit (n : Nat)

/-- The units of a string literal up to its closing quote, and the text after it. -/
def stringUnits? : List Char → Option (List Unit16 × List Char)
  | [] => none
  | '"' :: rest => some ([], rest)
  | '\\' :: 'u' :: a :: b :: c :: d :: rest => do
    let digits ← [a, b, c, d].mapM Numeric.hexDigit?
    let n := digits.foldl (16 * · + ·) 0
    let (units, after) ← stringUnits? rest
    some (.unit n :: units, after)
  | '\\' :: e :: rest => do
    let c ←
      match e with
      | '"' => some '"'
      | '\\' => some '\\'
      | '/' => some '/'
      | 'b' => some '\x08'
      | 'f' => some '\x0c'
      | 'n' => some '\n'
      | 'r' => some '\r'
      | 't' => some '\t'
      | _ => none
    let (units, after) ← stringUnits? rest
    some (.char c :: units, after)
  | c :: rest =>
    if c.toNat < 0x20 then none
    else do
      let (units, after) ← stringUnits? rest
      some (.char c :: units, after)

/-- The characters that a sequence of units stands for, unless a surrogate is left alone. -/
def charsOf? : List Unit16 → Option (List Char)
  | [] => some []
  | .char c :: rest => (charsOf? rest).map (c :: ·)
  | .unit n :: rest =>
    if n < 0xD800 || 0xE000 ≤ n then (charsOf? rest).map (Char.ofNat n :: ·)
    else if 0xDC00 ≤ n then none
    else
      match rest with
      | .unit k :: after =>
        if 0xDC00 ≤ k && k < 0xE000 then
          (charsOf? after).map (Char.ofNat (0x10000 + (n - 0xD800) * 0x400 + (k - 0xDC00)) :: ·)
        else none
      | _ => none

/-- The digits at the beginning, of which there is at least one, and the text after them. -/
def digits? (s : List Char) : Option (List Char × List Char) :=
  let ds := s.takeWhile (·.isDigit)
  if ds.isEmpty then none else some (ds, s.dropWhile (·.isDigit))

/-- The digits before the point: a single zero, or digits that do not begin with one. -/
def whole? : List Char → Option (List Char × List Char)
  | '0' :: rest => some (['0'], rest)
  | s => digits? s

/-- The point and the digits after it, if there is a point. -/
def fraction? : List Char → Option (Option (List Char) × List Char)
  | '.' :: rest => (digits? rest).map fun (ds, after) => (some ds, after)
  | s => some (none, s)

/-- The digits of an exponent with its sign. -/
def signedDigits? : List Char → Option (Option (Bool × List Char) × List Char)
  | '-' :: rest => (digits? rest).map fun (ds, after) => (some (true, ds), after)
  | '+' :: rest => (digits? rest).map fun (ds, after) => (some (false, ds), after)
  | s => (digits? s).map fun (ds, after) => (some (false, ds), after)

/-- The exponent, if there is one. -/
def exponent? : List Char → Option (Option (Bool × List Char) × List Char)
  | 'e' :: rest => signedDigits? rest
  | 'E' :: rest => signedDigits? rest
  | s => some (none, s)

/-- The number at the beginning of a text. -/
def numeral? (s : List Char) : Option (Numeral × List Char) := do
  let negative := s.head? = some '-'
  let (whole, s) ← whole? (if negative then s.drop 1 else s)
  let (fraction, s) ← fraction? s
  let (exponent, s) ← exponent? s
  some (⟨negative, whole, fraction, exponent⟩, s)

/-- The token at the beginning of a text that does not begin with a blank. -/
def token? : List Char → Option (Token × List Char)
  | '[' :: rest => some (.openList, rest)
  | ']' :: rest => some (.closeList, rest)
  | '\x7b' :: rest => some (.openObject, rest)
  | '\x7d' :: rest => some (.closeObject, rest)
  | ',' :: rest => some (.comma, rest)
  | ':' :: rest => some (.colon, rest)
  | '"' :: rest =>
    (stringUnits? rest).map fun (units, after) =>
      (.scalar (.text ((charsOf? units).map String.ofList)), after)
  | 'n' :: 'u' :: 'l' :: 'l' :: rest => some (.scalar .null, rest)
  | 't' :: 'r' :: 'u' :: 'e' :: rest => some (.scalar (.bool true), rest)
  | 'f' :: 'a' :: 'l' :: 's' :: 'e' :: rest => some (.scalar (.bool false), rest)
  | s => (numeral? s).map fun (n, after) => (.scalar (.number n), after)

/-- The tokens of a text, at most `n` of them. -/
def tokensUpTo : Nat → List Char → Option (List Token)
  | 0, _ => none
  | n + 1, s =>
    match s.dropWhile isSpace with
    | [] => some []
    | s => do
      let (t, rest) ← token? s
      let ts ← tokensUpTo n rest
      some (t :: ts)

/-- The tokens of a text; every token takes at least one character. -/
def tokens? (s : List Char) : Option (List Token) := tokensUpTo (s.length + 1) s

end ReviewBot.Json
