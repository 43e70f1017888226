import ReviewBot.Document.Basic
import ReviewBot.Numeric.Hex

set_option autoImplicit false

/-!
# Blanks, strings and keys of TOML

Each reader takes a text and gives what it has read with the text after it. A line feed, with or
without a carriage return before it, ends a line. Basic strings know escapes, literal strings do
not; either may stand in three quotes and then go over several lines.
-/

namespace ReviewBot.Toml

/-- A blank within a line. -/
def isSpace (c : Char) : Bool := c = ' ' || c = '\t'

/-- Passes over blanks within a line. -/
def skipSpaces (s : List Char) : List Char := s.dropWhile isSpace

/-- A character that may stand in a comment or a string: no control except the tab. -/
def isPlain (c : Char) : Bool := c = '\t' || (0x20 ≤ c.toNat && c.toNat != 0x7F)

/-- What follows the end of a line. -/
def lineEnd? : List Char → Option (List Char)
  | '\n' :: rest => some rest
  | '\r' :: '\n' :: rest => some rest
  | _ => none

/-- Passes over a comment. -/
def skipComment : List Char → List Char
  | '#' :: rest => rest.dropWhile isPlain
  | s => s

/-- Passes over blanks and a comment; then the line or the text must end. -/
def closeLine? (s : List Char) : Option (List Char) :=
  match skipComment (skipSpaces s) with
  | [] => some []
  | s => lineEnd? s

/-- Passes over at most `n` blanks, line ends and comments. -/
def skipLinesUpTo : Nat → List Char → List Char
  | 0, s => s
  | n + 1, s =>
    match skipComment (skipSpaces s) with
    | '\n' :: rest => skipLinesUpTo n rest
    | '\r' :: '\n' :: rest => skipLinesUpTo n rest
    | s => s

/-- Passes over blanks, line ends and comments. -/
def skipLines (s : List Char) : List Char := skipLinesUpTo (s.length + 1) s

/-- The value of a row of hexadecimal digits. -/
def hex? (ds : List Char) : Option Nat :=
  ds.foldlM (fun n d => (Numeric.hexDigit? d).map (16 * n + ·)) 0

/-- The character with a code point, which must not be a surrogate. -/
def scalar? (n : Nat) : Option Char := if n.isValidChar then some (Char.ofNat n) else none

/-- The character that an escape stands for; the text begins after the backslash. -/
def escape? : List Char → Option (Char × List Char)
  | 'b' :: rest => some ('\x08', rest)
  | 't' :: rest => some ('\t', rest)
  | 'n' :: rest => some ('\n', rest)
  | 'f' :: rest => some ('\x0c', rest)
  | 'r' :: rest => some ('\r', rest)
  | '"' :: rest => some ('"', rest)
  | '\\' :: rest => some ('\\', rest)
  | 'u' :: a :: b :: c :: d :: rest =>
    ((hex? [a, b, c, d]).bind scalar?).map (·, rest)
  | 'U' :: a :: b :: c :: d :: e :: f :: g :: h :: rest =>
    ((hex? [a, b, c, d, e, f, g, h]).bind scalar?).map (·, rest)
  | _ => none

/-- The rest of a basic string of one line; `read` is given backwards. -/
def basicLine? : Nat → List Char → List Char → Option (String × List Char)
  | 0, _, _ => none
  | n + 1, read, s =>
    match s with
    | [] => none
    | '"' :: rest => some (String.ofList read.reverse, rest)
    | '\\' :: rest => (escape? rest).bind fun (c, rest) => basicLine? n (c :: read) rest
    | c :: rest => if isPlain c then basicLine? n (c :: read) rest else none

/-- The rest of a literal string of one line. -/
def literalLine? (s : List Char) : Option (String × List Char) :=
  match s.dropWhile (fun c => isPlain c && c != '\'') with
  | '\'' :: rest => some (String.ofList (s.takeWhile fun c => isPlain c && c != '\''), rest)
  | _ => none

/-- The end of a string in three quotes, of which the first three have been read; at most two more
quotes belong to the string. -/
def closingQuotes (quote : Char) (read : List Char) (s : List Char) : String × List Char :=
  let more := (s.take 2).takeWhile (· == quote)
  (String.ofList (more ++ read).reverse, s.drop more.length)

/-- Passes over blanks and line ends. -/
def skipBlanks : List Char → List Char
  | ' ' :: rest => skipBlanks rest
  | '\t' :: rest => skipBlanks rest
  | '\n' :: rest => skipBlanks rest
  | '\r' :: '\n' :: rest => skipBlanks rest
  | s => s

/-- After a backslash at the end of a line: blanks and line ends up to the next character. There
must be a line end before it. -/
def joinLines? (s : List Char) : Option (List Char) :=
  (lineEnd? (skipSpaces s)).map skipBlanks

/-- The rest of a basic string of several lines; `read` is given backwards. -/
def basicLines? : Nat → List Char → List Char → Option (String × List Char)
  | 0, _, _ => none
  | n + 1, read, s =>
    match s with
    | [] => none
    | '"' :: '"' :: '"' :: rest => some (closingQuotes '"' read rest)
    | '\\' :: rest =>
      match joinLines? rest with
      | some rest => basicLines? n read rest
      | none => (escape? rest).bind fun (c, rest) => basicLines? n (c :: read) rest
    | '\r' :: '\n' :: rest => basicLines? n ('\n' :: read) rest
    | c :: rest =>
      if isPlain c || c = '\n' then basicLines? n (c :: read) rest else none

/-- The rest of a literal string of several lines; `read` is given backwards. -/
def literalLines? (read : List Char) : List Char → Option (String × List Char)
  | [] => none
  | '\'' :: '\'' :: '\'' :: rest => some (closingQuotes '\'' read rest)
  | '\r' :: '\n' :: rest => literalLines? ('\n' :: read) rest
  | c :: rest => if isPlain c || c = '\n' then literalLines? (c :: read) rest else none

/-- The text without a line end at its beginning. -/
def dropLineEnd (s : List Char) : List Char := (lineEnd? s).getD s

/-- A string of any kind. -/
def string? : List Char → Option (String × List Char)
  | '"' :: '"' :: '"' :: rest => basicLines? (rest.length + 1) [] (dropLineEnd rest)
  | '"' :: rest => basicLine? (rest.length + 1) [] rest
  | '\'' :: '\'' :: '\'' :: rest => literalLines? [] (dropLineEnd rest)
  | '\'' :: rest => literalLine? rest
  | _ => none

/-- A character of a key without quotes. -/
def isBareKey (c : Char) : Bool := c.isAlphanum || c = '-' || c = '_'

/-- One part of a key. -/
def keyPart? : List Char → Option (String × List Char)
  | '"' :: rest => basicLine? (rest.length + 1) [] rest
  | '\'' :: rest => literalLine? rest
  | s =>
    let part := s.takeWhile isBareKey
    if part.isEmpty then none else some (String.ofList part, s.dropWhile isBareKey)

/-- The parts of a key after the first, at most `n` of them. -/
def keyParts? : Nat → List Char → Option (List String × List Char)
  | 0, _ => none
  | n + 1, s =>
    match skipSpaces s with
    | '.' :: rest => do
      let (part, rest) ← keyPart? (skipSpaces rest)
      let (parts, rest) ← keyParts? n rest
      some (part :: parts, rest)
    | s => some ([], s)

/-- A key: its first part and the others. -/
def key? (s : List Char) : Option ((String × List String) × List Char) := do
  let (part, rest) ← keyPart? (skipSpaces s)
  let (parts, rest) ← keyParts? (rest.length + 1) rest
  if parts.length + 1 < 80 then some ((part, parts), rest) else none

end ReviewBot.Toml
