import ReviewBot.Toml.Text

set_option autoImplicit false

/-!
# Numbers, dates and truth values of TOML

Integers are decimal, hexadecimal, octal or binary and fit into 64 bits with a sign. Dates and times
are checked for validity and kept without their value.
-/

namespace ReviewBot.Toml

/-- A row of digits in which single underscores may stand between digits. -/
def digitsOf (isDigit : Char → Bool) : List Char → List Char × List Char
  | [] => ([], [])
  | [c] => if isDigit c then ([c], []) else ([], [c])
  | '_' :: c :: rest =>
    if isDigit c then
      let (ds, after) := digitsOf isDigit rest
      (c :: ds, after)
    else ([], '_' :: c :: rest)
  | c :: rest =>
    if isDigit c then
      let (ds, after) := digitsOf isDigit rest
      (c :: ds, after)
    else ([], c :: rest)

/-- Digits with underscores, of which there is at least one digit, at the beginning. -/
def row? (isDigit : Char → Bool) : List Char → Option (List Char × List Char)
  | c :: rest => if isDigit c then some (digitsOf isDigit (c :: rest)) else none
  | [] => none

/-- An optional sign: whether it is a minus, and the text after it. -/
def sign : List Char → Bool × List Char
  | '+' :: rest => (false, rest)
  | '-' :: rest => (true, rest)
  | s => (false, s)

/-- Decimal digits without needless zeros in front. -/
def whole? : List Char → Option (List Char × List Char)
  | '0' :: rest => some (['0'], rest)
  | s => row? (·.isDigit) s

/-- The value of digits in a base up to sixteen. -/
def valueIn (base : Nat) (ds : List Char) : Nat :=
  ds.foldl (fun n d => base * n + (Numeric.hexDigit? d).getD 0) 0

/-- An integer that fits into 64 bits. -/
def fit? (i : Int) : Option Document :=
  if leastSigned ≤ i && i ≤ greatestSigned then some (.number (.ofInt i)) else none

/-- The digits of a base after their mark. -/
def based? (base : Nat) (isDigit : Char → Bool) (s : List Char) :
    Option (Document × List Char) := do
  let (ds, rest) ← row? isDigit s
  (fit? (valueIn base ds)).map (·, rest)

/-- An integer. -/
def integer? : List Char → Option (Document × List Char)
  | '0' :: 'x' :: rest => based? 16 (fun c => (Numeric.hexDigit? c).isSome) rest
  | '0' :: 'o' :: rest => based? 8 (fun c => '0' ≤ c && c ≤ '7') rest
  | '0' :: 'b' :: rest => based? 2 (fun c => c = '0' || c = '1') rest
  | s => do
    let (minus, rest) := sign s
    let (ds, rest) ← whole? rest
    let n : Int := valueIn 10 ds
    (fit? (if minus then -n else n)).map (·, rest)

/-- The exponent of a number. -/
def exponent? : List Char → Option ((Bool × List Char) × List Char)
  | e :: rest =>
    if e = 'e' || e = 'E' then do
      let (minus, rest) := sign rest
      let (ds, rest) ← row? (·.isDigit) rest
      some ((minus, ds), rest)
    else none
  | [] => none

/-- A number with a fraction or an exponent. It must not be too large for a double. -/
def decimal? (s : List Char) : Option (Document × List Char) := do
  let (minus, rest) := sign s
  let (ds, rest) ← whole? rest
  let (n, rest) ←
    match rest with
    | '.' :: rest => do
      let (fraction, rest) ← row? (·.isDigit) rest
      match exponent? rest with
      | some (e, rest) => some (Numeral.mk minus ds (some fraction) (some e), rest)
      | none => some (Numeral.mk minus ds (some fraction) none, rest)
    | rest => do
      let (e, rest) ← exponent? rest
      some (Numeral.mk minus ds none (some e), rest)
  if n.negative || n.binary64?.isSome then some (.fractional, rest) else none

/-- The numbers that have a name. -/
def special? (s : List Char) : Option (Document × List Char) :=
  match (sign s).2 with
  | 'i' :: 'n' :: 'f' :: rest => some (.fractional, rest)
  | 'n' :: 'a' :: 'n' :: rest => some (.fractional, rest)
  | _ => none

/-- A number of two digits that lies between two bounds. -/
def twoDigits? (low high : Nat) : List Char → Option (Nat × List Char)
  | a :: b :: rest =>
    let n := 10 * Numeric.digitValue a + Numeric.digitValue b
    if a.isDigit && b.isDigit && low ≤ n && n ≤ high then some (n, rest) else none
  | _ => none

/-- Passes over one given character. -/
def skip? (c : Char) : List Char → Option (List Char)
  | d :: rest => if d = c then some rest else none
  | [] => none

/-- The year divides by four, and not by one hundred unless by four hundred. -/
def isLeap (year : Nat) : Bool := year % 4 = 0 && (year % 100 != 0 || year % 400 = 0)

/-- How many days a month has. -/
def daysIn (year month : Nat) : Nat :=
  if month = 2 then (if isLeap year then 29 else 28)
  else if month = 4 || month = 6 || month = 9 || month = 11 then 30 else 31

/-- Passes over a date. -/
def skipDate? (s : List Char) : Option (List Char) := do
  let (century, s) ← twoDigits? 0 99 s
  let (year, s) ← twoDigits? 0 99 s
  let s ← skip? '-' s
  let (month, s) ← twoDigits? 1 12 s
  let s ← skip? '-' s
  let (_, s) ← twoDigits? 1 (daysIn (100 * century + year) month) s
  some s

/-- Passes over a time of day. -/
def skipTime? (s : List Char) : Option (List Char) := do
  let (_, s) ← twoDigits? 0 23 s
  let s ← skip? ':' s
  let (_, s) ← twoDigits? 0 59 s
  let s ← skip? ':' s
  let (_, s) ← twoDigits? 0 60 s
  match s with
  | '.' :: c :: rest => some (if c.isDigit then rest.dropWhile (·.isDigit) else s)
  | s => some s

/-- Passes over the distance from universal time, if there is one. -/
def skipOffset (s : List Char) : List Char :=
  match s with
  | c :: rest =>
    if c = 'Z' || c = 'z' then rest
    else if c = '+' || c = '-' then
      ((twoDigits? 0 23 rest).bind fun (_, s) =>
        (skip? ':' s).bind fun s => (twoDigits? 0 59 s).map (·.2)).getD s
    else s
  | [] => s

/-- A date, a time of day, or both. -/
def moment? (s : List Char) : Option (Document × List Char) :=
  match skipDate? s with
  | some afterDate =>
    match afterDate with
    | c :: rest =>
      if c = 'T' || c = 't' || c = ' ' then
        match skipTime? rest with
        | some afterTime => some (.moment, skipOffset afterTime)
        | none => some (.moment, afterDate)
      else some (.moment, afterDate)
    | [] => some (.moment, afterDate)
  | none => (skipTime? s).map (.moment, ·)

/-- A scalar that is not a string. -/
def scalarValue? : List Char → Option (Document × List Char)
  | 't' :: 'r' :: 'u' :: 'e' :: rest => some (.bool true, rest)
  | 'f' :: 'a' :: 'l' :: 's' :: 'e' :: rest => some (.bool false, rest)
  | s => moment? s <|> decimal? s <|> special? s <|> integer? s

end ReviewBot.Toml
