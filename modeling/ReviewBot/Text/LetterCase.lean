import ReviewBot.Text.CaseTable

set_option autoImplicit false

/-!
# Small and capital letters

The full case mappings of Unicode, which may lengthen a text, and the folding that pattern matching
without regard to case uses. A capital sigma at the end of a word becomes a final sigma.
-/

namespace ReviewBot.Text

/-- The image of a code point under the first run that covers it. -/
def imageUnder (runs : List CaseRun) (n : Nat) : Option Nat := runs.findSome? (·.image? n)

/-- The small form of a character, its surroundings left out of account. -/
def lowerChar (c : Char) : List Char :=
  -- The capital I with a dot keeps its dot as a mark of its own.
  if c.toNat = 0x130 then ['i', Char.ofNat 0x307]
  else match imageUnder lowerRuns c.toNat with
    | some n => [Char.ofNat n]
    | none => [c]

/-- The capital form of a character. -/
def upperChar (c : Char) : List Char :=
  match upperExpansions.lookup c.toNat with
  | some ns => ns.map Char.ofNat
  | none =>
    match imageUnder upperRuns c.toNat with
    | some n => [Char.ofNat n]
    | none => [c]

/-- Passing over case-ignorable characters, the first one left has case. -/
def startsCased (s : List Char) : Bool :=
  match s.dropWhile (·.inRanges caseIgnorableRanges) with
  | c :: _ => c.inRanges casedRanges
  | [] => false

/-- Small letters for a text of which `before`, given backwards, has been read already. -/
def lowerFrom (before : List Char) : List Char → List Char
  | [] => []
  | c :: rest =>
      -- A capital sigma is final if a cased letter stands before it and none after it.
      (if c.toNat = 0x3A3 && startsCased before && !startsCased rest then [Char.ofNat 0x3C2]
       else lowerChar c) ++ lowerFrom (c :: before) rest

/-- The text in small letters. -/
def lower (s : List Char) : List Char := lowerFrom [] s

/-- The text in capital letters. -/
def upper (s : List Char) : List Char := s.flatMap upperChar

/-- The ASCII letter that `c` stands for when case is ignored; any other character stands for
itself. Besides the ASCII capitals these are the Kelvin sign and the long s. -/
def foldChar (c : Char) : Char :=
  if c.toNat = 0x212A then 'k' else if c.toNat = 0x17F then 's' else c.toLower

end ReviewBot.Text

namespace String

/-- The text in capital letters. -/
def toCapital (s : String) : String := ofList (ReviewBot.Text.upper s.toList)

end String
