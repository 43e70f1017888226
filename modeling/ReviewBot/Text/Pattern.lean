import ReviewBot.Text.LetterCase

set_option autoImplicit false

/-!
# Patterns

A pattern is a choice between sequences of pieces, and a piece is a class of characters with bounds
on how many of them stand in a row. `Spells` says which texts a sequence of pieces describes,
`Pattern.occursIn` decides whether a described text stands anywhere in a given one.
-/

namespace ReviewBot.Text

/-- A run of characters of one class. -/
structure Piece where
  /-- The class of characters. -/
  accepts : Char → Bool
  /-- The least number of characters. -/
  least : Nat
  /-- The greatest number of characters, if there is one. -/
  most : Option Nat

namespace Piece

/-- One character of a class. -/
def one (accepts : Char → Bool) : Piece := ⟨accepts, 1, some 1⟩

/-- At most one character of a class. -/
def optional (accepts : Char → Bool) : Piece := ⟨accepts, 0, some 1⟩

/-- Any number of characters of a class. -/
def many (accepts : Char → Bool) : Piece := ⟨accepts, 0, none⟩

/-- At least `n` characters of a class. -/
def atLeast (n : Nat) (accepts : Char → Bool) : Piece := ⟨accepts, n, none⟩

/-- Exactly `n` characters of a class. -/
def exactly (n : Nat) (accepts : Char → Bool) : Piece := ⟨accepts, n, some n⟩

/-- From `least` to `most` characters of a class. -/
def between (least most : Nat) (accepts : Char → Bool) : Piece := ⟨accepts, least, some most⟩

/-- The characters of a text one by one. -/
def literal (s : String) : List Piece := s.toList.map fun c => one (· == c)

/-- The characters of a text one by one, in small or capital letters. -/
def anyCase (s : String) : List Piece := s.toList.map fun c => one (foldChar · == foldChar c)

end Piece

/-- The text consists of a run for each of the pieces in order. -/
inductive Spells : List Piece → List Char → Prop where
  | nil : Spells [] []
  | cons (p : Piece) (rest : List Piece) (run after : List Char)
      (accepted : ∀ c ∈ run, p.accepts c = true)
      (enough : p.least ≤ run.length)
      (bounded : ∀ most, p.most = some most → run.length ≤ most)
      (spelled : Spells rest after) : Spells (p :: rest) (run ++ after)

/-- A run of `least` to `most` accepted characters stands at the beginning of the text, and `next`
holds of what follows it. -/
def startsWithRun (accepts : Char → Bool) (next : List Char → Bool) :
    List Char → Nat → Option Nat → Bool
  | [], least, _ => least == 0 && next []
  | c :: rest, least, most =>
      -- Either the run ends here, or it takes one more character.
      (least == 0 && next (c :: rest)) ||
        (most != some 0 && accepts c &&
          startsWithRun accepts next rest (least - 1) (most.map (· - 1)))

/-- A text that the pieces spell stands at the beginning. -/
def startsWithPieces : List Piece → List Char → Bool
  | [], _ => true
  | p :: rest, s => startsWithRun p.accepts (startsWithPieces rest) s p.least p.most

/-- A choice between sequences of pieces. -/
structure Pattern where
  /-- The sequences to choose from. -/
  choices : List (List Piece)

namespace Pattern

/-- The texts that the pattern describes. -/
def Describes (p : Pattern) (s : List Char) : Prop := ∃ pieces ∈ p.choices, Spells pieces s

/-- A described text stands at the beginning. -/
def startsText (p : Pattern) (s : List Char) : Bool := p.choices.any (startsWithPieces · s)

/-- A described text stands somewhere. -/
def occursIn (p : Pattern) : List Char → Bool
  | [] => p.startsText []
  | c :: rest => p.startsText (c :: rest) || p.occursIn rest

end Pattern

end ReviewBot.Text
