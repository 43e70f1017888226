set_option autoImplicit false

/-!
# Searching a text

`occursIn` decides whether a text stands somewhere in another one (`occursIn_iff`). `splitFirst?`
divides at the first occurrence of a text, `splitChar?` and `splitLastChar?` at the first and the
last occurrence of a character, and `afterLast?` gives what follows the last occurrence of a text.
-/

namespace ReviewBot.Text

/-- Whether `needle` stands somewhere in the text. -/
def occursIn (needle : List Char) : List Char → Bool
  | [] => needle.isEmpty
  | c :: rest => needle.isPrefixOf (c :: rest) || occursIn needle rest

theorem occursIn_iff {needle : List Char} {s : List Char} :
    occursIn needle s = true ↔ needle <:+: s := by
  induction s with
  | nil => simp [occursIn]
  | cons c rest ih => simp [occursIn, ih, List.infix_cons_iff]

/-- The parts before and after the first occurrence of `sep`. -/
def splitFirst? (sep : List Char) : List Char → Option (List Char × List Char)
  | [] => if sep.isEmpty then some ([], []) else none
  | c :: rest =>
      match sep.isPrefixOf? (c :: rest) with
      | some after => some ([], after)
      | none => (splitFirst? sep rest).map fun parts => (c :: parts.1, parts.2)

/-- The parts before and after the first `sep`. -/
def splitChar? (sep : Char) : List Char → Option (List Char × List Char)
  | [] => none
  | c :: rest =>
      if c = sep then some ([], rest)
      else (splitChar? sep rest).map fun parts => (c :: parts.1, parts.2)

/-- The parts before and after the last `sep`. -/
def splitLastChar? (sep : Char) : List Char → Option (List Char × List Char)
  | [] => none
  | c :: rest =>
      match splitLastChar? sep rest with
      | some parts => some (c :: parts.1, parts.2)
      | none => if c = sep then some ([], rest) else none

/-- What follows the last occurrence of `sep`. -/
def afterLast? (sep : List Char) : List Char → Option (List Char)
  | [] => if sep.isEmpty then some [] else none
  | c :: rest =>
      match afterLast? sep rest with
      | some after => some after
      | none => sep.isPrefixOf? (c :: rest)

end ReviewBot.Text

namespace String

/-- Whether `needle` stands somewhere in the text. -/
def hasPart (s needle : String) : Bool := ReviewBot.Text.occursIn needle.toList s.toList

end String
