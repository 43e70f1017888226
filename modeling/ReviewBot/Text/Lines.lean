set_option autoImplicit false

/-!
# Lines of a text

A line ends at a line feed, and one carriage return directly before that line feed belongs to the
ending. What follows the last line feed is a line of its own unless it is empty; there a carriage
return is kept. `pieces` is the plain division at a separator, which keeps everything else.
-/

namespace ReviewBot.Text

/-- The line read so far, given backwards, without the carriage return of its ending. -/
def closeLine : List Char → List Char
  | '\r' :: rest => rest.reverse
  | current => current.reverse

/-- The lines of a text of which `current`, given backwards, has been read already. -/
def linesFrom (current : List Char) : List Char → List (List Char)
  | [] => if current.isEmpty then [] else [current.reverse]
  | c :: rest =>
      if c = '\n' then closeLine current :: linesFrom [] rest else linesFrom (c :: current) rest

/-- The lines of a text. -/
def lines (s : List Char) : List (List Char) := linesFrom [] s

/-- The pieces of a text between the occurrences of `sep`; there is one more than occurrences. -/
def pieces (sep : Char) : List Char → List (List Char)
  | [] => [[]]
  | c :: rest =>
      if c = sep then [] :: pieces sep rest
      else match pieces sep rest with
        | first :: others => (c :: first) :: others
        -- There is always a first piece, so this case does not arise.
        | [] => [[c]]

end ReviewBot.Text
