import ReviewBot.Crypto.Base64
import ReviewBot.Text.Blank
import ReviewBot.Text.Lines
import ReviewBot.Text.Search

set_option autoImplicit false

/-!
# Labelled blocks of base 64

A block stands between a line that begins and one that ends it, both with the same label. Lines of
the form `name: value` may come first, with an empty line behind them. Whatever stands before the
first block or after it is passed over.
-/

namespace ReviewBot

/-- A labelled block. -/
structure Pem where
  /-- The label. -/
  label : String
  /-- What the block holds. -/
  content : Bytes

namespace Pem

/-- The bytes before and after a mark, of which the bytes in `found`, given backwards, have just
been met and those in `rest` are still to come. The search never goes back: where it fails in the
middle of the mark, it goes on behind the byte that does not fit. -/
def splitAtMarkFrom? (mark before found rest : Bytes) : Bytes → Option (Bytes × Bytes)
  | [] => none
  | b :: bytes =>
    match rest with
    | [] => none
    | r :: more =>
      if b ≠ r then splitAtMarkFrom? mark (b :: found ++ before) [] mark bytes
      else if more.isEmpty then some (before.reverse, bytes)
      else splitAtMarkFrom? mark before (b :: found) more bytes

/-- The bytes before and after the first place where a mark is found. -/
def splitAtMark? (mark : String) (bytes : Bytes) : Option (Bytes × Bytes) :=
  splitAtMarkFrom? (Text.utf8 mark) [] [] (Text.utf8 mark) bytes

/-- The bytes without spaces, tabs and line ends at the beginning. -/
def skipBlanks (bytes : Bytes) : Bytes :=
  bytes.dropWhile fun b => b = 0x20 || b = 0x09 || b = 0x0A || b = 0x0D

/-- The lines of headers and the data of a block. -/
def splitHeaders (body : Bytes) : Bytes × Bytes :=
  match splitAtMark? "\n\n" body with
  | some parts => parts
  | none => (splitAtMark? "\r\n\r\n" body).getD ([], body)

/-- The lines in bytes without the blanks at their ends. -/
def lines? (bytes : Bytes) : Option (List (List Char)) :=
  (Text.ofUtf8? bytes).map fun text => (Text.lines text.toList).map Text.trimEnd

/-- The first block in a file. -/
def ofBytes? (file : Bytes) : Option Pem := do
  let (_, rest) ← splitAtMark? "-----BEGIN " file
  let (label, rest) ← splitAtMark? "-----" rest
  let (body, rest) ← splitAtMark? "-----END " (skipBlanks rest)
  let (endLabel, _) ← splitAtMark? "-----" rest
  let label ← Text.ofUtf8? label
  let (headers, data) := splitHeaders body
  if label = "" || Text.ofUtf8? endLabel ≠ some label then none
  else do
    let content ← Base64.bytes? (← lines? data).flatten
    if (← lines? headers).all (·.contains ':') then some ⟨label, content⟩ else none

end Pem

end ReviewBot
