import ReviewBot.Http.Exchange
import ReviewBot.Http.Status
import ReviewBot.Text.Blank
import ReviewBot.Webhook.Server

set_option autoImplicit false

/-!
# Messages on the wire

A message is a first line, headers and, after an empty line, a body. How long the body is, a header
says; it may also come in chunks, each with its length in front, or go on up to the end.
-/

namespace ReviewBot

/-- A message on the wire. -/
structure WireMessage where
  /-- The first line. -/
  firstLine : String
  /-- The headers. -/
  headers : Headers
  /-- The body. -/
  body : Bytes

namespace WireMessage

/-- The end of a line. -/
def lineEnd : String := "\r\n"

/-- A header as it is sent. -/
def headerBytes (h : String × Bytes) : Bytes := Text.utf8 (h.1 ++ ": ") ++ h.2 ++ Text.utf8 lineEnd

/-- The message as it is sent; a header with the length of the body is added. -/
def bytes (w : WireMessage) : Bytes :=
  let length : String × Bytes := ("content-length", Text.utf8 (toString w.body.length))
  Text.utf8 (w.firstLine ++ lineEnd) ++ (w.headers ++ [length]).flatMap headerBytes ++
    Text.utf8 lineEnd ++ w.body

/-- The bytes before and after the first empty line. -/
def splitHead? : Bytes → Option (Bytes × Bytes)
  | 0x0D :: 0x0A :: 0x0D :: 0x0A :: rest => some ([], rest)
  | b :: rest => (splitHead? rest).map fun parts => (b :: parts.1, parts.2)
  | [] => none

/-- The bytes before and after the first end of a line. -/
def splitLine? : Bytes → Option (Bytes × Bytes)
  | 0x0D :: 0x0A :: rest => some ([], rest)
  | b :: rest => (splitLine? rest).map fun parts => (b :: parts.1, parts.2)
  | [] => none

/-- The lines of a head, at most `n + 1` of them. -/
def headLines : Nat → Bytes → List Bytes
  | 0, bytes => [bytes]
  | n + 1, bytes =>
    match splitLine? bytes with
    | some (line, rest) => line :: headLines n rest
    | none => [bytes]

/-- The bytes without blanks at their ends. -/
def trimmed (bytes : Bytes) : Bytes :=
  let isBlank (b : UInt8) : Bool := b = 0x20 || b = 0x09
  ((bytes.dropWhile isBlank).reverse.dropWhile isBlank).reverse

/-- Reads a header. -/
def header? (line : Bytes) : Option (String × Bytes) := do
  let name ← Text.ofUtf8? (line.takeWhile (· ≠ 0x3A))
  match line.dropWhile (· ≠ 0x3A) with
  | _ :: value => some (name, trimmed value)
  | [] => none

/-- The body in chunks, of which there are at most `n`. -/
def chunks? : Nat → Bytes → Option Bytes
  | 0, _ => none
  | n + 1, bytes => do
    let (line, rest) ← splitLine? bytes
    let size ← Text.ofUtf8? (line.takeWhile (· ≠ 0x3B))
    let digits := Text.trim size.toList
    if digits.isEmpty then none
    else do
      let length := (← digits.mapM Numeric.hexDigit?).foldl (16 * · + ·) 0
      if length = 0 then some []
      else if rest.length < length + 2 then none
      else do
        let later ← chunks? n (rest.drop (length + 2))
        some (rest.take length ++ later)

/-- The body in the bytes after a head, if it is complete; `toEnd` says that no more bytes will
come. A message that states no length has no body if it is a request, which is `bodyless`, and goes
on up to the end if it is a response. -/
def body? (headers : Headers) (toEnd bodyless : Bool) (rest : Bytes) : Option Bytes :=
  if (headers.text? "transfer-encoding").any (·.toLower = "chunked") then
    chunks? (rest.length + 1) rest
  else
    match (headers.text? "content-length").bind fun t => Numeric.digits? maxLong t.toList with
    | some length => if rest.length < length then none else some (rest.take length)
    | none => if bodyless then some [] else if toEnd then some rest else none

/-- What stands before the body of a message. -/
structure Head where
  /-- The words of the first line. -/
  words : List String
  /-- The headers. -/
  headers : Headers

/-- The head at the beginning of bytes, if it is complete, and the bytes after it. -/
def head? (bytes : Bytes) : Option (Head × Bytes) := do
  let (head, rest) ← splitHead? bytes
  match headLines head.length head with
  | first :: lines => do
    let first ← Text.ofUtf8? first
    some (⟨(Text.pieces ' ' first.toList).map String.ofList, lines.filterMap header?⟩, rest)
  | [] => none

end WireMessage

/-- The request as it is sent. -/
def HttpRequest.message (r : HttpRequest) : WireMessage :=
  let given (name : String) (value : Option String) : Headers :=
    value.toList.map fun v => (name, Text.utf8 v)
  { firstLine := r.method ++ " " ++ r.url.target ++ " HTTP/1.1"
    headers :=
      given "host" r.url.authority ++ given "accept" r.accept ++
        given "authorization" r.authorization ++ given "user-agent" r.userAgent ++
        given "content-type" r.contentType ++ given "connection" (some "close")
    body := r.body }

/-- The response in the bytes that have come back, of which there will be no more. -/
def HttpResponse.ofWire? (bytes : Bytes) : Option HttpResponse := do
  let (head, rest) ← WireMessage.head? bytes
  match head.words with
  | _ :: status :: _ =>
    some
      { status := ← Numeric.digits? 999 status.toList
        headers := head.headers
        body := WireMessage.body? head.headers true false rest }
  | _ => none

/-- The request in the bytes that have come so far, if it is complete. -/
def Request.ofWire? (bytes : Bytes) : Option Request := do
  let (head, rest) ← WireMessage.head? bytes
  let body ← WireMessage.body? head.headers false true rest
  match head.words with
  | method :: target :: _ => some ⟨method, target, ⟨head.headers, body⟩⟩
  | _ => none

/-- The reply as it is sent. -/
def Reply.message (r : Reply) : WireMessage where
  firstLine := "HTTP/1.1 " ++ Status.text r.status
  headers :=
    [("content-type", Text.utf8 "text/plain; charset=utf-8"), ("connection", Text.utf8 "close")]
  body := Text.utf8 r.text

end ReviewBot
