import ReviewBot.Host.Library
import ReviewBot.Http.Exchange
import ReviewBot.Json.Parser
import ReviewBot.Text.Blank

set_option autoImplicit false

/-!
# Comments and pages as the code host writes them

A page is a list of comments, and a header of the response tells where the next one is. A comment is
read only if all that is known of it and of its author has the form that it should have.
-/

namespace ReviewBot

/-- What a text has to be in order to stand under a key. -/
inductive TextForm where
  | any
  | url
  | moment
  deriving DecidableEq

namespace TextForm

/-- The number in a row of digits, if it lies between two bounds. -/
def number? (least greatest : Nat) (digits : List Char) : Option Nat :=
  (Numeric.digits? greatest digits).bind fun n => if least ≤ n then some n else none

/-- How many days the months of a year have. -/
def daysOfMonths (year : Nat) : List Nat :=
  let leap := year % 4 = 0 && (year % 100 ≠ 0 || year % 400 = 0)
  [31, if leap then 29 else 28, 31, 30, 31, 30, 31, 31, 30, 31, 30, 31]

/-- The text is the distance of a time zone. -/
def isZone : List Char → Bool
  | ['Z'] => true
  | [sign, a, b, ':', c, d] =>
    (sign = '+' || sign = '-') && (number? 0 23 [a, b]).isSome && (number? 0 59 [c, d]).isSome
  | _ => false

/-- The text is a time of day with its zone. -/
def isTime : List Char → Bool
  | a :: b :: ':' :: c :: d :: ':' :: e :: f :: rest =>
    let zone := match rest with
      | '.' :: rest => if rest.head?.any (·.isDigit) then rest.dropWhile (·.isDigit) else []
      | rest => rest
    (number? 0 23 [a, b]).isSome && (number? 0 59 [c, d]).isSome &&
      (number? 0 60 [e, f]).isSome && isZone zone
  | _ => false

/-- The text is a date with a time of day. -/
def isMoment : List Char → Bool
  | a :: b :: c :: d :: '-' :: e :: f :: '-' :: g :: h :: 'T' :: rest =>
    match number? 0 9999 [a, b, c, d], number? 1 12 [e, f] with
    | some year, some month =>
      (number? 1 ((daysOfMonths year)[month - 1]?.getD 0) [g, h]).isSome && isTime rest
    | _, _ => false
  | _ => false

/-- The text has the form. -/
def admits : TextForm → String → Bool
  | any, _ => true
  | url, text => (Url.read? text).isSome
  | moment, text => isMoment text.toList

end TextForm

namespace ListedComment

/-- The member under a key is a text of a form. -/
def hasText (v : Json) (form : TextForm) (key : String) : Bool :=
  ((v.get? key).bind Json.text?).any form.admits

/-- The member under a key is a text of a form, null or missing. -/
def mayHaveText (v : Json) (form : TextForm) (key : String) : Bool :=
  match v.get? key with
  | none => true
  | some .null => true
  | some (.text text) => form.admits text
  | some _ => false

/-- The author of a comment is known. -/
def isAuthor (v : Json) : Bool :=
  ((v.get? "id").bind Json.nat?).isSome &&
    (match v.get? "site_admin" with
      | some (.bool _) => true
      | _ => false) &&
    ["login", "node_id", "gravatar_id", "following_url", "gists_url", "starred_url", "events_url",
      "type"].all (hasText v .any) &&
    ["avatar_url", "url", "html_url", "followers_url", "subscriptions_url", "organizations_url",
      "repos_url", "received_events_url"].all (hasText v .url)

/-- All that is known of a comment beside its number and its text has its form. -/
def isComplete (v : Json) : Bool :=
  ["node_id", "author_association"].all (hasText v .any) &&
    ["url", "html_url"].all (hasText v .url) && hasText v .moment "created_at" &&
    ["body_text", "body_html"].all (mayHaveText v .any) && mayHaveText v .url "issue_url" &&
    mayHaveText v .moment "updated_at" && (v.get? "user").any isAuthor

/-- The text of a comment, which may be missing. -/
def body? (v : Json) : Option (Option String) :=
  match v.get? "body" with
  | none => some none
  | some .null => some none
  | some body => body.text?.map some

/-- Reads a comment. -/
def ofJson? (v : Json) : Option ListedComment := do
  let id ← (v.get? "id").bind Json.nat?
  let body ← body? v
  if isComplete v then some ⟨id, body⟩ else none

end ListedComment

namespace CommentPage

/-- The text without angle brackets around it. -/
def unbracketed (s : List Char) : List Char :=
  Text.dropEndWhile (· = '>') ((Text.trim s).dropWhile (· = '<'))

/-- The parameter says that the link leads to the next page. -/
def isNext (parameter : List Char) : Bool :=
  match Text.splitChar? '=' (Text.trim parameter) with
  | some (name, value) =>
    name = "rel".toList && Text.dropAroundWhile (· = '"') value = "next".toList
  | none => false

/-- The URL of a link that leads to the next page. -/
def nextOfLink? (link : List Char) : Option String :=
  match Text.pieces ';' link with
  | url :: parameters =>
    if parameters.any isNext then some (String.ofList (unbracketed url)) else none
  | [] => none

/-- The URL of the next page; of several the last one counts. -/
def next? (headers : Headers) : Option String :=
  (headers.text? "link").bind fun links =>
    ((Text.pieces ',' links.toList).filterMap nextOfLink?).getLast?

/-- Reads a page. -/
def ofResponse? (r : HttpResponse) : Option CommentPage := do
  let items ← (r.body.bind Json.ofBytes?).bind Json.items?
  some ⟨← items.mapM ListedComment.ofJson?, next? r.headers⟩

end CommentPage

end ReviewBot
