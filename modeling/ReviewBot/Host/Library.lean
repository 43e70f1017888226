import ReviewBot.Text.Search

set_option autoImplicit false

/-!
# A library for comments

The comments on pull requests are listed, posted and deleted through a library for the interface of
the code host. It works in a monad `m`, and nothing is laid down about what it does there.
-/

namespace ReviewBot

/-- What the library is set up with. -/
structure CommentSession where
  /-- Root of the interface. -/
  root : String
  /-- The token to be shown. -/
  token : String
  deriving DecidableEq

/-- Why the library cannot be set up. -/
inductive SetupFault where
  /-- There can be no interface at the root. -/
  | root (reason : String)
  | other (reason : String)
  deriving DecidableEq

/-- A comment as the library lists it. -/
structure ListedComment where
  /-- Number of the comment. -/
  id : Nat
  /-- The text. -/
  body : Option String
  deriving DecidableEq

/-- The text contains a marker. -/
def ListedComment.isMarked (marker : String) (c : ListedComment) : Bool :=
  c.body.any (·.hasPart marker)

/-- A page of comments. -/
structure CommentPage where
  /-- The comments on the page. -/
  comments : List ListedComment
  /-- Where the next page is, if there is one. -/
  next : Option String
  deriving DecidableEq

/-- The operations of the library on comments; each may fail with a reason. -/
structure CommentLibrary (m : Type → Type) where
  /-- Sets the library up. -/
  setUp : CommentSession → Except SetupFault Unit
  /-- Posts a comment on the pull request with the given owner, repository and number. -/
  post : CommentSession → (owner repo : String) → (number : Nat) → (body : String) →
    m (Except String Unit)
  /-- The first page of the comments on a pull request, with so many comments on each page. -/
  firstPage : CommentSession → (owner repo : String) → (number perPage : Nat) →
    m (Except String CommentPage)
  /-- The comments on a page and on all pages after it. -/
  allPages : CommentSession → CommentPage → m (Except String (List ListedComment))
  /-- Deletes a comment in a repository. -/
  delete : CommentSession → (owner repo : String) → (id : Nat) → m (Except String Unit)

end ReviewBot
