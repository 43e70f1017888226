import ReviewBot.PullRequest

set_option autoImplicit false

/-!
# Code hosts

A code host holds pull requests and the comments on them. Its operations run in a monad `m`, so that
a host can be a network client, a value in memory or a script of failures.
-/

namespace ReviewBot

/-- The operations of a code host. -/
structure Host (m : Type → Type) where
  /-- Fetches the diff of a pull request. -/
  fetchDiff : PullRequest → m (Except Error String)
  /-- Adds a comment to a pull request. -/
  postComment : PullRequest → String → m (Except Error Unit)
  /-- Deletes the comments on a pull request that contain a marker, and says how many. -/
  deleteMarked : PullRequest → String → m (Except Error Nat)

end ReviewBot
