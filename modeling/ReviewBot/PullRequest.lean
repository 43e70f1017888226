import ReviewBot.Error
import ReviewBot.Numeric.Unsigned
import ReviewBot.Text.Search

set_option autoImplicit false

/-!
# Pull requests

A pull request is named by its reference `owner/repo#number`. `Reference.read` reads one, dividing
at the first `#` and, before it, at the first `/`.
-/

namespace ReviewBot

/-- A pull request under review. -/
structure PullRequest where
  /-- Login of the owner of the repository. -/
  owner : String := ""
  /-- Name of the repository. -/
  repo : String := ""
  /-- Number of the pull request. -/
  number : Nat := 0
  /-- Title. -/
  title : String := ""
  /-- What the author wrote about it. -/
  description : Option String := none
  /-- Login of the author. -/
  authorLogin : String := ""
  /-- Branch that is to be changed. -/
  baseRef : String := ""
  /-- Branch with the change. -/
  headRef : String := ""
  /-- The last commit of the change. -/
  commitSha : String := ""
  /-- Installation of the app through which the pull request became known. -/
  installationId : Option Nat := none
  deriving DecidableEq, Inhabited

/-- The parts of the name of a pull request. -/
structure Reference where
  /-- Login of the owner of the repository. -/
  owner : String
  /-- Name of the repository. -/
  repo : String
  /-- Number of the pull request. -/
  number : Nat
  deriving DecidableEq

namespace Reference

/-- The reference as it is written. -/
def text (r : Reference) : String := r.owner ++ "/" ++ r.repo ++ "#" ++ toString r.number

/-- The text is not of the form of a reference. -/
def malformed (text : String) : Error :=
  .config ("invalid PR reference '" ++ text ++ "', expected owner/repo#number")

/-- The text after the `#` is not a number. -/
def badNumber (text : String) : Error := .config ("invalid PR number: " ++ text)

/-- Reads a reference. -/
def read (text : String) : Except Error Reference :=
  match Text.splitChar? '#' text.toList with
  | none => .error (malformed text)
  | some (place, number) =>
    match Text.splitChar? '/' place with
    | none => .error (malformed text)
    | some (owner, repo) =>
      if owner.isEmpty || repo.isEmpty then .error (malformed text)
      else
        match Numeric.unsigned? maxLong number with
        | none => .error (badNumber (String.ofList number))
        | some n => .ok ⟨String.ofList owner, String.ofList repo, n⟩

end Reference

namespace PullRequest

/-- The parts of the name of the pull request. -/
def reference (pr : PullRequest) : Reference := ⟨pr.owner, pr.repo, pr.number⟩

/-- The name of the pull request. -/
def name (pr : PullRequest) : String := pr.reference.text

end PullRequest

end ReviewBot
