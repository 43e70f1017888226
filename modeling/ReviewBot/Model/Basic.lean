import ReviewBot.Model.Prompt
import ReviewBot.Model.Remark

set_option autoImplicit false

/-!
# Language models

A model answers a prompt with a text or an error. A review asks it about every chunk; an error means
that there is nothing to say about that chunk. The model answers in a monad `m`, which is `Id` for
one that depends on the prompt alone.
-/

namespace ReviewBot

/-- A language model. -/
structure Model (m : Type → Type) where
  /-- The name that reviews give. -/
  name : String
  /-- The answer to a prompt. -/
  reply : String → m (Except Error String)

namespace Model

/-- The findings in an answer about a chunk. -/
def findingsOf (chunk : Chunk) : Except Error String → List Finding
  | .ok reply => remarks chunk reply
  | .error _ => []

/-- The findings of a model on all chunks, chunk by chunk. -/
def review {m : Type → Type} [Monad m] (model : Model m) (pr : PullRequest) :
    List Chunk → m (List Finding)
  | [] => pure []
  | chunk :: rest => do
    let answer ← model.reply (prompt pr chunk)
    let later ← model.review pr rest
    pure (findingsOf chunk answer ++ later)

end Model

end ReviewBot
