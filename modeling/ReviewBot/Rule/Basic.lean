import ReviewBot.Chunk
import ReviewBot.Error
import ReviewBot.Finding

set_option autoImplicit false

/-!
# Rules

A rule looks at one chunk and either finds something, fails or breaks down. A rule set runs its
rules on a chunk in order of priority, and one rule that fails or breaks down takes nothing from the
others.
-/

namespace ReviewBot

/-- What comes of looking at a chunk. -/
inductive RuleOutcome where
  /-- The findings, of which there may be none. -/
  | found (findings : List Finding)
  /-- The rule gave up with an error. -/
  | failed (error : Error)
  /-- The rule broke down. -/
  | crashed

/-- The findings of an outcome; a failure has none. -/
def RuleOutcome.findings : RuleOutcome → List Finding
  | found findings => findings
  | failed _ => []
  | crashed => []

/-- A check of one chunk. -/
structure Rule where
  /-- The name in messages. -/
  name : String
  /-- Rules of greater priority are run earlier. -/
  priority : Nat
  /-- Looks at a chunk. -/
  inspect : Chunk → RuleOutcome

/-- Rules in the order in which they are run. -/
structure RuleSet where
  /-- The rules, the greatest priority first. -/
  rules : List Rule

namespace RuleSet

/-- The rules by falling priority; rules of equal priority stay in order. -/
def ofList (rules : List Rule) : RuleSet :=
  ⟨rules.mergeSort fun a b => b.priority ≤ a.priority⟩

/-- The names of the rules. -/
def names (s : RuleSet) : List String := s.rules.map (·.name)

/-- The findings of all rules on one chunk. -/
def inspect (s : RuleSet) (chunk : Chunk) : List Finding :=
  s.rules.flatMap fun rule => (rule.inspect chunk).findings

/-- The findings of all rules on all chunks, chunk by chunk. -/
def review (s : RuleSet) (chunks : List Chunk) : List Finding := chunks.flatMap s.inspect

end RuleSet

end ReviewBot
