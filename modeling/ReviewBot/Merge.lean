import ReviewBot.Finding

set_option autoImplicit false

/-!
# Merging findings

Of several findings with the same key the first of those with the greatest confidence is kept
(`distinct`). The kept ones are ranked by precedence, then severity, then confidence, each from
great to small; findings that are equal in all three stay in order (`mergeAndRank`).
-/

namespace ReviewBot

namespace Finding

/-- Adds a finding to a list without repeated keys: at the end, or, if its key is there already, in
the place of the old one when its confidence is greater. -/
def absorb (f : Finding) : List Finding → List Finding
  | [] => [f]
  | g :: rest =>
      if g.key = f.key then (if g.confidence.less f.confidence then f else g) :: rest
      else g :: absorb f rest

/-- One finding for each key, in order of the first occurrence of the keys. -/
def distinct (findings : List Finding) : List Finding :=
  findings.foldl (fun kept f => f.absorb kept) []

/-- `f` is presented before `g`, or neither before the other. -/
def ranksBefore (f g : Finding) : Bool :=
  -- Confidences are compared by rank, which orders all bit patterns, undefined numbers too.
  if f.precedence ≠ g.precedence then g.precedence < f.precedence
  else if f.severity.rank ≠ g.severity.rank then g.severity.rank < f.severity.rank
  else g.confidence.rank ≤ f.confidence.rank

/-- One finding for each key, in order of presentation. -/
def mergeAndRank (findings : List Finding) : List Finding :=
  (distinct findings).mergeSort ranksBefore

end Finding

end ReviewBot
