import ReviewBot.Text.LetterCase

set_option autoImplicit false

/-!
# Severity

How serious a finding is, from critical down to informational. Severities are compared by `rank`.
-/

namespace ReviewBot

/-- How serious a finding is. -/
inductive Severity where
  | critical
  | high
  | medium
  | low
  | info
  deriving DecidableEq, Inhabited

namespace Severity

/-- A greater rank is more serious. -/
def rank : Severity → Nat
  | critical => 4
  | high => 3
  | medium => 2
  | low => 1
  | info => 0

/-- The name in reviews and messages. -/
def label : Severity → String
  | critical => "CRITICAL"
  | high => "HIGH"
  | medium => "MEDIUM"
  | low => "LOW"
  | info => "INFO"

/-- The name inside a sentence. -/
def smallLabel : Severity → String
  | critical => "critical"
  | high => "high"
  | medium => "medium"
  | low => "low"
  | info => "info"

/-- All severities, the most serious first. -/
def all : List Severity := [critical, high, medium, low, info]

/-- The severity is at least as serious as the threshold. -/
def meets (s threshold : Severity) : Bool := threshold.rank ≤ s.rank

/-- The severity with a given name. -/
def ofLabel? (text : String) : Option Severity := all.find? (·.label == text)

/-- Reads a name, in which case does not matter. -/
def ofText? (text : String) : Option Severity := ofLabel? text.toCapital

/-- What is said of a text that names no severity. -/
def unknownMessage (text : String) : String := "unknown severity: " ++ text.toCapital

end Severity

end ReviewBot
