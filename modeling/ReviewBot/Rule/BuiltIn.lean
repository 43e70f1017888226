import ReviewBot.Rule.MemberAccess
import ReviewBot.Rule.Secrets

set_option autoImplicit false

/-!
# The built-in rules

The rules that every review runs.
-/

namespace ReviewBot

/-- The built-in rules. -/
def RuleSet.builtIn : RuleSet := .ofList [.memberAccess, .secrets]

end ReviewBot
