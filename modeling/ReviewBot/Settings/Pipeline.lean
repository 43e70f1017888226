import ReviewBot.Pipeline
import ReviewBot.Settings.Basic

set_option autoImplicit false

/-!
# The pipeline that settings ask for
-/

namespace ReviewBot.Settings

/-- The pipeline with the given rules and model, as far as they are switched on. -/
def pipeline {m : Type → Type} (s : Settings) (rules : RuleSet) (model : Option (Model m)) :
    Pipeline m where
  rules := if s.app.heuristicsEnabled then some rules else none
  model := if s.asksModel then model else none
  limits := s.limits

end ReviewBot.Settings
