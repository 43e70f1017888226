import ReviewBot.Report.Basic

set_option autoImplicit false

/-!
# Identifiers in reports

Issuing identifiers changes nothing else in a report: what does not depend on the identifier of a
finding is the same at each position (`map_identify`).
-/

namespace ReviewBot.Report

theorem map_identify {α : Type} {g : Finding → α}
    (hg : ∀ (f : Finding) (i : String), g { f with id := i } = g f) (ids : Nat → String)
    (r : Report) : (r.identify ids).findings.map g = r.findings.map g := by
  have hfst : (g ∘ fun (x : Finding × Nat) => { x.1 with id := ids x.2 }) = g ∘ Prod.fst := by
    funext x
    exact hg x.1 (ids x.2)
  show (r.findings.zipIdx.map fun x => { x.1 with id := ids x.2 }).map g = _
  rw [List.map_map, hfst, ← List.map_map, List.zipIdx_map_fst]

end ReviewBot.Report
