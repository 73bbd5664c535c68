import Tenancy.Cleanup
import Tenancy.Proofs.Teardown.Stage

/-!
What is passed on to a teardown from its parts: a property that is passed on when one action follows
another holds of it if it holds of its reads and of the work of its stages. A cleanup in turn has it
from its teardowns.
-/

namespace Tenancy

open Tenancy.Action (PassedOn)

variable {P : (α : Type) → Action α → Prop} {policy : RetryPolicy} {host partition : String}

namespace Catalog

theorem list_of_passedOn (passedOn : PassedOn P) {kind : Kind}
    (asked : P _ (Action.ask (.list host kind partition))) : P _ (list host partition kind) := by
  refine passedOn.bind asked fun answer => ?_
  cases answer with
  | ok resources => exact passedOn.pure resources
  | error source => exact passedOn.throw _

theorem lacks_of_passedOn (passedOn : PassedOn P)
    (asked : ∀ kind, P _ (Action.ask (.list host kind partition))) (kinds : List Kind) :
    P _ (lacks host partition kinds) := by
  induction kinds with
  | nil => exact passedOn.pure true
  | cons kind kinds ih =>
      refine passedOn.bind (list_of_passedOn passedOn (asked kind)) fun resources => ?_
      split
      · exact ih
      · exact passedOn.pure false

end Catalog

namespace Teardown

theorem inStages_of_passedOn (passedOn : PassedOn P) {work : Stage → Action Unit}
    (works : ∀ stage, P _ (work stage)) (stages : List Stage) :
    P _ (inStages host partition work stages) := by
  induction stages with
  | nil => exact passedOn.pure ()
  | cons stage stages ih =>
      have opened : P _ (checkpoint host partition) :=
        passedOn.silent fun _ _ => not_checkpoint_asks
      exact passedOn.bind opened fun _ => passedOn.bind (works stage) fun _ => ih

theorem dismantle_of_passedOn (passedOn : PassedOn P) {names : List String}
    (works : ∀ stage, P _ (work policy host partition names stage)) :
    P _ (dismantle policy host partition names) := by
  have stages : P _ (inStages host partition (work policy host partition names) Stage.course) :=
    inStages_of_passedOn passedOn works Stage.course
  exact dismantle_eq ▸ passedOn.bind stages fun _ => passedOn.pure Outcome.removed

theorem run_of_passedOn (passedOn : PassedOn P)
    (reads : ∀ request, request.changes = false → P _ (Action.ask request))
    (works : ∀ names stage, P _ (work policy host partition names stage)) :
    P _ (run policy host partition) := by
  have lists (kind : Kind) : P _ (Action.ask (.list host kind partition)) := reads _ rfl
  refine passedOn.bind (reads (.probe host .folder partition) rfl) fun answer => ?_
  rcases answer with source | _ | _
  case error => exact passedOn.throw _
  case ok.false => exact passedOn.note_bind (passedOn.pure Outcome.absent)
  case ok.true =>
    have names : P _ (Catalog.routeDomainNames host partition) :=
      passedOn.bind (Catalog.list_of_passedOn passedOn (lists .routeDomain)) fun domains =>
        passedOn.pure (domains.map (·.name))
    have empties := Catalog.lacks_of_passedOn passedOn lists Kind.loadBearing
    refine passedOn.bind names fun names => passedOn.bind empties fun empty => ?_
    cases empty with
    | false => exact passedOn.note_bind (passedOn.pure Outcome.notEmpty)
    | true => exact dismantle_of_passedOn passedOn (works names)

end Teardown

theorem Cleanup.inTurn_of_passedOn (passedOn : PassedOn P) {hosts : List String}
    (each : ∀ host ∈ hosts, P _ (Teardown.run policy host partition)) :
    P _ (inTurn policy partition hosts) := by
  induction hosts with
  | nil => exact passedOn.pure []
  | cons host hosts ih =>
      obtain ⟨own, rest⟩ := List.forall_mem_cons.mp each
      exact passedOn.bind own fun outcome => passedOn.bind (ih rest) fun outcomes => passedOn.pure _

end Tenancy
