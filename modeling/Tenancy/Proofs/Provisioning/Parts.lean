import Tenancy.Proofs.Program.Asking
import Tenancy.Provisioning

/-!
What is passed on to a creation from its parts: a property that is passed on when one action follows
another holds of it if it holds of all that its hosts are asked.
-/

namespace Tenancy.Provisioning

open Tenancy.Action (PassedOn)

variable {P : (α : Type) → Action α → Prop} {naming : Naming} {service : Service}
  {trafficGroup host : String}

theorem assureOn_of_passedOn (passedOn : PassedOn P)
    (probed : P _ (Action.ask (.probe host .folder (naming.folderName service.tenant))))
    (created : P _ (Action.ask (.create host .folder (naming.descriptor service trafficGroup)))) :
    P _ (assureOn naming service trafficGroup host) := by
  refine passedOn.bind probed fun answer => ?_
  rcases answer with source | _ | _
  · exact passedOn.throw _
  · refine passedOn.bind created fun answer => ?_
    cases answer with
    | error source => exact passedOn.note_bind (passedOn.throw _)
    | ok resource => exact passedOn.note_bind (passedOn.pure true)
  · exact passedOn.note_bind (passedOn.pure false)

theorem assureEach_of_passedOn (passedOn : PassedOn P) {hosts : List String}
    (each : ∀ host ∈ hosts, P _ (assureOn naming service trafficGroup host)) :
    P _ (assureEach naming service trafficGroup hosts) := by
  induction hosts with
  | nil => exact passedOn.pure []
  | cons host hosts ih =>
      obtain ⟨own, rest⟩ := List.forall_mem_cons.mp each
      exact passedOn.bind own fun created => passedOn.bind (ih rest) fun others => passedOn.pure _

theorem assureCreated_of_passedOn (passedOn : PassedOn P) (settings : Settings)
    (each : ∀ host ∈ service.hosts,
      P _ (assureOn naming service (settings.trafficGroup service) host)) :
    P _ (assureCreated naming settings service) := by
  unfold assureCreated
  split
  · exact passedOn.throw _
  · exact passedOn.note_bind
      (passedOn.bind (assureEach_of_passedOn passedOn each) fun created => passedOn.pure _)

end Tenancy.Provisioning
