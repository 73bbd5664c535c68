import Tenancy.Proofs.Tolerance
import Tenancy.Provisioning

/-!
What provisioning makes of answers that differ a little. Whether a folder is there decides what
happens next; what an appliance says of the folder that it created does not.
-/

namespace Tenancy.Provisioning

open Tenancy.Action

variable {tolerance : Tolerance} {naming : Naming} {service : Service} {trafficGroup host : String}

theorem assureOn_alike :
    Alike tolerance (assureOn naming service trafficGroup host)
      (assureOn naming service trafficGroup host) := by
  refine alike_ask_bind fun first second same => ?_
  cases same with
  | error near => exact alike_throw (.provisioning service.tenant host near)
  | @ok exists_ _ agrees =>
      subst agrees
      cases exists_ with
      | true => exact alike_note_bind (alike_pure false)
      | false =>
          refine alike_ask_bind fun first second same => ?_
          cases same with
          | ok => exact alike_note_bind (alike_pure true)
          | error near =>
              exact alike_notes_bind (fun heard => by rw [tolerance.plain heard near])
                (alike_throw (.provisioning service.tenant host near))

theorem assureEach_alike (hosts : List String) :
    Alike tolerance (assureEach naming service trafficGroup hosts)
      (assureEach naming service trafficGroup hosts) := by
  induction hosts with
  | nil => exact alike_pure []
  | cons host hosts ih =>
      exact assureOn_alike.bind fun created => ih.bind fun others => alike_pure _

theorem assureCreated_alike (settings : Settings) :
    Alike tolerance (assureCreated naming settings service)
      (assureCreated naming settings service) := by
  unfold assureCreated
  split
  · exact alike_throw (.same _)
  · exact alike_note_bind ((assureEach_alike service.hosts).bind fun created => alike_pure _)

end Tenancy.Provisioning
