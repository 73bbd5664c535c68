import Tenancy.Proofs.Program.Muting
import Tenancy.Proofs.Teardown.Halting
import Tenancy.Proofs.Teardown.Parts

/-!
A teardown does not heed what the keeper of ports answers: it offers the ports and goes on. All
other requests of a teardown go to its own host.
-/

namespace Tenancy.Teardown

open Tenancy.Action

variable {policy : RetryPolicy} {host partition : String} {trail seen : Trail Backend}
  {request : Request}

theorem Due.host?_eq (due : Due host partition seen request) (placed : request.host?.isSome) :
    request.host? = some host := by
  cases due with
  | port name => cases placed
  | probe | list | object | tag | routeDomain | folder => rfl

theorem releaseEach_cons_yields_iff {resource : Resource} {resources : List Resource}
    {result : Except TenantError Unit} :
    Program.Yields (releaseEach (resource :: resources)).run trail result ↔
      ∃ answer later, trail = .asked (.releasePort resource.name) answer :: later ∧
        Program.Yields (releaseEach resources).run later result := by
  refine yields_ask_bind_iff.trans (exists_congr fun answer => exists_congr fun later => ?_)
  cases answer with
  | ok => exact Iff.rfl
  | error source => exact and_congr_right fun _ => yields_note_bind_iff

theorem releaseEach_heedless (resources : List Resource) : (releaseEach resources).Heedless := by
  induction resources with
  | nil => exact heedless_passedOn.pure ()
  | cons resource resources ih =>
      intro trail other result taken alike
      obtain ⟨answer, later, rfl, goes⟩ := releaseEach_cons_yields_iff.mp taken
      obtain ⟨sight, after, rfl, head, tail⟩ := List.map_eq_cons_iff.mp alike
      cases sight with
      | paused | looked => cases head
      | asked request given =>
          obtain ⟨rfl, -⟩ := Sight.asked.inj head
          exact releaseEach_cons_yields_iff.mpr ⟨given, after, rfl, ih later after result goes tail⟩

theorem releasePorts_heedless (kinds : List Kind) :
    (releasePorts host partition kinds).Heedless := by
  induction kinds with
  | nil => exact heedless_passedOn.pure ()
  | cons kind kinds ih =>
      refine (heedless_ask rfl).bind fun answer => ?_
      cases answer with
      | ok resources => exact (releaseEach_heedless resources).bind fun _ => ih
      | error source => exact heedless_passedOn.note_bind ih

theorem work_heedless (names : List String) (stage : Stage) :
    (work policy host partition names stage).Heedless := by
  cases stage with
  | ports => exact releasePorts_heedless Kind.portBound
  | offered | draining | routeDomains | folder =>
      refine heedless_of_asks fun trail request asked => ?_
      cases request with
      | releasePort port => cases work_asks asked rfl
      | probe | create | list | delete | releaseTag => rfl

theorem run_heedless : (run policy host partition).Heedless := by
  refine run_of_passedOn (P := fun _ action => action.Heedless) heedless_passedOn
    (fun request reads => heedless_ask ?_) work_heedless
  cases request with
  | probe | list => rfl
  | create | delete | releasePort | releaseTag => cases reads

end Tenancy.Teardown
