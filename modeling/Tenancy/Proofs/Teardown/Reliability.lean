import Tenancy.Proofs.Estate.Dwindling
import Tenancy.Proofs.Program.Ensuring
import Tenancy.Proofs.Teardown.Completion

/-!
A teardown fails only through what it sees: if no request fails, a missing object apart, and
shutdown is not requested, then it does not fail, whatever the listings hold.
-/

namespace Tenancy

open Tenancy.Action

def Request.complied : (request : Request) → request.Answer → Bool
  | .probe .., answer => answer.isOk
  | .create .., answer => answer.isOk
  | .list .., answer => answer.isOk
  | .delete .., answer => Teardown.isGone answer
  | .releasePort _, _ => true
  | .releaseTag .., answer => answer.isOk

def Sight.smooth : Sight Backend → Bool
  | .asked request answer => request.complied answer
  | .paused _ requested => !requested
  | .looked requested => !requested

namespace Teardown

abbrev Dependable {α : Type} (action : Action α) : Prop :=
  action.Reliable fun sight => sight.smooth

variable {host partition : String}

theorem attempt_dependable {interval : Span} {resource : Resource} {retries number : Nat} :
    Dependable (Deletion.attempt interval host resource retries number) := by
  rw [Deletion.attempt]
  refine reliable_ask_bind fun answer gone => ?_
  rcases answer with (_ | _ | _) | _
  case error.authExpired | error.other => cases gone
  case error.notFound | ok => exact reliable_note

theorem releaseTag_dependable {resource : Resource} : Dependable (releaseTag host resource) := by
  unfold releaseTag
  cases resource.fabricTag with
  | none => exact reliable_pure ()
  | some tag =>
      refine reliable_ask_bind fun answer ok => ?_
      cases answer with
      | ok => exact reliable_pure ()
      | error source => cases ok

theorem drainEach_dependable {policy : RetryPolicy} {resources : List Resource} :
    Dependable (drainEach policy host resources) := by
  induction resources with
  | nil => exact reliable_pure ()
  | cons resource resources ih =>
      exact attempt_dependable.bind fun _ => releaseTag_dependable.bind fun _ => ih

theorem checkpoint_dependable : Dependable (checkpoint host partition) := by
  intro requested calm
  cases requested with
  | true => cases calm
  | false => exact reliable_pure ()

theorem list_dependable {kind : Kind} : Dependable (Catalog.list host partition kind) := by
  rw [Catalog.list]
  refine reliable_ask_bind fun answer ok => ?_
  cases answer with
  | ok resources => exact reliable_pure resources
  | error source => cases ok

theorem lacks_dependable {kinds : List Kind} : Dependable (Catalog.lacks host partition kinds) := by
  induction kinds with
  | nil => exact reliable_pure true
  | cons kind kinds ih =>
      refine list_dependable.bind fun resources => ?_
      split
      · exact ih
      · exact reliable_pure false

theorem drain_dependable {policy : RetryPolicy} {kinds : List Kind} :
    Dependable (drain policy host partition kinds) := by
  induction kinds with
  | nil => exact reliable_pure ()
  | cons kind kinds ih =>
      exact checkpoint_dependable.bind fun _ => list_dependable.bind fun _ =>
        drainEach_dependable.bind fun _ => ih

theorem releaseEach_dependable {resources : List Resource} :
    Dependable (releaseEach resources) := by
  induction resources with
  | nil => exact reliable_pure ()
  | cons resource resources ih =>
      refine reliable_ask_bind fun answer _ => ?_
      cases answer with
      | ok => exact ih
      | error source => exact reliable_note_bind ih

theorem releasePorts_dependable {kinds : List Kind} :
    Dependable (releasePorts host partition kinds) := by
  induction kinds with
  | nil => exact reliable_pure ()
  | cons kind kinds ih =>
      refine reliable_ask_bind fun answer _ => ?_
      cases answer with
      | ok resources => exact releaseEach_dependable.bind fun _ => ih
      | error source => exact reliable_note_bind ih

theorem deleteRouteDomains_dependable {names : List String} :
    Dependable (deleteRouteDomains host partition names) := by
  induction names with
  | nil => exact reliable_pure ()
  | cons name names ih =>
      refine reliable_ask_bind fun answer gone => ?_
      rcases answer with (_ | _ | _) | _
      case error.authExpired | error.other => cases gone
      case error.notFound => exact ih
      case ok => exact reliable_note_bind ih

theorem deleteFolder_dependable : Dependable (deleteFolder host partition) := by
  refine reliable_ask_bind fun answer gone => ?_
  rcases answer with (_ | _ | _) | _
  case error.authExpired | error.other => cases gone
  case error.notFound | ok => exact reliable_pure ()

theorem run_dependable {policy : RetryPolicy} : Dependable (run policy host partition) := by
  refine reliable_ask_bind fun answer ok => ?_
  rcases answer with source | _ | _
  case error => cases ok
  case ok.false => exact reliable_note_bind (reliable_pure Outcome.absent)
  case ok.true =>
    have named : Dependable (Catalog.routeDomainNames host partition) :=
      list_dependable.bind fun _ => reliable_pure _
    refine named.bind fun names => lacks_dependable.bind fun empty => ?_
    cases empty with
    | false => exact reliable_note_bind (reliable_pure Outcome.notEmpty)
    | true =>
        refine checkpoint_dependable.bind fun _ => releasePorts_dependable.bind fun _ => ?_
        refine checkpoint_dependable.bind fun _ => drain_dependable.bind fun _ => ?_
        refine checkpoint_dependable.bind fun _ => reliable_note_bind ?_
        refine deleteRouteDomains_dependable.bind fun _ => ?_
        refine checkpoint_dependable.bind fun _ => deleteFolder_dependable.bind fun _ => ?_
        exact reliable_note_bind (reliable_pure Outcome.removed)

end Teardown

namespace Estate

theorem respond_complied (request : Request) (estate : Estate) (none : estate.faults = []) :
    request.complied (respond request estate).1 := by
  rw [respond_of_no_faults request estate none]
  cases request with
  | delete host resource =>
      simp only [comply]
      split <;> rfl
  | probe | create | list | releasePort | releaseTag => rfl

theorem respond_faults_of_none (request : Request) (estate : Estate) (none : estate.faults = []) :
    (respond request estate).2.faults = [] := by
  rw [respond_of_no_faults request estate none]
  exact none

theorem answered_complied {raiseOnCall : Option Nat} {start : Estate}
    {exchanges : List (Exchange Backend)} (answered : (peer raiseOnCall).Answered start exchanges)
    (none : start.faults = []) :
    ∀ exchange ∈ exchanges, exchange.query.complied exchange.answer := by
  have left (earlier : List (Exchange Backend)) :
      ((peer raiseOnCall).replay start earlier).faults = [] := by
    induction earlier with
    | nil => exact none
    | cons exchange earlier ih => exact respond_faults_of_none exchange.query _ ih
  intro exchange member
  obtain ⟨later, earlier, rfl⟩ := List.append_of_mem member
  rw [answered.of_append.1]
  exact respond_complied exchange.query _ (left earlier)

theorem smooth_of_answered {raiseOnCall : Option Nat} {start : Estate}
    {exchanges : List (Exchange Backend)} {trail : Trail Backend}
    (answered : (peer raiseOnCall).Answered start exchanges) (none : start.faults = [])
    (known : trail.answers ⊆ exchanges.map Exchange.reply) (tells : trail.Tells false) :
    ∀ sight ∈ trail, sight.smooth := by
  intro sight member
  cases sight with
  | asked query answer =>
      obtain ⟨exchange, recorded, same⟩ :=
        List.mem_map.mp (known (Trail.mem_answers_iff.mpr member))
      have complied := answered_complied answered none exchange recorded
      obtain ⟨_, _, own, given⟩ := exchange
      cases same
      exact complied
  | paused milliseconds requested =>
      obtain rfl := tells _ member requested rfl
      rfl
  | looked requested =>
      obtain rfl := tells _ member requested rfl
      rfl

end Estate

end Tenancy
