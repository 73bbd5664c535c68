import Tenancy.Proofs.Agenda
import Tenancy.Proofs.Batch.Confinement
import Tenancy.Proofs.Provisioning.Parts
import Tenancy.Proofs.Teardown.Heedless

/-!
Every chore keeps to its hosts: whatever it is answered, no other host is asked for anything, and none
is named in a release. So all that is recorded while an agenda is done is what a client asks for requests
on the agenda's hosts.
-/

namespace Tenancy

def Chore.hosts : Chore → List String
  | create service => service.hosts
  | clean service _ => service.hosts
  | list host _ _ => [host]
  | routeDomains host _ => [host]
  | checkEmpty host _ => [host]
  | delete _ host _ => [host]

def Occasion.hosts : Occasion → List String
  | .chore own => own.hosts
  | .departure => []

variable {α β : Type} {asked : Request → Prop} {hosts : List String} {host partition : String}

def Request.IsOn (hosts : List String) (request : Request) : Prop :=
  ∀ host, request.host? = some host → host ∈ hosts

theorem Request.isOn_of_host {request : Request} (placed : request.host? = some host)
    (member : host ∈ hosts) : request.IsOn hosts := by
  intro other same
  rw [placed] at same
  exact Option.some.inj same ▸ member

namespace Action

def Confined (asked : Request → Prop) (action : Action α) : Prop :=
  Program.Confined (I := Backend) asked action.run

theorem confined_of_asks {action : Action α}
    (asks : ∀ trail request, action.Asks trail request → asked request) : action.Confined asked :=
  asks

theorem confined_ask {request : Request} (own : asked request) : (ask request).Confined asked :=
  confined_of_asks fun _ _ same => request_of_asks_ask same ▸ own

theorem Confined.bind {action : Action α} {rest : α → Action β} (first : action.Confined asked)
    (later : ∀ value, (rest value).Confined asked) : (action >>= rest).Confined asked := by
  rw [Confined, run_bind]
  refine Program.Confined.bind first fun result => ?_
  cases result with
  | ok value => exact later value
  | error failure => exact Program.confined_done _

theorem confined_passedOn : PassedOn fun _ action => action.Confined asked where
  silent silent := confined_of_asks fun trail request own => absurd own (silent trail request)
  bind first later := first.bind later

theorem Confined.map {action : Action α} (confined : action.Confined asked) (change : α → β) :
    (change <$> action).Confined asked := by
  rw [map_eq_pure_bind]
  exact confined.bind fun value => confined_passedOn.pure (change value)

end Action

open Tenancy.Action

theorem Teardown.run_onHosts {policy : RetryPolicy} (member : host ∈ hosts) :
    (run policy host partition).Confined (Request.IsOn hosts) := by
  refine confined_of_asks fun trail request own other placed => ?_
  have here := (run_asks own).host?_eq (by rw [placed]; rfl)
  rw [placed] at here
  exact Option.some.inj here ▸ member

theorem Provisioning.assureCreated_onHosts {naming : Naming} {settings : Settings}
    {service : Service} :
    (assureCreated naming settings service).Confined (Request.IsOn service.hosts) :=
  assureCreated_of_passedOn confined_passedOn settings fun _ member =>
    assureOn_of_passedOn confined_passedOn (confined_ask (Request.isOn_of_host rfl member))
      (confined_ask (Request.isOn_of_host rfl member))

namespace Cleanup

theorem conclude_onHosts {outcomes : List (String × Outcome)}
    {failures : List (String × TenantError)}
    (results : List (String × Except TenantError Outcome)) :
    (conclude partition outcomes failures results).Confined asked := by
  induction results generalizing outcomes failures with
  | nil =>
      unfold conclude
      split
      · exact confined_passedOn.pure _
      · exact confined_passedOn.throw _
  | cons entry results ih =>
      obtain ⟨host, failure | outcome⟩ := entry
      · exact confined_passedOn.note_bind ih
      · exact ih

theorem undertaking_onHosts (retry : RetryPolicy) (partition : String) (hosts : List String)
    (policy : Policy) :
    (undertaking retry partition hosts policy).Confined (Request.IsOn hosts) := by
  cases policy with
  | abortOnFirstFailure =>
      have inTurn : (inTurn retry partition hosts).Confined (Request.IsOn hosts) :=
        inTurn_of_passedOn confined_passedOn fun _ member => Teardown.run_onHosts member
      exact inTurn.map Report.mk
  | bestEffort maxParallel =>
      exact ⟨List.forall_mem_map.mpr fun _ member => Teardown.run_onHosts member,
        fun _ => conclude_onHosts _⟩

end Cleanup

theorem Chore.undertaking_onHosts (naming : Naming) (settings : Settings) (chore : Chore) :
    (chore.undertaking naming settings).Confined (Request.IsOn chore.hosts) := by
  have lists (host partition : String) (kind : Kind) :
      (ask (.list host kind partition)).Confined (Request.IsOn [host]) :=
    confined_ask (Request.isOn_of_host rfl List.mem_cons_self)
  have listed (host partition : String) (kind : Kind) :
      (Catalog.list host partition kind).Confined (Request.IsOn [host]) :=
    Catalog.list_of_passedOn confined_passedOn (lists host partition kind)
  cases chore with
  | create service => exact Provisioning.assureCreated_onHosts.map _
  | clean service policy =>
      refine (Cleanup.undertaking_onHosts settings.retry _ service.hosts policy).andThen
        fun result => ?_
      exact Program.confined_done _
  | list host partition kind => exact (listed host partition kind).map _
  | routeDomains host partition =>
      exact ((listed host partition .routeDomain).bind fun _ => confined_passedOn.pure _).map _
  | checkEmpty host partition =>
      exact (Catalog.lacks_of_passedOn confined_passedOn (lists host partition) _).map _
  | delete retry host resource =>
      have attempts : (Deletion.delete retry host resource).Confined (Request.IsOn [host]) :=
        confined_of_asks fun _ _ own =>
          Teardown.attempt_asks own ▸ Request.isOn_of_host rfl List.mem_cons_self
      exact attempts.map _

namespace Agenda

variable {I : Interface} {σ : Type} (naming : Naming) (settings : Settings) (client : Client I)
  (peer : Peer I σ)

def runVia : List Occasion → Surroundings I σ →
    List (Except TenantError Chore.Answer) × Surroundings I σ
  | [], surroundings => ([], surroundings)
  | .departure :: later, surroundings =>
      runVia later { surroundings with signal := surroundings.signal.map Signal.drop }
  | .chore chore :: later, surroundings =>
      let (result, after) :=
        ((chore.undertaking naming settings).via client).run peer surroundings
      let (results, last) := runVia later after
      (result :: results, last)

variable {naming settings client peer}

theorem recorded_runVia {calls : I.Query → Prop} {agenda : List Occasion} {hosts : List String}
    (within : ∀ occasion ∈ agenda, occasion.hosts ⊆ hosts)
    (works : ∀ request, Request.IsOn hosts request → (client request).Confined calls)
    (surroundings : Surroundings I σ) :
    Recorded calls surroundings.exchanges
      (runVia naming settings client peer agenda surroundings).2.exchanges := by
  induction agenda generalizing surroundings with
  | nil => exact .refl _
  | cons occasion agenda ih =>
      obtain ⟨own, later⟩ := List.forall_mem_cons.mp within
      cases occasion with
      | departure => exact ih later _
      | chore chore =>
          have confined : ((chore.undertaking naming settings).via client).Confined calls :=
            (chore.undertaking_onHosts naming settings).via fun request on =>
              works request fun host placed => own (on host placed)
          exact confined.run.trans (ih later _)

end Agenda

end Tenancy
