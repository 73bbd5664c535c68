import Tenancy.Proofs.DeviceApi.Words
import Tenancy.Proofs.Estate.Locality

/-!
A server that tells the truth about a fleet: it reads the route of each request, answers as the fleet
does, and is then where the fleet is. It need not do so for requests that no client in words makes.
-/

namespace Tenancy

open Text (IsWord)
open Web (HttpRequest Response)

def Fault.IsTold (aliases : List String) (fault : Fault) : Prop :=
  fault.operation ≠ .releasePort → fault.operation ≠ .releaseTag →
    fault.answer.sort ≠ .notFound ∧ ∀ host ∈ fault.answer.host, host ∈ aliases

namespace Estate

structure IsPlain (aliases : List String) (estate : Estate) : Prop where
  words : ∀ host, ∀ object ∈ (estate.fleet.host host).objects,
    IsWord object.resource.partition ∧ IsWord object.resource.name
  faults : ∀ fault ∈ estate.faults, fault.IsTold aliases

variable {aliases : List String} {estate : Estate} {fleet : Fleet} {request : Request}

theorem respond_objects (request : Request) (estate : Estate) (name : String) :
    List.Sublist ((respond request estate).2.fleet.host name).objects
      (estate.fleet.host name).objects := by
  have serves := respond_serves request estate
  cases request with
  | probe | releasePort | releaseTag =>
      rw [show (respond _ estate).2.fleet = estate.fleet from serves]
  | list => rw [serves.1]
  | create host kind payload =>
      rw [respond_eq]
      cases (Fault.strike? (.create host kind payload) estate.faults).1 with
      | some fault => exact List.Sublist.refl _
      | none =>
          rw [serve, comply, Fleet.host_change]
          split
          next same =>
            rw [same, Host.addFolder]
            split <;> exact List.Sublist.refl _
          next => exact List.Sublist.refl _
  | delete host resource =>
      obtain same | same := serves.1
      · rw [same]
      · rw [same]
        exact (removed_shrinks estate.fleet host resource).objects name

namespace IsPlain

theorem struck (plain : estate.IsPlain aliases) (request : Request) :
    (∀ fault ∈ (Fault.strike? request estate.faults).1,
        fault.IsTold aliases ∧ fault.befalls request) ∧
      ∀ fault ∈ (Fault.strike? request estate.faults).2, fault.IsTold aliases :=
  Fault.strike?_forall (fun _ _ _ told => told) plain.faults

theorem respond (plain : estate.IsPlain aliases) (request : Request) :
    (Estate.respond request estate).2.IsPlain aliases :=
  ⟨fun host object member =>
    plain.words host object ((respond_objects request estate host).subset member),
    (plain.struck request).2⟩

end IsPlain

theorem deviceError_isOf {fault : Fault} (told : fault.IsTold aliases)
    (befalls : fault.befalls request) (toAppliance : request.kind?.isSome) (host : String)
    (kind : Kind) (name : String) : (fault.answer.deviceError host kind name).IsOf aliases host := by
  have same := (Fault.befalls_iff.mp befalls).1
  have apart : request.operation ≠ .releasePort ∧ request.operation ≠ .releaseTag := by
    cases request with
    | releasePort | releaseTag => cases toAppliance
    | probe | create | list | delete => simp [Request.operation]
  obtain ⟨present, others⟩ := told (same ▸ apart.1) (same ▸ apart.2)
  have own : fault.answer.host.getD host = host ∨ fault.answer.host.getD host ∈ aliases := by
    cases named : fault.answer.host with
    | none => exact .inl rfl
    | some reporter => exact .inr (others reporter named)
  unfold FaultAnswer.deviceError
  split
  · exact own
  next missing => exact absurd missing present
  · exact own

theorem respond_expected (plain : estate.IsPlain aliases) (request : Request) :
    request.Expects aliases (respond request estate).1 := by
  rw [respond_eq]
  cases found : (Fault.strike? request estate.faults).1 with
  | none =>
      cases request with
      | probe | create =>
          intro source same
          cases same
      | list host kind partition =>
          refine ⟨fun source same => (by cases same), fun resources same resource member => ?_⟩
          obtain rfl := Except.ok.inj same
          obtain ⟨object, listed, rfl⟩ := List.mem_map.mp member
          obtain ⟨inside, shown⟩ := List.mem_filter.mp listed
          simp only [Bool.and_eq_true, decide_eq_true_eq] at shown
          exact ⟨shown.1, plain.words host object inside⟩
      | delete host resource =>
          intro source same
          simp only [serve, comply] at same
          split at same
          · cases same
          · obtain rfl := Except.error.inj same
            exact .inl rfl
      | releasePort | releaseTag => trivial
  | some fault =>
      obtain ⟨told, befalls⟩ := (plain.struck request).1 fault found
      cases request with
      | probe | create =>
          intro source same
          obtain rfl := Except.error.inj same
          exact deviceError_isOf told befalls rfl _ _ _
      | list =>
          refine ⟨fun source same => ?_, fun resources same => (by cases same)⟩
          obtain rfl := Except.error.inj same
          exact deviceError_isOf told befalls rfl _ _ _
      | delete =>
          intro source same
          obtain rfl := Except.error.inj same
          exact .inr (deviceError_isOf told befalls rfl _ _ _)
      | releasePort | releaseTag => trivial

end Estate

namespace Resource

variable {resource : Resource}

@[simp] theorem told_kind : resource.told.kind = resource.kind := by
  unfold told
  split
  next folder => exact folder.symm
  next => rfl

@[simp] theorem told_name : resource.told.name = resource.name := by
  unfold told
  split <;> rfl

theorem told_partition (other : resource.kind ≠ .folder) :
    resource.told.partition = resource.partition := by
  rw [told, if_neg other]

end Resource

theorem Fault.strike?_congr {request other : Request}
    (same : ∀ fault : Fault, fault.befalls request = fault.befalls other) (faults : List Fault) :
    strike? request faults = strike? other faults := by
  induction faults with
  | nil => rfl
  | cons fault faults ih => rw [strike?_cons, strike?_cons, same, ih]

theorem Host.holds_told (host : Host) (resource : Resource) :
    host.holds resource.told = host.holds resource := by
  unfold holds
  rw [Resource.told_kind, Resource.told_name]
  split
  · rfl
  next other =>
    congr 1
    funext object
    rw [answersTo, answersTo, Resource.told_kind, Resource.told_name, Resource.told_partition other]

theorem Host.remove_told (host : Host) (resource : Resource) :
    host.remove resource.told = host.remove resource := by
  unfold remove
  rw [Resource.told_kind, Resource.told_name]
  split
  · rfl
  next other =>
    congr 2
    funext object
    rw [answersTo, answersTo, Resource.told_kind, Resource.told_name, Resource.told_partition other]

theorem Estate.respond_delete_told (host : String) (resource : Resource) (estate : Estate) :
    respond (.delete host resource.told) estate = respond (.delete host resource) estate := by
  have struck : Fault.strike? (.delete host resource.told) estate.faults =
      Fault.strike? (.delete host resource) estate.faults := by
    refine Fault.strike?_congr (fun fault => ?_) estate.faults
    simp only [Fault.befalls, Request.operation, Request.host?, Request.kind?, Request.name?,
      Request.tag?, Resource.told_kind, Resource.told_name]
    rfl
  have taken : removed estate.fleet host resource.told = removed estate.fleet host resource := by
    simp only [removed, Host.holds_told, Host.remove_told]
  simp only [respond, struck]
  cases (Fault.strike? (.delete host resource) estate.faults).1 with
  | none => simp only [comply, Host.holds_told, taken, Resource.told_kind, Resource.told_name]
  | some fault => simp only [fail, taken, Resource.told_kind, Resource.told_name]

namespace Request

variable {scheme : String} {request : Request}

theorem told_told : request.told.told = request.told := by
  cases request with
  | delete host resource =>
      rw [told, told, Resource.told, Resource.told_kind, Resource.told_name]
      by_cases folder : resource.kind = .folder
      · rw [if_pos folder, Resource.told, if_pos folder]
      · rw [if_neg folder, Resource.told, if_neg folder]
  | probe | create | list | releasePort | releaseTag => rfl

theorem IsPlain.told (plain : request.IsPlain scheme) : request.told.IsPlain scheme := by
  cases request with
  | delete host resource =>
      refine ⟨plain.1, ?_, ?_⟩
      · unfold Resource.told
        split
        · exact plain.2.2
        · exact plain.2.1
      · rw [Resource.told_name]
        exact plain.2.2
  | probe | create | list | releasePort | releaseTag => exact plain

end Request

theorem Estate.latency_told (estate : Estate) (request : Request) :
    estate.latency request.told = estate.latency request := by
  cases request <;> rfl

theorem Estate.respond_told (request : Request) (estate : Estate) :
    (respond request.told estate).2 = (respond request estate).2 := by
  cases request with
  | delete host resource => exact congrArg Prod.snd (respond_delete_told host resource estate)
  | probe | create | list | releasePort | releaseTag => rfl

namespace Uplink

@[reducible] def Answer : HttpRequest ⊕ Request → Type
  | .inl _ => Option Response
  | .inr request => request.Answer

def read? : HttpRequest ⊕ Request → Option Request
  | .inl request => DeviceApi.read? request
  | .inr request => some request

end Uplink

/-- The appliances over HTTP, and the two services beside them. -/
abbrev Uplink : Interface := ⟨HttpRequest ⊕ Request, Uplink.Answer⟩

namespace DeviceApi

def relay (access : Access) : Client Uplink
  | .probe host kind name => overHttp (probe access host kind name)
  | .create host kind payload => overHttp (create access host kind payload)
  | .list host kind partition => overHttp (list access host kind partition)
  | .delete host resource => overHttp (delete access host resource)
  | .releasePort port => .ask (.inr (.releasePort port)) .done
  | .releaseTag host tag => .ask (.inr (.releaseTag host tag)) .done
where
  overHttp {α : Type} (program : Program Web.Http α) : Program Uplink α :=
    program.via fun request => .ask (.inl request) .done

variable {τ : Type}

structure Meets (scheme : String) (aliases : List String) (view : τ → Estate) (state : τ)
    (query : HttpRequest ⊕ Request) (request : Request) : Prop where
  read : Uplink.read? query = some request
  words : request.IsPlain scheme
  plain : (view state).IsPlain aliases

/-- A server serves the estate that is behind it: it takes as long, sets off the signal at the same
requests, comes to where the estate comes to, and tells what it answers. -/
structure Serves (scheme : String) (aliases : List String) (raiseOnCall : Option Nat)
    (view : τ → Estate) (server : Peer Uplink τ) : Prop where
  latency : ∀ {state query request}, Meets scheme aliases view state query request →
    server.latency state query = (view state).latency request
  raises : ∀ {state query request}, Meets scheme aliases view state query request →
    ∀ earlier, server.raises earlier state query =
      (Estate.peer raiseOnCall).raises earlier (view state) request
  keeps : ∀ {state query request}, Meets scheme aliases view state query request →
    view (server.respond query state).2 = (Estate.respond request (view state)).2
  tells : ∀ {state query request}, Meets scheme aliases view state (.inl query) request →
    ∃ response, (server.respond (.inl query) state).1 = some response ∧
      Tells response request (Estate.respond request (view state)).1
  answers : ∀ {state request}, Meets scheme aliases view state (.inr request) request →
    (server.respond (.inr request) state).1 = (Estate.respond request (view state)).1

end DeviceApi

end Tenancy
