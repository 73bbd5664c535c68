import Mathlib
import Tenancy.Proofs.DeviceApi.Serving

/-!
A server for modest estates, on whose appliances there is, apart from folders, one network at most. It
leaves out of its bodies whatever may be left out.
-/

namespace Tenancy.DeviceApi

open Json.Node (AreNamed)
open Web (Response)

def network : Resource := ⟨.vlan, "v", "Project_t", some 17⟩

def IsModest (estate : Estate) : Prop :=
  ∀ host, List.Sublist (estate.fleet.host host).objects [⟨network, "Project_t"⟩]

namespace IsModest

variable {estate : Estate}

theorem of_hosts (all : ∀ entry ∈ estate.fleet.hosts,
    List.Sublist entry.2.objects [⟨network, "Project_t"⟩]) : IsModest estate := by
  intro name
  unfold Fleet.host
  cases found : estate.fleet.hosts.lookup name with
  | none => exact List.nil_sublist _
  | some host =>
      obtain ⟨before, after, same, -⟩ := List.lookup_eq_some_iff.mp found
      exact all (name, host) (same ▸ List.mem_append_right before List.mem_cons_self)

theorem respond (modest : IsModest estate) (request : Request) :
    IsModest (Estate.respond request estate).2 :=
  fun host => (Estate.respond_objects request estate host).trans (modest host)

theorem words (modest : IsModest estate) (host : String) :
    ∀ object ∈ (estate.fleet.host host).objects,
      Text.IsWord object.resource.partition ∧ Text.IsWord object.resource.name := by
  intro object member
  rw [List.mem_singleton.mp ((modest host).subset member)]
  decide

theorem listed (modest : IsModest estate) {host : String} {kind : Kind} {partition : String}
    {resources : List Resource}
    (answered : (Estate.respond (.list host kind partition) estate).1 = .ok resources) :
    resources = [] ∨ resources = [network] ∧ partition = "Project_t" := by
  have truly := (Estate.respond_serves (.list host kind partition) estate).2 resources answered
  obtain none | single := List.sublist_singleton.mp (modest host)
  · exact .inl (by rw [truly, Host.listing, none]; rfl)
  · rw [truly, Host.listing, single]
    by_cases shown : network.kind = kind ∧ "Project_t" = partition
    · exact .inr ⟨by simp [shown], shown.2.symm⟩
    · exact .inl (by simpa using shown)

end IsModest

def bareBody : List UInt8 := "\x7b\x7d".toUTF8.toList

def objectBody : List UInt8 := "\x7b\"name\":\"v\"\x7d".toUTF8.toList

def networksBody : List UInt8 :=
  "\x7b\"items\":[\x7b\"name\":\"v\",\"tag\":17\x7d]\x7d".toUTF8.toList

def refusal : DeviceError → Response
  | .authExpired _ detail => ⟨401, detail.toUTF8.toList, true⟩
  | .notFound .. => ⟨404, [], true⟩
  | .other _ detail => ⟨500, detail.toUTF8.toList, true⟩

def reply : (request : Request) → request.Answer → Response
  | .probe .., .ok true => ⟨200, bareBody, true⟩
  | .probe .., .ok false => ⟨404, [], true⟩
  | .create .., .ok _ => ⟨200, objectBody, true⟩
  | .list .., .ok resources =>
      ⟨200, if resources.isEmpty then bareBody else networksBody, true⟩
  | .delete .., .ok () => ⟨204, [], true⟩
  | .probe .., .error source => refusal source
  | .create .., .error source => refusal source
  | .list .., .error source => refusal source
  | .delete .., .error source => refusal source
  | .releasePort _, _ => ⟨400, [], true⟩
  | .releaseTag .., _ => ⟨400, [], true⟩

def modestServer (raiseOnCall : Option Nat) : Peer Uplink { estate // IsModest estate } where
  latency state query := ((Uplink.read? query).map state.1.latency).getD 0
  raises earlier _ _ := raiseOnCall = some (earlier + 1)
  respond query state :=
    match query with
    | .inl http =>
        match read? http with
        | none => (some ⟨400, [], true⟩, state)
        | some request =>
            (some (reply request (Estate.respond request state.1).1),
              ⟨(Estate.respond request state.1).2, state.2.respond request⟩)
    | .inr request =>
        ((Estate.respond request state.1).1,
          ⟨(Estate.respond request state.1).2, state.2.respond request⟩)
  notice := []

theorem refusal_refuses (source : DeviceError) : Refuses (refusal source) source := by
  cases source with
  | authExpired | notFound => rfl
  | other => exact ⟨rfl, nofun, nofun⟩

theorem bare_lists (partition : String) (status : Nat) :
    ∃ members, HasBody ⟨status, bareBody, true⟩ members ∧ Lists partition [] members :=
  ⟨[], ⟨rfl, by cbv⟩, ⟨nofun, .inl ⟨rfl, rfl⟩⟩⟩

theorem network_lists (status : Nat) :
    ∃ members, HasBody ⟨status, networksBody, true⟩ members ∧
      Lists "Project_t" [network] members := by
  refine ⟨[(some "items", .array [.object [(some "name", .string (some "v")),
    (some "tag", .number "17".toList)]])], ⟨rfl, by cbv⟩, ?_⟩
  refine ⟨by simp [AreNamed], .inr ⟨[_], rfl, .cons ?_ .nil⟩⟩
  exact ⟨by simp [AreNamed], rfl, .inr ⟨rfl, rfl⟩, .inl ⟨17, rfl, rfl⟩⟩

theorem name_shows (status : Nat) :
    ∃ resource members, HasBody ⟨status, objectBody, true⟩ members ∧
      Shows resource.name resource members :=
  ⟨.folder "v", [(some "name", .string (some "v"))], ⟨rfl, by cbv⟩,
    ⟨by simp [AreNamed], rfl, .inr ⟨rfl, rfl⟩, .inr ⟨rfl, .inl rfl⟩⟩⟩

theorem read?_kind {http : Web.HttpRequest} {request : Request}
    (read : read? http = some request) : request.kind?.isSome := by
  rw [read?, Option.bind_eq_bind, Option.bind_eq_some_iff] at read
  obtain ⟨⟨kind, object⟩, -, read⟩ := read
  simp only [request?] at read
  split at read
  · obtain ⟨query, -, read⟩ := Option.bind_eq_some_iff.mp read
    obtain ⟨partition, -, read⟩ := Option.bind_eq_some_iff.mp read
    obtain rfl := Option.some.inj read
    rfl
  · obtain rfl := Option.some.inj read
    rfl
  · obtain ⟨payload, -, read⟩ := Option.bind_eq_some_iff.mp read
    obtain rfl := Option.some.inj read
    rfl
  · obtain ⟨resource, -, read⟩ := Option.bind_eq_some_iff.mp read
    obtain rfl := Option.some.inj read
    rfl
  · cases read

variable {scheme : String} {aliases : List String} {estate : Estate}

theorem reply_tells (modest : IsModest estate) {request : Request} {http : Web.HttpRequest}
    (read : read? http = some request) :
    Tells (reply request (Estate.respond request estate).1) request
      (Estate.respond request estate).1 := by
  cases request with
  | probe host kind name =>
      rcases (Estate.respond (.probe host kind name) estate).1 with source | _ | _
      · exact refusal_refuses source
      · rfl
      · rfl
  | create host kind payload =>
      rcases (Estate.respond (.create host kind payload) estate).1 with source | resource
      · exact refusal_refuses source
      · exact ⟨rfl, name_shows 200⟩
  | list host kind partition =>
      cases answered : (Estate.respond (.list host kind partition) estate).1 with
      | error source => exact refusal_refuses source
      | ok resources =>
          obtain rfl | ⟨rfl, rfl⟩ := modest.listed answered
          · exact ⟨rfl, bare_lists partition 200⟩
          · exact ⟨rfl, network_lists 200⟩
  | delete host resource =>
      rcases (Estate.respond (.delete host resource) estate).1 with source | _
      · exact refusal_refuses source
      · rfl
  | releasePort | releaseTag => cases read?_kind read

theorem modestServer_serves (raiseOnCall : Option Nat) :
    Serves scheme aliases raiseOnCall Subtype.val (modestServer raiseOnCall) where
  latency meets := by simp [modestServer, meets.read]
  raises _ _ := rfl
  keeps {state query request} meets := by
    have read := meets.read
    cases query with
    | inl http =>
        change read? http = some request at read
        simp only [modestServer, read]
    | inr own =>
        obtain rfl := Option.some.inj read
        rfl
  tells {state query request} meets := by
    have read : read? query = some request := meets.read
    exact ⟨_, by simp only [modestServer, read], reply_tells state.2 read⟩
  answers _ := rfl

end Tenancy.DeviceApi
