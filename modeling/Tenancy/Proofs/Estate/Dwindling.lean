import Tenancy.Proofs.Estate
import Tenancy.Proofs.Fleet
import Tenancy.Proofs.Record

/-!
Records in which nothing is created. The fleet only shrinks along them, so a listing is never short
of what is left later, and what is gone once is gone for good.
-/

namespace Tenancy

/-- An answer that the object is not found tells the truth. -/
def Turn.Candid (turn : Turn Backend Estate) : Prop :=
  ∀ host resource source, turn.exchange.reply = ⟨.delete host resource, .error source⟩ →
    source.isNotFound → (turn.after.fleet.host host).holds resource = false

theorem Host.mem_listing_iff {host : Host} {kind : Kind} {partition : String}
    {resource : Resource} :
    resource ∈ host.listing kind partition ↔ ∃ object ∈ host.objects,
      object.resource = resource ∧ object.resource.kind = kind ∧ object.listedIn = partition := by
  simp only [listing, List.mem_map, List.mem_filter, Bool.and_eq_true, decide_eq_true_eq,
    beq_iff_eq]
  constructor
  · rintro ⟨object, ⟨member, kind, listed⟩, rfl⟩
    exact ⟨object, member, rfl, kind, listed⟩
  · rintro ⟨object, member, rfl, kind, listed⟩
    exact ⟨object, ⟨member, kind, listed⟩, rfl⟩

namespace Estate

open Fleet

variable {raiseOnCall : Option Nat} {start : Estate} {later earlier : List (Exchange Backend)}
  {host partition : String} {kind : Kind} {resources : List Resource}

theorem Serves.shrinks {before after : Fleet} {request : Request} {answer : request.Answer}
    (serves : Serves before request answer after) (calm : request.operation ≠ .create) :
    Shrinks before after := by
  cases request with
  | create => exact absurd rfl calm
  | probe | releasePort | releaseTag =>
      obtain rfl : after = before := serves
      exact Shrinks.refl after
  | list =>
      obtain rfl : after = before := serves.1
      exact Shrinks.refl after
  | delete host resource =>
      obtain rfl | rfl := serves.1
      · exact Shrinks.refl after
      · exact removed_shrinks before host resource

structure Dwindles (raiseOnCall : Option Nat) (start : Estate)
    (exchanges : List (Exchange Backend)) : Prop where
  answered : (peer raiseOnCall).Answered start exchanges
  calm : ∀ exchange ∈ exchanges, exchange.query.operation ≠ .create

def fleetAt (raiseOnCall : Option Nat) (start : Estate) (exchanges : List (Exchange Backend)) :
    Fleet :=
  ((peer raiseOnCall).replay start exchanges).fleet

namespace Dwindles

theorem of_append (dwindles : Dwindles raiseOnCall start (later ++ earlier)) :
    Dwindles raiseOnCall start earlier :=
  ⟨dwindles.answered.of_append, fun exchange member =>
    dwindles.calm exchange (List.mem_append_right _ member)⟩

theorem serves {exchange : Exchange Backend}
    (dwindles : Dwindles raiseOnCall start (exchange :: earlier)) :
    Serves (fleetAt raiseOnCall start earlier) exchange.query exchange.answer
      (fleetAt raiseOnCall start (exchange :: earlier)) := by
  have served := respond_serves exchange.query ((peer raiseOnCall).replay start earlier)
  rw [dwindles.answered.1]
  exact served

theorem shrinks (dwindles : Dwindles raiseOnCall start (later ++ earlier)) :
    Shrinks (fleetAt raiseOnCall start earlier) (fleetAt raiseOnCall start (later ++ earlier)) := by
  induction later with
  | nil => exact Shrinks.refl _
  | cons exchange later ih =>
      have last := dwindles.serves.shrinks (dwindles.calm exchange List.mem_cons_self)
      have whole : Dwindles raiseOnCall start ([exchange] ++ (later ++ earlier)) := dwindles
      exact (ih whole.of_append).trans last

theorem shrinks_start (dwindles : Dwindles raiseOnCall start earlier) :
    Shrinks start.fleet (fleetAt raiseOnCall start earlier) := by
  have whole : Dwindles raiseOnCall start (earlier ++ []) := by rwa [List.append_nil]
  have shrinks := whole.shrinks
  rw [List.append_nil] at shrinks
  exact shrinks

theorem listed (dwindles : Dwindles raiseOnCall start earlier)
    (found : ⟨.list host kind partition, .ok resources⟩ ∈ earlier.map Exchange.reply) :
    ∃ after before, earlier = after ++ before ∧
      resources = ((fleetAt raiseOnCall start before).host host).listing kind partition := by
  obtain ⟨exchange, member, same⟩ := List.mem_map.mp found
  obtain ⟨after, before, rfl⟩ := List.append_of_mem member
  refine ⟨after ++ [exchange], before, by simp, ?_⟩
  have serves := dwindles.of_append.serves
  obtain ⟨_, _, query, answer⟩ := exchange
  cases same
  exact serves.2 resources rfl

theorem mem_of_listed (dwindles : Dwindles raiseOnCall start earlier)
    (found : ⟨.list host kind partition, .ok resources⟩ ∈ earlier.map Exchange.reply)
    {object : Placed} (left : object ∈ ((fleetAt raiseOnCall start earlier).host host).objects)
    (same : object.resource.kind = kind) (shown : object.listedIn = partition) :
    object.resource ∈ resources := by
  -- Nothing was added since the listing, so what is left now was there to be shown.
  obtain ⟨after, before, rfl, rfl⟩ := dwindles.listed found
  exact Host.mem_listing_iff.mpr
    ⟨object, (dwindles.shrinks.objects host).subset left, rfl, same, shown⟩

theorem of_mem_listed (dwindles : Dwindles raiseOnCall start earlier)
    (found : ⟨.list host kind partition, .ok resources⟩ ∈ earlier.map Exchange.reply)
    {resource : Resource} (member : resource ∈ resources) :
    ∃ object ∈ (start.fleet.host host).objects,
      object.resource = resource ∧ object.resource.kind = kind ∧ object.listedIn = partition := by
  obtain ⟨after, before, rfl, rfl⟩ := dwindles.listed found
  obtain ⟨object, shown, rest⟩ := Host.mem_listing_iff.mp member
  exact ⟨object, (dwindles.of_append.shrinks_start.objects host).subset shown, rest⟩

theorem subset_of_listed {exchange : Exchange Backend} {former : List Resource}
    (dwindles : Dwindles raiseOnCall start (exchange :: earlier))
    (last : exchange.reply = ⟨.list host kind partition, .ok resources⟩)
    (found : ⟨.list host kind partition, .ok former⟩ ∈ earlier.map Exchange.reply) :
    resources ⊆ former := by
  intro resource member
  have serves := dwindles.serves
  obtain ⟨_, _, query, answer⟩ := exchange
  cases last
  rw [serves.2 resources rfl] at member
  obtain ⟨object, left, rfl, same, shown⟩ := Host.mem_listing_iff.mp member
  have whole : Dwindles raiseOnCall start ([_] ++ earlier) := dwindles
  exact whole.of_append.mem_of_listed found left same shown

theorem not_holds (dwindles : Dwindles raiseOnCall start earlier)
    (candid : ∀ turn ∈ (peer raiseOnCall).turns start earlier, turn.Candid)
    {resource : Resource} {answer : Except DeviceError Unit}
    (gone : answer = .ok () ∨ ∃ source, answer = .error source ∧ source.isNotFound)
    (found : ⟨.delete host resource, answer⟩ ∈ earlier.map Exchange.reply) :
    ((fleetAt raiseOnCall start earlier).host host).holds resource = false := by
  obtain ⟨exchange, member, same⟩ := List.mem_map.mp found
  obtain ⟨after, before, rfl⟩ := List.append_of_mem member
  have absent : ((fleetAt raiseOnCall start (exchange :: before)).host host).holds resource =
      false := by
    obtain rfl | ⟨source, rfl, notFound⟩ := gone
    · have serves := dwindles.of_append.serves
      obtain ⟨_, _, query, answer⟩ := exchange
      cases same
      rw [serves.2 rfl]
      exact removed_not_holds _ host resource
    · have truth := candid _ (Peer.mem_turns_iff.mpr ⟨after, exchange, before, rfl, rfl⟩)
      exact truth host resource source same notFound
  exact dwindles.shrinks.not_holds absent

end Dwindles

end Estate

end Tenancy
