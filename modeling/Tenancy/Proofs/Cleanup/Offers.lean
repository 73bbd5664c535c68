import Tenancy.Proofs.Cleanup.Containment
import Tenancy.Proofs.Cleanup.Ports
import Tenancy.Proofs.Cleanup.Tags
import Tenancy.Proofs.Teardown.Rereading

/-!
Ports over a series of cleanups. An object that holds a port is deleted by a teardown that offered
the port first, unless this teardown failed to list the object's kind for its ports and listed it
again without failing. Then the failure comes to nobody's notice, and the port may never be offered.
-/

namespace Tenancy

theorem Trail.flatMap_eq_cut {I : Interface} {τ : Type} {entries : List τ} {parts : τ → Trail I}
    {before after : Trail I} {sight : Sight I}
    (cut : entries.flatMap parts = before ++ sight :: after) :
    ∃ entry ∈ entries, ∃ first last, parts entry = first ++ sight :: last ∧ first <:+ before := by
  induction entries generalizing before with
  | nil => simp at cut
  | cons entry entries ih =>
      rw [List.flatMap_cons] at cut
      obtain ⟨middle, rfl, rest⟩ | ⟨middle, same, -⟩ := Trail.append_eq_cut.mp cut
      · obtain ⟨own, member, first, last, same, late⟩ := ih rest
        exact ⟨own, List.mem_cons_of_mem _ member, first, last, same,
          late.trans (List.suffix_append _ _)⟩
      · exact ⟨entry, List.mem_cons_self, before, middle, same, List.suffix_rfl⟩

theorem Exchange.cut_of_sublist {I : Interface} {calls : List (Exchange I)}
    {first second : List ((query : I.Query) × I.Answer query)}
    {reply : (query : I.Query) × I.Answer query}
    (within : (first ++ reply :: second).Sublist (calls.map Exchange.reply).reverse) :
    ∃ later call earlier, calls = later ++ call :: earlier ∧ call.reply = reply ∧
      first.Sublist (earlier.map Exchange.reply).reverse ∧
      second.Sublist (later.map Exchange.reply).reverse := by
  obtain ⟨lead, tail, cut, early, late⟩ := List.append_sublist_iff.mp within
  obtain ⟨front, back, rfl, member, rest⟩ := List.cons_sublist_iff.mp late
  obtain ⟨before, after, rfl⟩ := List.append_of_mem member
  have whole : calls.map Exchange.reply =
      (after ++ back).reverse ++ reply :: (lead ++ before).reverse := by
    rw [← List.reverse_inj, cut]
    simp
  obtain ⟨later, others, rfl, recent, old⟩ := List.map_eq_append_iff.mp whole
  obtain ⟨call, earlier, rfl, same, oldest⟩ := List.map_eq_cons_iff.mp old
  refine ⟨later, call, earlier, rfl, same, ?_, ?_⟩
  · rw [oldest, List.reverse_reverse]
    exact early.trans (List.sublist_append_left _ _)
  · rw [recent, List.reverse_reverse]
    exact rest.trans (List.sublist_append_right _ _)

namespace Cleanup

open Teardown

def offers (calls : List (Exchange Backend)) : List String :=
  calls.filterMap fun call =>
    match call.query with
    | .releasePort port => some port
    | _ => none

theorem offers_subset {calls all : List (Exchange Backend)} (within : calls ⊆ all) :
    offers calls ⊆ offers all := by
  intro port found
  obtain ⟨call, member, same⟩ := List.mem_filterMap.mp found
  exact List.mem_filterMap.mpr ⟨call, within member, same⟩

theorem mem_offers_of_reply {calls : List (Exchange Backend)} {port : String}
    {answer : Except CallbackError Unit}
    (found : ⟨.releasePort port, answer⟩ ∈ calls.map Exchange.reply) : port ∈ offers calls := by
  obtain ⟨⟨time, asker, query, given⟩, member, same⟩ := List.mem_map.mp found
  cases same
  exact List.mem_filterMap.mpr ⟨_, member, rfl⟩

section

variable {shares : List Share} {part : Share → Trail Backend} {policy : Policy}
  {calls later earlier : List (Exchange Backend)} {exchange : Exchange Backend}

theorem Recorded.subset (recorded : Recorded shares part calls policy) :
    ∀ share ∈ shares, (part share).answers ⊆ calls.map Exchange.reply := by
  intro share member
  cases policy with
  | abortOnFirstFailure =>
      have whole : (part share).answers ⊆ Trail.answers (shares.flatMap part) :=
        Trail.answers_subset fun _ found => List.mem_flatMap_of_mem member found
      rw [← recorded] at whole
      exact fun reply found => List.mem_reverse.mp (whole found)
  | bestEffort maxParallel =>
      obtain ⟨place, found⟩ := List.mem_iff_getElem?.mp member
      rw [← recorded.2 place share found]
      exact Exchange.reverse_replies_subset _ _

/-- Each call stands on the share of one host, which has seen no more before than was recorded
earlier, in the same order. -/
theorem Recorded.cut (recorded : Recorded shares part (later ++ exchange :: earlier) policy) :
    ∃ share ∈ shares, ∃ first last : Trail Backend,
      part share = first ++ .asked exchange.query exchange.answer :: last ∧
        first.answers.Sublist (earlier.map Exchange.reply).reverse := by
  cases policy with
  | abortOnFirstFailure =>
      have answers : Trail.answers (shares.flatMap part) =
          (earlier.map Exchange.reply).reverse ++
            exchange.reply :: (later.map Exchange.reply).reverse := by
        rw [← recorded]
        simp
      obtain ⟨before, after, cut, seen, -⟩ := Trail.exists_of_answers answers
      obtain ⟨share, member, first, last, same, lead, rfl⟩ := Trail.flatMap_eq_cut cut
      refine ⟨share, member, first, last, same, ?_⟩
      rw [← seen, Trail.answers_append]
      exact List.sublist_append_right _ _
  | bestEffort maxParallel =>
      obtain ⟨known, parts⟩ := recorded
      have inside : exchange.asker < shares.length := known exchange (by simp)
      have own := parts exchange.asker shares[exchange.asker] (List.getElem?_eq_getElem inside)
      have answers : (part shares[exchange.asker]).answers =
          Exchange.repliesTo exchange.asker earlier ++
            exchange.reply :: Exchange.repliesTo exchange.asker later := by
        rw [← own]
        simp [Exchange.repliesTo]
      obtain ⟨first, last, cut, seen, -⟩ := Trail.exists_of_answers answers
      refine ⟨_, List.getElem_mem inside, first, last, cut, ?_⟩
      rw [seen]
      exact (List.filter_sublist.map Exchange.reply).reverse

end

/-- The object's kind could not be listed at first, and then a listing showed the object. -/
def Overlooked (host partition : String) (resource : Resource) (calls : List (Exchange Backend)) :
    Prop :=
  ∃ recent second between first old source resources,
    calls = recent ++ second :: (between ++ first :: old) ∧
    first.reply = ⟨.list host resource.kind partition, .error source⟩ ∧
    second.reply = ⟨.list host resource.kind partition, .ok resources⟩ ∧ resource ∈ resources

namespace Pass

variable {pass : Pass} {fleet : Fleet} {later earlier : List (Exchange Backend)}
  {exchange : Exchange Backend} {host : String} {resource : Resource}

theorem shared_out (pass : Pass) (fleet : Fleet) :
    ∃ shares, SharedOut pass.service.hosts pass.policy (pass.run fleet).1 []
        (pass.exchanges fleet) shares ∧
      ∀ share ∈ shares, share.Taken pass.retry pass.partition := by
  obtain ⟨calls, grown, shares, shared, taken⟩ := offers_ports pass.retry pass.partition
    pass.service.hosts pass.policy (Estate.peer pass.raiseOnCall) (pass.surroundings fleet)
  have same : pass.exchanges fleet = calls := grown.trans (List.append_nil calls)
  rw [same]
  exact ⟨shares, shared, fun share member => (taken share member).1⟩

theorem asks_in_order (cut : pass.exchanges fleet = later ++ exchange :: earlier) :
    ∃ (host : String) (seen : Trail Backend),
      (Teardown.run pass.retry host pass.partition).Asks seen exchange.query ∧
        seen.answers.Sublist (earlier.map Exchange.reply).reverse := by
  obtain ⟨shares, shared, taken⟩ := pass.shared_out fleet
  obtain ⟨share, member, first, last, same, within⟩ := (cut ▸ shared.later).cut
  have silent : share.before.answers = [] :=
    List.subset_nil.mp (shared.earlier.subset share member)
  have whole := taken share member
  rw [Share.Taken, same, ← List.append_assoc] at whole
  refine ⟨share.host, share.before ++ first, whole.asks, ?_⟩
  rwa [Trail.answers_append, silent, List.nil_append]

/-- An object that holds a port is deleted after an offer of its port, or it was overlooked. -/
theorem offered_or_overlooked (cut : pass.exchanges fleet = later ++ exchange :: earlier)
    (asked : exchange.query = .delete host resource) (bound : resource.kind ∈ Kind.portBound) :
    resource.name ∈ offers earlier ∨ Overlooked host pass.partition resource earlier := by
  obtain ⟨other, seen, asks, within⟩ := asks_in_order cut
  rw [asked] at asks
  obtain ⟨rfl, kind, resources, member, listed, read⟩ := Teardown.run_asks_delete asks bound
  have rest := cut.trans (List.append_cons later exchange earlier)
  have dwindles := pass.dwindles_of_cut rest
  have known : ⟨.list host kind pass.partition, .ok resources⟩ ∈ earlier.map Exchange.reply :=
    List.mem_reverse.mp (within.subset (Trail.mem_answers_iff.mpr listed))
  obtain rfl : resource.kind = kind := by
    obtain ⟨_, -, rfl, kind, -⟩ := dwindles.of_mem_listed known member
    exact kind
  obtain ⟨first, answer, middle, last, rfl, names⟩ := read bound
  simp only [Trail.answers_append, Trail.answers] at within
  obtain ⟨_, early, old, rfl, sameEarly, -, beyond⟩ := Exchange.cut_of_sublist within
  obtain ⟨recent, second, between, rfl, sameSecond, inside, -⟩ := Exchange.cut_of_sublist beyond
  cases answer with
  | error source =>
      exact .inr ⟨recent, second, between, early, old, source, resources, by simp, sameEarly,
        sameSecond, member⟩
  | ok former =>
      -- What the second listing shows was there to be shown by the first one.
      have whole : pass.exchanges fleet =
          (later ++ exchange :: recent) ++ second :: (between ++ early :: old) := by
        rw [cut]
        simp
      have shown := (Pass.dwindles_of_cut whole).subset_of_listed sameSecond
        (List.mem_map.mpr ⟨early, by simp, sameEarly⟩) member
      obtain ⟨given, offered⟩ := names resource shown
      have found : ⟨.releasePort resource.name, given⟩ ∈ between.map Exchange.reply :=
        List.mem_reverse.mp (inside.subset (Trail.mem_answers_iff.mpr offered))
      refine .inl (offers_subset ?_ (mem_offers_of_reply found))
      exact fun call member => by simp [member]

theorem shows_kind (pass : Pass) (fleet : Fleet) {trail : Trail Backend}
    (known : trail.answers ⊆ (pass.exchanges fleet).map Exchange.reply) :
    ∀ sight ∈ trail, sight.ShowsKind := by
  rintro sight member host kind partition resources rfl resource found
  obtain ⟨_, -, rfl, kind, -⟩ := (pass.dwindles fleet).of_mem_listed
    (known (Trail.mem_answers_iff.mpr member)) found
  exact kind

theorem surfaces (pass : Pass) (fleet : Fleet) :
    ∃ shares, SharedOut pass.service.hosts pass.policy (pass.run fleet).1 []
        (pass.exchanges fleet) shares ∧
      ∀ share ∈ shares, share.Taken pass.retry pass.partition ∧
        Surfaces share.host pass.partition (share.before ++ share.after) share.result := by
  obtain ⟨shares, shared, taken⟩ := pass.shared_out fleet
  refine ⟨shares, shared, fun share member => ⟨taken share member, ?_⟩⟩
  refine run_surfaces (pass.shows_kind fleet ?_) (taken share member)
  rw [Trail.answers_append, List.subset_nil.mp (shared.earlier.subset share member)]
  exact shared.later.subset share member

end Pass

structure PortDeletion (passes : List Pass) (fleet : Fleet) where
  before : List (Pass × Fleet)
  pass : Pass
  start : Fleet
  after : List (Pass × Fleet)
  turn : series passes fleet = before ++ (pass, start) :: after
  later : List (Exchange Backend)
  exchange : Exchange Backend
  earlier : List (Exchange Backend)
  cut : pass.exchanges start = later ++ exchange :: earlier
  host : String
  resource : Resource
  asked : exchange.query = .delete host resource
  bound : resource.kind ∈ Kind.portBound

namespace PortDeletion

variable {passes : List Pass} {fleet : Fleet}

/-- The port was offered before, in this pass or in one before it. -/
def Offered (deletion : PortDeletion passes fleet) : Prop :=
  deletion.resource.name ∈ offers deletion.earlier ∨
    ∃ entry ∈ deletion.before, deletion.resource.name ∈ offers (entry.1.exchanges entry.2)

/-- The port was never offered, for the pass passed over its kind when it could not be listed. -/
def Lost (deletion : PortDeletion passes fleet) : Prop :=
  ¬ deletion.Offered ∧
    Overlooked deletion.host deletion.pass.partition deletion.resource deletion.earlier

end PortDeletion

/-- In a series of cleanups, every object that holds a port is deleted after an offer of its port,
exactly if none is overlooked whose port was never offered before. A failed read surfaces if it comes
after the ports, and then before any object of the kind is deleted; a failed read for the ports does
not surface by itself. -/
theorem ports_offered_iff_none_lost (passes : List Pass) (fleet : Fleet) :
    ((∀ deletion : PortDeletion passes fleet, deletion.Offered) ↔
      ∀ deletion : PortDeletion passes fleet, ¬ deletion.Lost) ∧
    ∀ entry ∈ series passes fleet,
      ∃ shares, SharedOut entry.1.service.hosts entry.1.policy (entry.1.run entry.2).1 []
          (entry.1.exchanges entry.2) shares ∧
        ∀ share ∈ shares, share.Taken entry.1.retry entry.1.partition ∧
          Surfaces share.host entry.1.partition (share.before ++ share.after) share.result := by
  refine ⟨⟨fun offered deletion lost => lost.1 (offered deletion), fun safe deletion => ?_⟩,
    fun entry _ => entry.1.surfaces entry.2⟩
  by_contra unoffered
  obtain offered | overlooked := Pass.offered_or_overlooked deletion.cut deletion.asked
    deletion.bound
  · exact unoffered (.inl offered)
  · exact safe deletion ⟨unoffered, overlooked⟩

def momentaryFailure : Fault :=
  ⟨.list, none, some .selfIp, none, none, 0, some 1, ⟨.other, "busy", none, none, none⟩, false⟩

def addressedFleet : Fleet :=
  ⟨[("h1", ⟨["Project_t"], [⟨⟨.selfIp, "s", "Project_t", none⟩, "Project_t"⟩]⟩)]⟩

/-- A listing that fails for a moment goes unnoticed: the self ip is deleted and the partition
removed, and the port was never offered. -/
theorem deleted_with_port_never_offered :
    let pass := refusedPass [momentaryFailure]
    ("h1", .removed) ∈ pass.reported addressedFleet ∧
      ∃ deletion : PortDeletion [pass] addressedFleet, ¬ deletion.Offered := by
  intro pass
  have deleted : ("h1", ⟨.selfIp, "s", "Project_t", none⟩) ∈ pass.deletions addressedFleet := by
    decide +kernel
  have none : offers (pass.exchanges addressedFleet) = [] := by decide +kernel
  obtain ⟨exchange, member, asked⟩ := Pass.mem_deletions_iff.mp deleted
  obtain ⟨later, earlier, cut⟩ := List.append_of_mem member
  refine ⟨by decide +kernel, ⟨[], pass, addressedFleet, [], rfl, later, exchange, earlier, cut,
    "h1", _, asked, by decide⟩, ?_⟩
  rintro (offered | ⟨_, member, -⟩)
  · have all : earlier ⊆ pass.exchanges addressedFleet := by
      rw [cut]
      exact fun call found => by simp [found]
    have found := offers_subset all offered
    rw [none] at found
    cases found
  · cases member

end Cleanup

end Tenancy
