import Tenancy.Proofs.Cleanup.Pass
import Tenancy.Proofs.Estate.Candor

/-!
Cleanups are safe at every point of every run: they take nothing but their own tenant's partition,
and a route domain or a folder only goes when nothing is left that it carries.
-/

namespace Tenancy

namespace Host

theorem holds_of_mem {host : Host} {resource : Resource} {object : Placed}
    (member : object ∈ host.objects) (answers : answersTo resource object)
    (placed : resource.kind ≠ .folder) : host.holds resource := by
  rw [holds, if_neg placed]
  exact List.any_eq_true.mpr ⟨object, member, answers⟩

end Host

namespace Estate

theorem answersTo_of_removed {fleet : Fleet} {host name : String} {resource : Resource}
    {object : Placed} (before : object ∈ (fleet.host name).objects)
    (after : object ∉ ((removed fleet host resource).host name).objects) :
    name = host ∧ Host.answersTo resource object := by
  rw [host_removed] at after
  split at after
  next same =>
    subst same
    refine ⟨rfl, ?_⟩
    unfold Host.remove at after
    split at after
    · exact absurd before after
    · simpa [before] using after
  next => exact absurd before after

theorem folder_of_removed {fleet : Fleet} {host name partition : String} {resource : Resource}
    (before : partition ∈ (fleet.host name).folders)
    (after : partition ∉ ((removed fleet host resource).host name).folders) :
    name = host ∧ resource.kind = .folder := by
  rw [host_removed] at after
  split at after
  next same =>
    unfold Host.remove at after
    split at after
    next folder => exact ⟨same, folder⟩
    next => exact absurd before (same ▸ after)
  next => exact absurd before after

theorem Serves.removed_of_ne {before after : Fleet} {request : Request} {answer : request.Answer}
    (serves : Serves before request answer after) (calm : request.operation ≠ .create)
    (changed : after ≠ before) :
    ∃ host resource, request = .delete host resource ∧ after = removed before host resource := by
  cases request with
  | create => exact absurd rfl calm
  | probe | releasePort | releaseTag => exact absurd serves changed
  | list => exact absurd serves.1 changed
  | delete host resource => exact ⟨host, resource, rfl, serves.1.resolve_left changed⟩

theorem exists_loss {raiseOnCall : Option Nat} {start : Estate}
    {earlier : List (Exchange Backend)} (Holds : Fleet → Prop) (first : Holds start.fleet)
    (lost : ¬ Holds (fleetAt raiseOnCall start earlier)) :
    ∃ after exchange before, earlier = after ++ exchange :: before ∧
      Holds (fleetAt raiseOnCall start before) ∧
        ¬ Holds (fleetAt raiseOnCall start (exchange :: before)) := by
  induction earlier with
  | nil => exact absurd first lost
  | cons exchange earlier ih =>
      by_cases before : Holds (fleetAt raiseOnCall start earlier)
      · exact ⟨[], exchange, earlier, rfl, before, lost⟩
      · obtain ⟨after, own, past, rfl, kept⟩ := ih before
        exact ⟨exchange :: after, own, past, rfl, kept⟩

end Estate

namespace Cleanup

open Fleet Teardown

/-- What a cleanup of a partition does to the fleet at one of its turns, since it started. -/
structure Spares (partition : String) (hosts : List String) (start : Fleet)
    (turn : Turn Backend Estate) : Prop where
  reduced : Reduced partition hosts start turn.after.fleet
  routeDomains : ∀ host, ∀ object ∈ (turn.before.fleet.host host).objects,
    object ∉ (turn.after.fleet.host host).objects → object.resource.kind = .routeDomain →
      Lacks turn.before.fleet host partition Kind.drainOrder
  folder : ∀ host, partition ∈ (turn.before.fleet.host host).folders →
    partition ∉ (turn.after.fleet.host host).folders →
      Lacks turn.before.fleet host partition (Kind.loadBearing ++ Kind.removable)

/-- What one exchange of a cleanup takes from the fleet, and what is gone before it. -/
inductive Takes (partition : String) (hosts : List String) (candid : Prop)
    (before after : Fleet) : Prop
  | nothing (same : after = before)
  | object {host : String} {resource : Resource} (inside : host ∈ hosts)
      (own : resource.partition = partition) (drained : resource.kind ∈ Kind.drainOrder)
      (removed : after = Estate.removed before host resource)
  | routeDomain {host name : String} (inside : host ∈ hosts)
      (last : candid → Lacks before host partition Kind.drainOrder)
      (removed : after = Estate.removed before host (.routeDomain partition name))
  | folder {host : String} (inside : host ∈ hosts)
      (last : candid → Lacks before host partition (Kind.loadBearing ++ Kind.removable))
      (removed : after = Estate.removed before host (.folder partition))

namespace Takes

variable {partition : String} {hosts : List String} {candid : Prop} {before after : Fleet}
  {host : String}

theorem reduced (takes : Takes partition hosts candid before after) :
    Reduced partition hosts before after := by
  cases takes with
  | nothing same => exact same ▸ Reduced.refl partition hosts before
  | object inside own drained removed =>
      rw [removed]
      exact Estate.removed_reduced before inside (.inr ⟨own, List.mem_append_left _ drained⟩)
  | routeDomain inside last removed =>
      rw [removed]
      exact Estate.removed_reduced before inside
        (.inr ⟨rfl, List.mem_append_right _ (List.mem_singleton_self _)⟩)
  | folder inside last removed =>
      rw [removed]
      exact Estate.removed_reduced before inside (.inl rfl)

theorem lacks_of_routeDomain (takes : Takes partition hosts candid before after) (truth : candid)
    {object : Placed} (there : object ∈ (before.host host).objects)
    (gone : object ∉ (after.host host).objects) (domain : object.resource.kind = .routeDomain) :
    Lacks before host partition Kind.drainOrder := by
  cases takes with
  | nothing same => exact absurd there (same ▸ gone)
  | object _ _ drained removed =>
      obtain ⟨-, answers⟩ := Estate.answersTo_of_removed there (removed ▸ gone)
      rw [← (Host.answersTo_iff.mp answers).1, domain] at drained
      exact absurd drained (by decide)
  | routeDomain _ last removed =>
      obtain ⟨rfl, -⟩ := Estate.answersTo_of_removed there (removed ▸ gone)
      exact last truth
  | folder _ _ removed =>
      obtain ⟨-, answers⟩ := Estate.answersTo_of_removed there (removed ▸ gone)
      have folder := (Host.answersTo_iff.mp answers).1
      rw [domain] at folder
      cases folder

theorem lacks_of_folder (takes : Takes partition hosts candid before after) (truth : candid)
    (there : partition ∈ (before.host host).folders)
    (gone : partition ∉ (after.host host).folders) :
    Lacks before host partition (Kind.loadBearing ++ Kind.removable) := by
  cases takes with
  | nothing same => exact absurd there (same ▸ gone)
  | object _ _ drained removed =>
      obtain ⟨-, folder⟩ := Estate.folder_of_removed there (removed ▸ gone)
      rw [folder] at drained
      exact absurd drained (by decide)
  | routeDomain _ _ removed =>
      obtain ⟨-, folder⟩ := Estate.folder_of_removed there (removed ▸ gone)
      cases folder
  | folder _ last removed =>
      obtain ⟨rfl, -⟩ := Estate.folder_of_removed there (removed ▸ gone)
      exact last truth

end Takes

namespace Orderly

variable {partition : String} {hosts : List String} {fine : Prop} {raiseOnCall : Option Nat}
  {start : Estate} {exchanges later earlier : List (Exchange Backend)}
  {exchange : Exchange Backend} {host : String} {kind : Kind} {seen : Trail Backend}

theorem of_mem_listed (orderly : Orderly partition hosts fine raiseOnCall start exchanges)
    (own : start.fleet.ListsOwnOn partition hosts) (inside : host ∈ hosts)
    (cut : exchanges = later ++ earlier)
    (known : seen.answers ⊆ earlier.map Exchange.reply) {resources : List Resource}
    (listed : .asked (.list host kind partition) (.ok resources) ∈ seen)
    {resource : Resource} (member : resource ∈ resources) :
    resource.kind = kind ∧ resource.partition = partition := by
  obtain ⟨object, placed, rfl, kind, shown⟩ := (orderly.dwindles_of_cut cut).of_mem_listed
    (known (Trail.mem_answers_iff.mpr listed)) member
  exact ⟨kind, (own host inside object placed).mp shown⟩

/-- A listing all of whose objects were taken for gone leaves nothing of its kind. The object to
delete need only have the name of the listed one. -/
theorem lacks_of_listed (orderly : Orderly partition hosts fine raiseOnCall start exchanges)
    (own : start.fleet.ListsOwnOn partition hosts) (inside : host ∈ hosts)
    (cut : exchanges = later ++ earlier)
    (candid : ∀ turn ∈ (Estate.peer raiseOnCall).turns start exchanges, turn.Candid)
    (known : seen.answers ⊆ earlier.map Exchange.reply) (placed : kind ≠ .folder)
    {resources : List Resource}
    (listed : .asked (.list host kind partition) (.ok resources) ∈ seen)
    (gone : ∀ resource ∈ resources, ∃ target answer, target.kind = kind ∧
      target.partition = partition ∧ target.name = resource.name ∧ isGone answer ∧
        .asked (.delete host target) answer ∈ seen) :
    Lacks (Estate.fleetAt raiseOnCall start earlier) host partition [kind] := by
  have dwindles := orderly.dwindles_of_cut cut
  intro object left here same
  obtain rfl : object.resource.kind = kind := List.mem_singleton.mp same
  have shown := ((own.of_shrinks dwindles.shrinks_start) host inside object left).mpr here
  have member := dwindles.mem_of_listed (known (Trail.mem_answers_iff.mpr listed)) left rfl shown
  obtain ⟨target, answer, kind, partition, name, isGone, deleted⟩ := gone _ member
  have truth (turn) (passed : turn ∈ (Estate.peer raiseOnCall).turns start earlier) :
      turn.Candid := by
    obtain ⟨after, own, before, rfl, rfl⟩ := Peer.mem_turns_iff.mp passed
    exact candid _ (Peer.mem_turns_iff.mpr ⟨later ++ after, own, before, by simp [cut], rfl⟩)
  have absent := dwindles.not_holds truth (isGone_iff.mp isGone)
    (known (Trail.mem_answers_iff.mpr deleted))
  have answers : Host.answersTo target object :=
    Host.answersTo_iff.mpr ⟨kind.symm, here.trans partition.symm, name.symm⟩
  have present := Host.holds_of_mem left answers (kind ▸ placed)
  exact Bool.false_ne_true (absent.symm.trans present)

theorem lacks_of_cleared (orderly : Orderly partition hosts fine raiseOnCall start exchanges)
    (own : start.fleet.ListsOwnOn partition hosts) (inside : host ∈ hosts)
    (cut : exchanges = later ++ earlier)
    (candid : ∀ turn ∈ (Estate.peer raiseOnCall).turns start exchanges, turn.Candid)
    (known : seen.answers ⊆ earlier.map Exchange.reply) (placed : kind ≠ .folder)
    (cleared : Cleared host partition seen kind) :
    Lacks (Estate.fleetAt raiseOnCall start earlier) host partition [kind] := by
  obtain ⟨resources, listed, gone⟩ := cleared
  refine orderly.lacks_of_listed own inside cut candid known placed listed
    fun resource member => ?_
  obtain ⟨same, here⟩ := orderly.of_mem_listed own inside cut known listed member
  obtain ⟨answer, isGone, deleted⟩ := gone resource member
  exact ⟨resource, answer, same, here, rfl, isGone, deleted⟩

theorem lacks_of_domainsCleared
    (orderly : Orderly partition hosts fine raiseOnCall start exchanges)
    (own : start.fleet.ListsOwnOn partition hosts) (inside : host ∈ hosts)
    (cut : exchanges = later ++ earlier)
    (candid : ∀ turn ∈ (Estate.peer raiseOnCall).turns start exchanges, turn.Candid)
    (known : seen.answers ⊆ earlier.map Exchange.reply)
    (cleared : DomainsCleared host partition seen) :
    Lacks (Estate.fleetAt raiseOnCall start earlier) host partition [.routeDomain] := by
  obtain ⟨resources, listed, gone⟩ := cleared
  refine orderly.lacks_of_listed own inside cut candid known (by decide) listed
    fun resource member => ?_
  obtain ⟨answer, isGone, deleted⟩ := gone resource member
  exact ⟨.routeDomain partition resource.name, answer, rfl, rfl, rfl, isGone, deleted⟩

theorem takes (orderly : Orderly partition hosts fine raiseOnCall start exchanges)
    (own : start.fleet.ListsOwnOn partition hosts)
    (cut : exchanges = later ++ exchange :: earlier) :
    Takes partition hosts
      (∀ turn ∈ (Estate.peer raiseOnCall).turns start exchanges, turn.Candid)
      (Estate.fleetAt raiseOnCall start earlier)
      (Estate.fleetAt raiseOnCall start (exchange :: earlier)) := by
  have dwindles := orderly.dwindles_of_cut cut
  have rest := cut.trans (List.append_cons later exchange earlier)
  by_cases same : Estate.fleetAt raiseOnCall start (exchange :: earlier) =
      Estate.fleetAt raiseOnCall start earlier
  · exact .nothing same
  -- Only a deletion changes the fleet, and one is asked for only when its time has come.
  obtain ⟨host, resource, asked, removed⟩ := dwindles.serves.removed_of_ne
    (dwindles.calm exchange List.mem_cons_self) same
  obtain ⟨host, inside, seen, known, due⟩ := orderly.due cut
  rw [asked] at due
  have lacks {kinds : List Kind} (placed : .folder ∉ kinds)
      (cleared : ∀ kind ∈ kinds, Cleared host partition seen kind)
      (candid : ∀ turn ∈ (Estate.peer raiseOnCall).turns start exchanges, turn.Candid) :
      Lacks (Estate.fleetAt raiseOnCall start earlier) host partition kinds :=
    lacks_iff_forall.mpr fun kind found => orderly.lacks_of_cleared own inside rest candid
      known
      (fun folder => placed (folder ▸ found)) (cleared kind found)
  cases due with
  | object drained listed found =>
      obtain ⟨same, partition⟩ := orderly.of_mem_listed own inside rest known listed found
      exact .object inside partition (same ▸ drained) removed
  | routeDomain name drained =>
      exact .routeDomain inside (lacks (by decide) drained) removed
  | folder idle drained domains =>
      refine .folder inside (fun candid => ?_) removed
      rw [Kind.removable, lacks_append, lacks_append]
      exact ⟨lacks (by decide) idle candid, lacks (by decide) drained candid,
        orderly.lacks_of_domainsCleared own inside rest candid known domains⟩

theorem fleetAt_reduced_on (orderly : Orderly partition hosts fine raiseOnCall start exchanges)
    (own : start.fleet.ListsOwnOn partition hosts) (cut : exchanges = later ++ earlier) :
    Reduced partition hosts start.fleet (Estate.fleetAt raiseOnCall start earlier) := by
  induction earlier generalizing later with
  | nil => exact Reduced.refl _ _ _
  | cons exchange earlier ih =>
      have first := ih (cut.trans (List.append_cons later exchange earlier))
      exact first.trans (orderly.takes own cut).reduced

theorem fleetAt_reduced (orderly : Orderly partition hosts fine raiseOnCall start exchanges)
    (own : start.fleet.ListsOwn) (cut : exchanges = later ++ earlier) :
    Reduced partition hosts start.fleet (Estate.fleetAt raiseOnCall start earlier) :=
  orderly.fleetAt_reduced_on own.on cut

end Orderly

namespace Pass

variable {pass : Pass} {fleet : Fleet} {later earlier : List (Exchange Backend)}
  {exchange : Exchange Backend} {host : String} {kind : Kind} {seen : Trail Backend}

def fleetAt (pass : Pass) (fleet : Fleet) (earlier : List (Exchange Backend)) : Fleet :=
  Estate.fleetAt pass.raiseOnCall (pass.estate fleet) earlier

theorem dwindles_of_cut (cut : pass.exchanges fleet = later ++ earlier) :
    Estate.Dwindles pass.raiseOnCall (pass.estate fleet) earlier :=
  (pass.orderly fleet).dwindles_of_cut cut

theorem exists_loss (Holds : Fleet → Prop) (start : Holds fleet)
    (lost : ¬ Holds (pass.fleetAt fleet earlier)) :
    ∃ after exchange before, earlier = after ++ exchange :: before ∧
      Holds (pass.fleetAt fleet before) ∧ ¬ Holds (pass.fleetAt fleet (exchange :: before)) :=
  Estate.exists_loss Holds start lost

theorem takes (own : fleet.ListsOwn) (cut : pass.exchanges fleet = later ++ exchange :: earlier) :
    Takes pass.partition pass.service.hosts (∀ turn ∈ pass.turns fleet, turn.Candid)
      (pass.fleetAt fleet earlier) (pass.fleetAt fleet (exchange :: earlier)) :=
  (pass.orderly fleet).takes own.on cut

theorem fleetAt_reduced (own : fleet.ListsOwn)
    (cut : pass.exchanges fleet = later ++ earlier) :
    Reduced pass.partition pass.service.hosts fleet (pass.fleetAt fleet earlier) :=
  (pass.orderly fleet).fleetAt_reduced own cut

theorem spares (own : fleet.ListsOwn) (candid : ∀ turn ∈ pass.turns fleet, turn.Candid)
    {turn : Turn Backend Estate} (passed : turn ∈ pass.turns fleet) :
    Spares pass.partition pass.service.hosts fleet turn := by
  obtain ⟨later, exchange, earlier, cut, rfl⟩ := Peer.mem_turns_iff.mp passed
  have taken := takes own cut
  exact ⟨fleetAt_reduced own cut,
    fun _ _ there gone domain => taken.lacks_of_routeDomain candid there gone domain,
    fun _ there gone => taken.lacks_of_folder candid there gone⟩

end Pass

theorem fst_mem_of_series {passes : List Pass} {fleet : Fleet} :
    ∀ entry ∈ series passes fleet, entry.1 ∈ passes := by
  induction passes generalizing fleet with
  | nil => simp [series]
  | cons pass passes ih =>
      rw [series, List.forall_mem_cons]
      exact ⟨List.mem_cons_self, fun entry member => List.mem_cons_of_mem _ (ih entry member)⟩

theorem listsOwn_of_series {passes : List Pass} {fleet : Fleet} (own : fleet.ListsOwn) :
    ∀ entry ∈ series passes fleet, entry.2.ListsOwn := by
  induction passes generalizing fleet with
  | nil => simp [series]
  | cons pass passes ih =>
      rw [series, List.forall_mem_cons]
      exact ⟨own, ih (own.of_shrinks (pass.fleetAfter_shrinks fleet))⟩

/-- However a series of cleanups goes, with whatever faults, cancellations and policies: each of
them takes nothing from the fleet but its tenant's folder and what it may remove from it, on its own
hosts; a route domain goes only when nothing is left that may refer to it, and the folder only when
the partition is empty. -/
theorem every_turn_spares {passes : List Pass} {fleet : Fleet} (own : fleet.ListsOwn)
    (candid : ∀ entry ∈ series passes fleet, ∀ turn ∈ entry.1.turns entry.2, turn.Candid) :
    ∀ entry ∈ series passes fleet,
      (∀ turn ∈ entry.1.turns entry.2,
        Spares entry.1.partition entry.1.service.hosts entry.2 turn) ∧
      Reduced entry.1.partition entry.1.service.hosts entry.2 (entry.1.fleetAfter entry.2) := by
  intro entry member
  have listed := listsOwn_of_series own entry member
  constructor
  · intro turn passed
    exact Pass.spares listed (candid entry member) passed
  · rw [entry.1.fleetAfter_eq]
    exact Pass.fleetAt_reduced listed (List.nil_append _).symm

def smallFleet : Fleet :=
  ⟨[("h1", ⟨["Project_t", "Common"],
      [⟨⟨.vlan, "v", "Project_t", some 17⟩, "Project_t"⟩,
        ⟨.routeDomain "Project_t" "rd", "Project_t"⟩,
        ⟨⟨.snat, "s", "Common", none⟩, "Common"⟩]⟩),
    ("h2", ⟨[], []⟩)]⟩

/-- A deletion that succeeds behind the back of an expired session. -/
def expiry : Fault :=
  ⟨.delete, some "h1", some .vlan, none, none, 0, some 1, ⟨.authExpired, "", none, none, none⟩,
    true⟩

def expiringPass (policy : Policy) : Pass :=
  ⟨.default, .default, ⟨"t", none, [⟨"h1"⟩, ⟨"h2"⟩]⟩, policy, some 9, [], [expiry], 0,
    some ⟨false, true⟩, [⟨5, .raise⟩]⟩

theorem every_turn_spares_smallFleet :
    let passes := [expiringPass .abortOnFirstFailure, expiringPass (.bestEffort 2)]
    smallFleet.ListsOwn ∧
      (∀ entry ∈ series passes smallFleet, ∀ turn ∈ entry.1.turns entry.2, turn.Candid) ∧
      ∀ entry ∈ series passes smallFleet,
        (∀ turn ∈ entry.1.turns entry.2,
          Spares entry.1.partition entry.1.service.hosts entry.2 turn) ∧
        Reduced entry.1.partition entry.1.service.hosts entry.2 (entry.1.fleetAfter entry.2) := by
  intro passes
  have own : smallFleet.ListsOwn := listsOwn_of_hosts (by decide)
  have candid : ∀ entry ∈ series passes smallFleet,
      ∀ turn ∈ entry.1.turns entry.2, turn.Candid := by
    intro entry member
    refine Estate.candid_of_honest (entry.1.since entry.2).answered ?_
    have honest : ∀ pass ∈ passes, ∀ fault ∈ pass.faults, fault.IsHonest := by decide
    exact honest entry.1 (fst_mem_of_series entry member)
  exact ⟨own, candid, every_turn_spares own candid⟩

end Cleanup

end Tenancy
