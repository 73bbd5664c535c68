import Tenancy.Proofs.Cleanup.Convergence
import Tenancy.Proofs.Cleanup.Tags

/-!
Whether a cleanup keeps to its tenant's partition when listings show objects of others. What is
drained is deleted under the partition that its listing gives, route domains and the folder under
the tenant's own. So a cleanup is contained exactly if the listings of an open partition show no
strays among what is drained.
-/

namespace Tenancy

theorem Host.remove_others (host : Host) {resource : Resource} {partition : String}
    (own : resource.partition = partition)
    (folder : resource.kind = .folder → resource = .folder partition) :
    (host.remove resource).objects.filter (·.resource.partition ≠ partition) =
        host.objects.filter (·.resource.partition ≠ partition) ∧
      (host.remove resource).folders.filter (· ≠ partition) =
        host.folders.filter (· ≠ partition) := by
  unfold remove
  split
  next kind =>
    obtain rfl := folder kind
    refine ⟨rfl, ?_⟩
    rw [List.filter_filter]
    refine List.filter_congr fun name _ => ?_
    by_cases same : name = partition <;> simp [Resource.folder, same]
  next =>
    refine ⟨?_, rfl⟩
    rw [List.filter_filter]
    refine List.filter_congr fun object _ => ?_
    cases answers : answersTo resource object with
    | false => simp
    | true => simp [(answersTo_iff.mp answers).2.1, own]

namespace Cleanup

open Fleet Teardown

namespace Pass

variable {pass : Pass} {fleet : Fleet} {later earlier : List (Exchange Backend)}
  {host : String} {resource : Resource}

def deletions (pass : Pass) (fleet : Fleet) : List (String × Resource) :=
  (pass.exchanges fleet).filterMap fun exchange =>
    match exchange.query with
    | .delete host resource => some (host, resource)
    | _ => none

theorem mem_deletions_iff : (host, resource) ∈ pass.deletions fleet ↔
    ∃ exchange ∈ pass.exchanges fleet, exchange.query = .delete host resource := by
  rw [deletions, List.mem_filterMap]
  refine exists_congr fun exchange => and_congr_right fun _ => ?_
  constructor
  · intro same
    split at same
    next asked =>
      cases same
      exact asked
    next => cases same
  · intro asked
    rw [asked]

structure Contained (pass : Pass) (fleet : Fleet) (host : String) : Prop where
  addressed : ∀ resource, (host, resource) ∈ pass.deletions fleet →
    resource.partition = pass.partition ∧
      (resource.kind = .folder → resource = .folder pass.partition)
  objects : ∀ turn ∈ pass.turns fleet,
    (turn.after.fleet.host host).objects.filter (·.resource.partition ≠ pass.partition) =
      (fleet.host host).objects.filter (·.resource.partition ≠ pass.partition)
  folders : ∀ turn ∈ pass.turns fleet,
    (turn.after.fleet.host host).folders.filter (· ≠ pass.partition) =
      (fleet.host host).folders.filter (· ≠ pass.partition)

theorem others_kept (addressed : ∀ resource, (host, resource) ∈ pass.deletions fleet →
      resource.partition = pass.partition ∧
        (resource.kind = .folder → resource = .folder pass.partition))
    (cut : pass.exchanges fleet = later ++ earlier) :
    ((pass.fleetAt fleet earlier).host host).objects.filter
          (·.resource.partition ≠ pass.partition) =
        (fleet.host host).objects.filter (·.resource.partition ≠ pass.partition) ∧
      ((pass.fleetAt fleet earlier).host host).folders.filter (· ≠ pass.partition) =
        (fleet.host host).folders.filter (· ≠ pass.partition) := by
  induction earlier generalizing later with
  | nil => exact ⟨rfl, rfl⟩
  | cons exchange earlier ih =>
      have before := ih (cut.trans (List.append_cons later exchange earlier))
      by_cases same : pass.fleetAt fleet (exchange :: earlier) = pass.fleetAt fleet earlier
      · rw [same]
        exact before
      obtain ⟨other, resource, -, asked, removed, -⟩ := deletion_of_change cut same
      rw [removed, Estate.host_removed]
      by_cases here : host = other
      · subst here
        have deleted : (host, resource) ∈ pass.deletions fleet :=
          mem_deletions_iff.mpr ⟨exchange, by simp [cut], asked⟩
        obtain ⟨own, folder⟩ := addressed resource deleted
        obtain ⟨objects, folders⟩ :=
          ((pass.fleetAt fleet earlier).host host).remove_others own folder
        rw [if_pos rfl, objects, folders]
        exact before
      · rw [if_neg here]
        exact before

theorem contained_of_addressed (addressed : ∀ resource, (host, resource) ∈ pass.deletions fleet →
      resource.partition = pass.partition ∧
        (resource.kind = .folder → resource = .folder pass.partition)) :
    pass.Contained fleet host := by
  refine ⟨addressed, ?_, ?_⟩
  · intro turn passed
    obtain ⟨later, exchange, earlier, cut, rfl⟩ := Peer.mem_turns_iff.mp passed
    exact (others_kept addressed cut).1
  · intro turn passed
    obtain ⟨later, exchange, earlier, cut, rfl⟩ := Peer.mem_turns_iff.mp passed
    exact (others_kept addressed cut).2

end Pass

/-- A listing of the partition that shows something to drain shows only what is in it. -/
def Unstrayed (partition : String) (host : Host) : Prop :=
  ∀ object ∈ host.objects, object.listedIn = partition →
    object.resource.kind ∈ Kind.drainOrder → object.resource.partition = partition

namespace Pass

variable {pass : Pass} {fleet : Fleet} {host : String}

theorem contained_of_unstrayed (unstrayed : (fleet.host host).Open pass.partition →
    Unstrayed pass.partition (fleet.host host)) : pass.Contained fleet host := by
  refine contained_of_addressed fun resource deleted => ?_
  obtain ⟨exchange, member, asked⟩ := mem_deletions_iff.mp deleted
  obtain ⟨later, earlier, cut⟩ := List.append_of_mem member
  obtain ⟨other, -, isOpen, seen, known, due⟩ := open_of_changes cut (by rw [asked]; rfl)
  rw [asked] at due
  obtain rfl := due.host_of_delete
  cases due with
  | routeDomain name => exact ⟨rfl, fun folder => nomatch folder⟩
  | folder => exact ⟨rfl, fun _ => rfl⟩
  | object drained listed found =>
      have rest := cut.trans (List.append_cons later exchange earlier)
      obtain ⟨object, placed, rfl, kind, shown⟩ := (dwindles_of_cut rest).of_mem_listed
        (known (Trail.mem_answers_iff.mpr listed)) found
      rw [← kind] at drained
      refine ⟨unstrayed isOpen object placed shown drained, fun folder => ?_⟩
      rw [folder] at drained
      exact absurd drained (by decide)

def undisturbed (naming : Naming) (tenant host : String) : Pass :=
  ⟨naming, .default, ⟨tenant, none, [⟨host⟩]⟩, .abortOnFirstFailure, none, [], [], 0, none, []⟩

theorem undisturbed_calm (naming : Naming) (tenant host : String) (fleet : Fleet) :
    (undisturbed naming tenant host).Calm fleet := by
  refine ⟨rfl, ?_⟩
  have absent : ((undisturbed naming tenant host).run fleet).2.signal = none := by
    rw [run_of_alone rfl]
    exact Program.signal_run_of_none rfl
  rw [Surroundings.requested, absent]
  rfl

theorem unstrayed_of_contained (contained : pass.Contained fleet host)
    (there : pass.partition ∈ (fleet.host host).folders)
    (gone : pass.partition ∉ ((pass.fleetAfter fleet).host host).folders) :
    Unstrayed pass.partition (fleet.host host) := by
  intro object member shown drained
  refine Classical.not_not.mp fun stray => ?_
  rw [fleetAfter_eq] at gone
  obtain ⟨after, exchange, before, cut, had, lost⟩ :=
    exists_loss (fun fleet => pass.partition ∈ (fleet.host host).folders) there gone
  have changed : pass.fleetAt fleet (exchange :: before) ≠ pass.fleetAt fleet before :=
    fun same => lost (same ▸ had)
  obtain ⟨other, resource, -, -, removed, seen, known, due⟩ := deletion_of_change cut changed
  rw [removed] at lost
  obtain ⟨rfl, folder⟩ := Estate.folder_of_removed had lost
  have cleared : Cleared host pass.partition seen object.resource.kind := by
    cases due with
    | folder _ all _ => exact all _ drained
    | routeDomain => cases folder
    | object kind listed found =>
        have rest := cut.trans (List.append_cons after exchange before)
        obtain ⟨shown, -, rfl, same, -⟩ := (dwindles_of_cut rest).of_mem_listed
          (known (Trail.mem_answers_iff.mpr listed)) found
        rw [← same, folder] at kind
        exact absurd kind (by decide)
  obtain ⟨resources, listed, deleted⟩ := cleared
  have rest := cut.trans (List.append_cons after exchange before)
  obtain ⟨late, early, rfl, rfl⟩ :=
    (dwindles_of_cut rest).listed (known (Trail.mem_answers_iff.mpr listed))
  -- A contained pass has kept the stray so far, so it was on the listing and was deleted after it.
  have kept : object ∈ (fleet.host host).objects.filter
      (·.resource.partition ≠ pass.partition) := List.mem_filter.mpr ⟨member, by simpa using stray⟩
  rw [← (others_kept contained.addressed (rest.trans (List.append_assoc _ late early).symm)).1]
    at kept
  obtain ⟨answer, -, asked⟩ := deleted object.resource
    (Host.mem_listing_iff.mpr ⟨object, (List.mem_filter.mp kept).1, rfl, rfl, shown⟩)
  obtain ⟨own, recorded, same⟩ := List.mem_map.mp (known (Trail.mem_answers_iff.mpr asked))
  obtain ⟨_, _, query, given⟩ := own
  cases same
  have found : (host, object.resource) ∈ pass.deletions fleet :=
    mem_deletions_iff.mpr ⟨_, cut ▸ List.mem_append_right _ (List.mem_cons_of_mem _ recorded), rfl⟩
  exact stray (contained.addressed _ found).1

end Pass

variable {naming : Naming} {tenant host : String} {fleet : Fleet}

/-- All cleanups of a tenant, with whatever faults, policies and cancellations, keep to the tenant's
partition on a host exactly if the partition is not open there or its listings show no strays. -/
theorem contained_iff_unstrayed (naming : Naming) (tenant host : String) (fleet : Fleet) :
    (∀ pass : Pass, pass.naming = naming → pass.service.tenant = tenant →
      pass.Contained fleet host) ↔
    ((fleet.host host).Open (naming.folderName tenant) →
      Unstrayed (naming.folderName tenant) (fleet.host host)) := by
  constructor
  · intro contained isOpen
    let pass := Pass.undisturbed naming tenant host
    have calm := Pass.undisturbed_calm naming tenant host fleet
    refine Pass.unstrayed_of_contained (contained pass rfl rfl) isOpen.1 ?_
    exact Pass.folder_gone_of_ok calm.candid calm.ok (List.mem_singleton_self host) isOpen
  · rintro unstrayed pass rfl rfl
    exact Pass.contained_of_unstrayed unstrayed

def strayFleet : Fleet :=
  ⟨[("h1", ⟨["Project_t"], [⟨⟨.selfIp, "s", "Common", none⟩, "Project_t"⟩]⟩)]⟩

/-- The listing of an open partition shows an object of the common one, and the cleanup deletes
it. -/
theorem stray_deleted :
    let pass := Pass.undisturbed .default "t" "h1"
    ("h1", ⟨.selfIp, "s", "Common", none⟩) ∈ pass.deletions strayFleet ∧
      ¬ pass.Contained strayFleet "h1" := by
  have deleted : ("h1", ⟨.selfIp, "s", "Common", none⟩) ∈
      (Pass.undisturbed .default "t" "h1").deletions strayFleet := by decide +kernel
  refine ⟨deleted, fun contained => ?_⟩
  have own := (contained.addressed _ deleted).1
  exact absurd own (by decide +kernel)

end Cleanup

end Tenancy
