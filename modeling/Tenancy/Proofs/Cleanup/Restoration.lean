import Tenancy.Proofs.Cleanup.Convergence
import Tenancy.Proofs.Cleanup.Policies
import Tenancy.Proofs.Fleet.Stocking
import Tenancy.Proofs.Provisioning.Creation

/-!
A cleanup takes back what a creation gave. Between the two the partition may be filled with anything
that a teardown removes; then the fleet is as it was before the folder was created.
-/

namespace Tenancy

def Host.FreeOf (partition : String) (host : Host) : Prop :=
  partition ∉ host.folders ∧ ∀ object ∈ host.objects,
    object.resource.partition ≠ partition ∧ object.listedIn ≠ partition

instance (partition : String) (host : Host) : Decidable (host.FreeOf partition) :=
  inferInstanceAs (Decidable (_ ∧ _))

namespace Fleet

variable {partition name : String} {hosts : List String} {fleet : Fleet}
  {additions : List (String × Resource)}

def Fills (partition : String) (hosts : List String) (additions : List (String × Resource)) : Prop :=
  ∀ addition ∈ additions, addition.1 ∈ hosts ∧ addition.2.partition = partition ∧
    addition.2.kind ∈ Kind.removable

instance (partition : String) (hosts : List String) (additions : List (String × Resource)) :
    Decidable (Fills partition hosts additions) :=
  inferInstanceAs (Decidable (∀ _ ∈ _, _))

theorem mem_stocked {object : Placed} :
    object ∈ ((stock partition additions (furnishAll partition hosts fleet)).host name).objects ↔
      object ∈ (fleet.host name).objects ∨
        ∃ addition ∈ additions, addition.1 = name ∧ object = ⟨addition.2, partition⟩ := by
  have old : ((furnishAll partition hosts fleet).host name).objects = (fleet.host name).objects := by
    rw [host_furnishAll, apply_ite Host.objects, Host.addFolder, apply_ite Host.objects, ite_self,
      ite_self]
  rw [host_stock, List.mem_append, old]
  refine or_congr_right ?_
  simp only [List.mem_map, List.mem_filter, decide_eq_true_eq]
  constructor
  · rintro ⟨addition, ⟨member, here⟩, rfl⟩
    exact ⟨addition, member, here, rfl⟩
  · rintro ⟨addition, member, here, rfl⟩
    exact ⟨addition, ⟨member, here⟩, rfl⟩

end Fleet

open Fleet Teardown

variable {partition host : String} {hosts : List String} {fleet : Fleet} {estate : Estate}
  {additions : List (String × Resource)}

theorem Host.FreeOf.listsOwnOn (free : ∀ host ∈ hosts, (fleet.host host).FreeOf partition)
    (fills : Fills partition hosts additions) :
    (stock partition additions (furnishAll partition hosts fleet)).ListsOwnOn partition hosts := by
  intro host inside object member
  obtain old | ⟨addition, added, -, rfl⟩ := mem_stocked.mp member
  · obtain ⟨other, elsewhere⟩ := (free host inside).2 object old
    exact ⟨fun shown => absurd shown elsewhere, fun own => absurd own other⟩
  · exact ⟨fun _ => (fills addition added).2.1, fun _ => rfl⟩

theorem Host.FreeOf.isOpen (free : ∀ host ∈ hosts, (fleet.host host).FreeOf partition)
    (fills : Fills partition hosts additions) (inside : host ∈ hosts) :
    ((stock partition additions (furnishAll partition hosts fleet)).host host).Open partition := by
  constructor
  · rw [host_stock]
    exact mem_folders_furnishAll.mpr (.inr inside)
  · intro object member shown bears
    obtain old | ⟨addition, added, -, rfl⟩ := mem_stocked.mp member
    · exact ((free host inside).2 object old).2 shown
    · have apart : ∀ kind ∈ Kind.removable, kind ∉ Kind.loadBearing := by decide
      exact apart _ (fills addition added).2.2 bears

theorem Host.FreeOf.cleared_eq (free : ∀ host ∈ hosts, (fleet.host host).FreeOf partition)
    (fills : Fills partition hosts additions) (inside : host ∈ hosts) :
    ((stock partition additions (furnishAll partition hosts fleet)).host host).cleared partition =
      fleet.host host := by
  obtain ⟨missing, others⟩ := free host inside
  have folders : (fleet.host host).folders.filter (· ≠ partition) = (fleet.host host).folders := by
    refine List.filter_eq_self.mpr fun name member => decide_eq_true ?_
    rintro rfl
    exact missing member
  have objects : (fleet.host host).objects.filter (!·.isRemovable partition) =
      (fleet.host host).objects := by
    refine List.filter_eq_self.mpr fun object member => ?_
    simp [Placed.isRemovable, (others object member).1]
  have added : ((additions.filter (·.1 = host)).map fun addition =>
      Placed.mk addition.2 partition).filter (!·.isRemovable partition) = [] := by
    refine List.filter_eq_nil_iff.mpr fun object member => ?_
    obtain ⟨addition, found, rfl⟩ := List.mem_map.mp member
    obtain ⟨-, own, removable⟩ := fills addition (List.mem_filter.mp found).1
    simp [Placed.isRemovable, own, removable]
  rw [host_stock, host_furnishAll, if_pos inside, Host.addFolder, if_neg missing, Host.cleared]
  simp only [List.filter_append, folders, objects, added, List.append_nil]
  simp

theorem Teardown.Gated.shut {trail : Trail Backend} {outcome : Outcome}
    (gated : Gated host partition trail (.ok outcome)) (faultless : estate.faults = [])
    (told : estate.Tells trail.placed) : ¬ (estate.fleet.host host).Open partition := by
  rintro ⟨there, idle⟩
  have reads (request : Request) := Estate.respond_of_no_faults request estate faultless
  have busy (kind : Kind) (bears : kind ∈ Kind.loadBearing) (first : Resource)
      (others : List Resource)
      (shown : first :: others = (estate.fleet.host host).listing kind partition) : False := by
    have listed : first ∈ (estate.fleet.host host).listing kind partition :=
      shown ▸ List.mem_cons_self
    obtain ⟨object, member, -, rfl, inside⟩ := Host.mem_listing_iff.mp listed
    exact idle object member inside bears
  cases gated with
  | absent =>
      have missing := of_decide_eq_false (Estate.respond_probe told.1.symm).symm
      exact missing there
  | addressesLeft domains address addresses =>
      obtain ⟨-, -, shown, -⟩ := told
      simp only [reads, Estate.comply] at shown
      exact busy .virtualAddress (by decide) address addresses (Except.ok.inj shown)
  | nodesLeft domains node nodes =>
      obtain ⟨-, -, -, shown, -⟩ := told
      simp only [reads, Estate.comply] at shown
      exact busy .node (by decide) node nodes (Except.ok.inj shown)

namespace Cleanup

namespace Pass

variable {pass : Pass}

theorem solo_removed (faultless : pass.faults = [])
    (isOpen : (fleet.host host).Open pass.partition) : (pass.solo host fleet).1 = .ok .removed := by
  have apart : ∀ fault ∈ pass.faults, fault.IsApart := faultless ▸ List.forall_mem_nil _
  obtain ⟨trail, taken, told, answers, -, -⟩ := pass.solo_trail host fleet apart
  have fresh : (Surroundings.start (pass.estate fleet)).Since (Estate.peer none)
      (pass.estate fleet) := ⟨rfl, trivial⟩
  have since : (pass.solo host fleet).2.Since (Estate.peer none) (pass.estate fleet) :=
    fresh.run _ 0
  have known : trail.answers ⊆ (pass.solo host fleet).2.exchanges.map Exchange.reply :=
    answers ▸ fun _ => List.mem_reverse.mp
  have fine := taken.ensured run_dependable
    (Estate.smooth_of_answered since.answered faultless known told.calm)
  cases ended : (pass.solo host fleet).1 with
  | error failure =>
      rw [ended] at fine
      cases fine
  | ok outcome =>
      rw [ended] at taken
      obtain ⟨_, _, -, removes⟩ | gated := run_yields taken
      · rw [removes outcome rfl]
      · exact absurd isOpen (gated.shut faultless told.told)

theorem Calm.removes (calm : pass.Calm fleet) (distinct : pass.service.hosts.Nodup)
    (isOpen : ∀ host ∈ pass.service.hosts, (fleet.host host).Open pass.partition) :
    (pass.run fleet).1 = .ok ⟨pass.service.hosts.map (·, .removed)⟩ := by
  have apart : ∀ fault ∈ pass.faults, fault.IsApart := calm.faultless ▸ List.forall_mem_nil _
  have solo : pass.soloResults fleet = pass.service.hosts.map (·, .ok .removed) :=
    List.map_congr_left fun host inside =>
      congrArg (host, ·) (solo_removed calm.faultless (isOpen host inside))
  have failures : failuresOf (pass.soloResults fleet) = [] := by
    rw [solo, failuresOf_eq_nil_iff, List.forall_mem_map]
    exact fun _ _ => rfl
  have outcomes : outcomesOf (pass.soloResults fleet) =
      pass.service.hosts.map (·, .removed) := by
    rw [solo, outcomesOf, List.filterMap_map]
    exact congrFun List.filterMap_eq_map pass.service.hosts
  cases policy : pass.policy with
  | abortOnFirstFailure =>
      rw [in_turn_run policy distinct apart calm.unrequested, failures, outcomes]
      rfl
  | bestEffort maxParallel =>
      rw [together_run policy distinct apart calm.unrequested, failures, outcomes]
      rfl

theorem fleetAfter_sameFrame (pass : Pass) (fleet : Fleet) :
    SameFrame (pass.fleetAfter fleet) fleet := by
  rw [fleetAfter_eq]
  exact (pass.dwindles fleet).sameFrame

theorem Calm.restores
    (free : ∀ host ∈ pass.service.hosts, (fleet.host host).FreeOf pass.partition)
    (fills : Fills pass.partition pass.service.hosts additions)
    (calm : pass.Calm
      (stock pass.partition additions (furnishAll pass.partition pass.service.hosts fleet)))
    (host : String) :
    (pass.fleetAfter (stock pass.partition additions
      (furnishAll pass.partition pass.service.hosts fleet))).host host = fleet.host host := by
  by_cases inside : host ∈ pass.service.hosts
  · have isOpen := Host.FreeOf.isOpen free fills inside
    have gone := folder_gone_of_ok calm.candid calm.ok inside isOpen
    rw [fleetAfter_eq] at gone ⊢
    rw [(pass.orderly _).cleared_of_folder_gone (Host.FreeOf.listsOwnOn free fills) calm.candid
      isOpen.1 gone]
    exact Host.FreeOf.cleared_eq free fills inside
  · have apart : ∀ fault ∈ pass.faults, fault.IsApart := calm.faultless ▸ List.forall_mem_nil _
    have none : additions.filter (·.1 = host) = [] := by
      refine List.filter_eq_nil_iff.mpr fun addition member here => inside ?_
      exact of_decide_eq_true here ▸ (fills addition member).1
    rw [fleetAfter_elsewhere apart inside, host_stock, none, List.map_nil, List.append_nil,
      host_furnishAll, if_neg inside]

end Pass

open Provisioning

/-- A creation on hosts that are free of the partition creates the folder on all of them. Whatever
the partition is then filled with, a calm cleanup reports it removed from each host, and leaves the
fleet as it was before, but that all hosts exist now. -/
theorem creation_then_cleanup_restores (creation : Creation) (pass : Pass) (fleet : Fleet)
    (additions : List (String × Resource)) (backed : creation.service.appliances ≠ [])
    (distinct : creation.service.hosts.Nodup)
    (free : ∀ host ∈ creation.service.hosts, (fleet.host host).FreeOf creation.partition)
    (faultless : creation.faults = [])
    (fills : Fills creation.partition creation.service.hosts additions)
    (same : pass.naming = creation.naming ∧ pass.service = creation.service)
    (calm : pass.Calm (stock creation.partition additions (creation.fleetAfter fleet))) :
    let hosts := creation.service.hosts
    let stocked := stock creation.partition additions (creation.fleetAfter fleet)
    (creation.run fleet).1 = .ok ⟨creation.partition, creation.trafficGroup, hosts⟩ ∧
    (pass.run stocked).1 = .ok ⟨hosts.map (·, .removed)⟩ ∧
    pass.fleetAfter stocked = fleet.withHosts hosts ∧
    ∀ host, (pass.fleetAfter stocked).host host = fleet.host host := by
  obtain ⟨made, furnished⟩ := creation.furnishes_of_faultless backed faultless fleet
  have missing : ∀ host ∈ creation.service.hosts,
      creation.partition ∉ (fleet.host host).folders := fun host inside => (free host inside).1
  have one : creation.partition = pass.partition := by
    rw [Pass.partition, same.1, same.2]
    rfl
  have frame : SameFrame (stock creation.partition additions (creation.fleetAfter fleet))
      (fleet.withHosts creation.service.hosts) := by
    have grown := furnishAll_sameFrame distinct missing
    rw [furnished]
    refine .trans (stock_sameFrame fun addition member => ?_) grown
    rw [grown.names]
    exact mem_names_withHosts (fills addition member).1
  intro hosts stocked
  rw [made, lacking_eq_self distinct missing]
  -- From here on, the naming and the service are those of the pass.
  have filled : stocked = stock pass.partition additions
      (furnishAll pass.partition pass.service.hosts fleet) := by
    rw [← one, same.2, ← furnished]
  have places : hosts = pass.service.hosts := congrArg Service.hosts same.2.symm
  change pass.Calm stocked at calm
  change SameFrame stocked (fleet.withHosts hosts) at frame
  rw [filled] at calm frame ⊢
  rw [places] at frame ⊢
  rw [one, ← same.2] at free fills
  rw [← same.2] at distinct
  have restored := Pass.Calm.restores free fills calm
  refine ⟨by rw [← places], ?_, ?_, restored⟩
  · exact calm.removes distinct fun host inside => Host.FreeOf.isOpen free fills inside
  · exact ((pass.fleetAfter_sameFrame _).trans frame).ext
      fun host => (restored host).trans host_withHosts.symm

def sharedFleet : Fleet :=
  ⟨[("h2", ⟨["Common"], [⟨⟨.snat, "s", "Common", none⟩, "Project_other"⟩,
    ⟨⟨.virtualAddress, "a", "Common", none⟩, "Common"⟩]⟩)]⟩

def sharedCreation : Creation :=
  ⟨.default, .default, ⟨"t", none, [⟨"h1"⟩, ⟨"h2"⟩]⟩, none, [("h2", 20)], [], 0, none, []⟩

def sharedPass : Pass :=
  ⟨.default, .default, sharedCreation.service, .bestEffort 2, none, [("h1", 5)], [], 0, none, []⟩

theorem creation_then_cleanup_restores_sharedFleet :
    let additions : List (String × Resource) :=
      [("h2", .routeDomain "Project_t" "rd"), ("h1", ⟨.vlan, "v", "Project_t", some 17⟩),
        ("h2", ⟨.snat, "s", "Project_t", none⟩), ("h2", ⟨.snat, "s", "Project_t", none⟩)]
    let stocked := stock "Project_t" additions (sharedCreation.fleetAfter sharedFleet)
    Fills "Project_t" sharedCreation.service.hosts additions ∧ sharedPass.Calm stocked ∧
      sharedPass.fleetAfter stocked = sharedFleet.withHosts ["h1", "h2"] := by
  intro additions stocked
  have backed : sharedCreation.service.appliances ≠ [] := by decide
  have distinct : sharedCreation.service.hosts.Nodup := by decide
  have free : ∀ host ∈ sharedCreation.service.hosts,
      (sharedFleet.host host).FreeOf sharedCreation.partition := by decide
  have fills : Fills sharedCreation.partition sharedCreation.service.hosts additions := by decide
  have calm : sharedPass.Calm stocked := ⟨rfl, Pass.requested_of_no_signal rfl⟩
  have restored := creation_then_cleanup_restores sharedCreation sharedPass sharedFleet additions
    backed distinct free rfl fills ⟨rfl, rfl⟩ calm
  exact ⟨fills, calm, restored.2.2.1⟩

end Cleanup

end Tenancy
