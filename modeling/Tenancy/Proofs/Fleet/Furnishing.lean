import Tenancy.Proofs.Fleet

/-!
Folders that a fleet is given, host after host. A host that has the folder stays as it is, so what
was given before need not be given again, wherever the work stopped.
-/

namespace Tenancy

theorem Host.mem_addFolder {host : Host} {name folder : String} :
    folder ∈ (host.addFolder name).folders ↔ folder ∈ host.folders ∨ folder = name := by
  unfold addFolder
  split
  next there =>
    constructor
    · exact .inl
    · rintro (old | rfl)
      · exact old
      · exact there
  next => simp only [List.mem_append, List.mem_singleton]

theorem Host.addFolder_of_mem {host : Host} {name : String} (there : name ∈ host.folders) :
    host.addFolder name = host :=
  if_pos there

namespace Fleet

def furnish (partition host : String) (fleet : Fleet) : Fleet :=
  if partition ∈ (fleet.host host).folders then fleet
  else fleet.change host (·.addFolder partition)

def furnishAll (partition : String) : List String → Fleet → Fleet
  | [], fleet => fleet
  | host :: hosts, fleet => furnishAll partition hosts (fleet.furnish partition host)

def lacking (partition : String) (hosts : List String) (fleet : Fleet) : List String :=
  (hosts.filter fun host => partition ∉ (fleet.host host).folders).eraseDups

variable {partition host other : String} {hosts done : List String} {fleet : Fleet}

theorem furnish_of_mem (there : partition ∈ (fleet.host host).folders) :
    fleet.furnish partition host = fleet :=
  if_pos there

theorem furnish_of_not_mem (missing : partition ∉ (fleet.host host).folders) :
    fleet.furnish partition host = fleet.change host (·.addFolder partition) :=
  if_neg missing

theorem host_furnish :
    (fleet.furnish partition host).host other =
      if other = host then (fleet.host other).addFolder partition else fleet.host other := by
  by_cases there : partition ∈ (fleet.host host).folders
  · rw [furnish_of_mem there]
    split
    next same =>
      rw [same]
      exact (Host.addFolder_of_mem there).symm
    next => rfl
  · rw [furnish_of_not_mem there, host_change]
    exact ite_congr rfl (fun same => by rw [same]) fun _ => rfl

theorem mem_folders_furnish :
    partition ∈ ((fleet.furnish partition host).host other).folders ↔
      partition ∈ (fleet.host other).folders ∨ other = host := by
  rw [host_furnish]
  split
  next same => simp only [Host.mem_addFolder, same, or_true]
  next apart => simp only [apart, or_false]

theorem host_furnishAll :
    (furnishAll partition hosts fleet).host other =
      if other ∈ hosts then (fleet.host other).addFolder partition else fleet.host other := by
  induction hosts generalizing fleet with
  | nil => rfl
  | cons host hosts ih =>
      rw [furnishAll, ih, host_furnish]
      by_cases same : other = host
      · have there : partition ∈ ((fleet.host other).addFolder partition).folders :=
          Host.mem_addFolder.mpr (.inr rfl)
        simp only [same, if_true, List.mem_cons, true_or] at there ⊢
        rw [Host.addFolder_of_mem there, ite_self]
      · simp only [same, if_false, List.mem_cons, false_or]

theorem mem_folders_furnishAll :
    partition ∈ ((furnishAll partition hosts fleet).host other).folders ↔
      partition ∈ (fleet.host other).folders ∨ other ∈ hosts := by
  rw [host_furnishAll]
  split
  next inside => simp only [Host.mem_addFolder, inside, or_true]
  next outside => simp only [outside, or_false]

theorem furnishAll_append (first second : List String) :
    furnishAll partition (first ++ second) fleet =
      furnishAll partition second (furnishAll partition first fleet) := by
  induction first generalizing fleet with
  | nil => rfl
  | cons host first ih => exact ih

theorem furnishAll_of_mem (there : ∀ host ∈ hosts, partition ∈ (fleet.host host).folders) :
    furnishAll partition hosts fleet = fleet := by
  induction hosts with
  | nil => rfl
  | cons host hosts ih =>
      rw [List.forall_mem_cons] at there
      rw [furnishAll, furnish_of_mem there.1, ih there.2]

/-- Work that stopped early and is done again from the start ends as if it had not stopped. -/
theorem furnishAll_furnishAll (early : done <+: hosts) :
    furnishAll partition hosts (furnishAll partition done fleet) =
      furnishAll partition hosts fleet := by
  obtain ⟨rest, rfl⟩ := early
  have there : ∀ host ∈ done, partition ∈ ((furnishAll partition done fleet).host host).folders :=
    fun host inside => mem_folders_furnishAll.mpr (.inr inside)
  rw [furnishAll_append, furnishAll_append, furnishAll_of_mem there]

theorem mem_lacking :
    host ∈ lacking partition hosts fleet ↔
      host ∈ hosts ∧ partition ∉ (fleet.host host).folders := by
  simp only [lacking, List.mem_eraseDups, List.mem_filter, decide_eq_true_eq]

theorem lacking_cons_of_mem (there : partition ∈ (fleet.host host).folders) :
    lacking partition (host :: hosts) fleet = lacking partition hosts fleet := by
  simp only [lacking, List.filter_cons, there, not_true_eq_false, decide_false,
    Bool.false_eq_true, if_false]

theorem lacking_cons_of_not_mem (missing : partition ∉ (fleet.host host).folders) :
    lacking partition (host :: hosts) fleet =
      host :: lacking partition hosts (fleet.furnish partition host) := by
  simp only [lacking, List.filter_cons, missing, not_false_eq_true, decide_true, if_true,
    List.eraseDups_cons, List.filter_filter]
  refine congrArg (host :: ·.eraseDups) (List.filter_congr fun other _ => ?_)
  rw [decide_not, decide_not, decide_eq_decide.mpr mem_folders_furnish, Bool.decide_or,
    Bool.not_or, Bool.and_comm]
  rfl

theorem nodup_lacking : (lacking partition hosts fleet).Nodup := by
  induction hosts generalizing fleet with
  | nil => exact List.nodup_nil
  | cons host hosts ih =>
      by_cases there : partition ∈ (fleet.host host).folders
      · rw [lacking_cons_of_mem there]
        exact ih
      · rw [lacking_cons_of_not_mem there, List.nodup_cons, mem_lacking]
        exact ⟨fun again => again.2 (mem_folders_furnish.mpr (.inr rfl)), ih⟩

theorem lacking_of_mem (there : ∀ host ∈ hosts, partition ∈ (fleet.host host).folders) :
    lacking partition hosts fleet = [] :=
  List.eq_nil_iff_forall_not_mem.mpr fun host listed =>
    (mem_lacking.mp listed).2 (there host (mem_lacking.mp listed).1)

theorem lacking_eq_self (distinct : hosts.Nodup)
    (missing : ∀ host ∈ hosts, partition ∉ (fleet.host host).folders) :
    lacking partition hosts fleet = hosts := by
  induction hosts generalizing fleet with
  | nil => rfl
  | cons host hosts ih =>
      rw [List.nodup_cons] at distinct
      rw [List.forall_mem_cons] at missing
      rw [lacking_cons_of_not_mem missing.1, ih distinct.2]
      intro other inside
      rw [mem_folders_furnish, not_or]
      exact ⟨missing.2 other inside, fun same => distinct.1 (same ▸ inside)⟩

end Fleet

end Tenancy
