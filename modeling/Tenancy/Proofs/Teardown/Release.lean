import Tenancy.Proofs.Teardown.Gate
import Tenancy.Proofs.Teardown.Order

/-!
What a teardown that does not fail does about network tags: either it changes nothing, or it
completes, and then every tag that a listing of its VLANs showed is released.
-/

namespace Tenancy

def Sight.lists : Sight Backend → Bool
  | .asked (.list ..) _ => true
  | .asked .. => false
  | .paused .. => false
  | .looked _ => false

namespace Teardown

open Tenancy.Action

variable {policy : RetryPolicy} {host partition : String} {kind : Kind} {tag : UInt16}
  {trail : Trail Backend} {resource : Resource} {resources : List Resource}

theorem Deleted.no_lists {interval : Span} {retries : Nat}
    (deleted : Deleted interval host resource retries trail) :
    ∀ sight ∈ trail, sight.lists = false := by
  induction deleted with
  | gone => simp [Sight.lists]
  | again later ih => simpa [Sight.lists] using ih

theorem released_no_lists : ∀ sight ∈ released host resource, sight.lists = false := by
  unfold released
  cases resource.fabricTag <;> simp [Sight.lists]

theorem Emptied.no_lists (emptied : Emptied policy host resources trail) :
    ∀ sight ∈ trail, sight.lists = false := by
  induction emptied with
  | nil => simp
  | cons deleted later ih =>
      simp only [List.forall_mem_append]
      exact ⟨deleted.no_lists, released_no_lists, ih⟩

theorem Offered.no_lists (offered : Offered resources trail) :
    ∀ sight ∈ trail, sight.lists = false := by
  induction offered with
  | nil => simp
  | cons later ih => simpa [Sight.lists] using ih

theorem DomainsDeleted.no_lists {names : List String}
    (deleted : DomainsDeleted host partition names trail) :
    ∀ sight ∈ trail, sight.lists = false := by
  induction deleted with
  | nil => simp
  | cons gone later ih => simpa [Sight.lists] using ih

theorem PortsOffered.mem_kinds {kinds : List Kind} {answer : Except DeviceError (List Resource)}
    (offered : PortsOffered host partition kinds trail)
    (listed : .asked (.list host kind partition) answer ∈ trail) : kind ∈ kinds := by
  induction offered with
  | nil => cases listed
  | listed offered later ih =>
      rw [List.mem_cons, List.mem_append] at listed
      obtain same | first | rest := listed
      · cases same
        exact List.mem_cons_self
      · cases offered.no_lists _ first
      · exact List.mem_cons_of_mem _ (ih rest)
  | unlisted later ih =>
      obtain same | rest := List.mem_cons.mp listed
      · cases same
        exact List.mem_cons_self
      · exact List.mem_cons_of_mem _ (ih rest)

theorem Emptied.released (emptied : Emptied policy host resources trail)
    (member : resource ∈ resources) (tagged : resource.fabricTag = some tag) :
    .asked (.releaseTag host tag) (.ok ()) ∈ trail := by
  induction emptied with
  | nil => cases member
  | cons deleted later ih =>
      obtain rfl | rest := List.mem_cons.mp member
      · simp [Teardown.released, tagged]
      · simp [ih rest]

theorem Drained.released {kinds : List Kind} (drained : Drained policy host partition kinds trail)
    (listed : .asked (.list host kind partition) (.ok resources) ∈ trail)
    (member : resource ∈ resources) (tagged : resource.fabricTag = some tag) :
    .asked (.releaseTag host tag) (.ok ()) ∈ trail := by
  induction drained with
  | nil => cases listed
  | cons emptied later ih =>
      simp only [List.mem_cons, List.mem_append, reduceCtorEq, false_or] at listed
      obtain same | first | rest := listed
      · cases same
        simp [emptied.released member tagged]
      · cases emptied.no_lists _ first
      · simp [ih rest]

theorem Completed.released (completed : Completed policy host partition trail)
    (listed : .asked (.list host .vlan partition) (.ok resources) ∈ trail)
    (member : resource ∈ resources) (tagged : resource.fabricTag = some tag) :
    .asked (.releaseTag host tag) (.ok ()) ∈ trail := by
  obtain ⟨ports, drained, deleted, gone⟩ := completed
  simp only [opening, List.mem_append, List.mem_cons, reduceCtorEq, List.not_mem_nil, false_or,
    or_false, false_and, Sight.asked.injEq] at listed
  obtain opened | offered | listed | domain := listed
  · simp at opened
  · exact absurd (ports.mem_kinds offered) (by decide)
  · simp [drained.released listed member tagged]
  · cases deleted.no_lists _ domain

theorem Completed.listed (completed : Completed policy host partition trail) :
    ∃ resources, .asked (.list host .vlan partition) (.ok resources) ∈ trail := by
  obtain ⟨ports, drained, deleted, gone⟩ := completed
  obtain ⟨resources, listed, -⟩ := drained.cleared .vlan (by decide)
  exact ⟨resources, by simp [listed]⟩

theorem completed_of_changes {outcome : Outcome}
    (succeeds : (run policy host partition).Succeeds trail outcome) (sight : Sight Backend)
    (found : sight ∈ trail) (changes : sight.changes) :
    Completed policy host partition trail := by
  obtain ⟨domains, later, -, removes⟩ | gated := run_yields succeeds
  · obtain rfl := removes outcome rfl
    exact run_succeeds_removed_iff.mp succeeds
  · rw [gated.reads sight found] at changes
    cases changes

end Teardown

end Tenancy
