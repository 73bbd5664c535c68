import Tenancy.Proofs.Fleet.Frame
import Tenancy.Proofs.Fleet.Furnishing

/-!
Hosts that begin to exist by what is put on them: folders first, then objects in a partition. The
frame of the fleet is the one that it has when these hosts exist and are empty.
-/

namespace Tenancy.Fleet

def withHosts (names : List String) (fleet : Fleet) : Fleet :=
  ⟨fleet.hosts ++ (names.filter (· ∉ fleet.hosts.map Prod.fst)).map (·, Host.empty)⟩

def stock (partition : String) : List (String × Resource) → Fleet → Fleet
  | [], fleet => fleet
  | (host, resource) :: additions, fleet =>
      stock partition additions (fleet.change host (·.add ⟨resource, partition⟩))

variable {partition name : String} {names hosts : List String} {fleet : Fleet}
  {additions : List (String × Resource)}

theorem put_append_of_mem {host : Host} {entries more : List (String × Host)}
    (known : name ∈ entries.map Prod.fst) :
    put name host (entries ++ more) = put name host entries ++ more := by
  induction entries with
  | nil => cases known
  | cons entry entries ih =>
      rw [List.cons_append, put, put]
      split
      next => rfl
      next different =>
        rw [List.map_cons, List.mem_cons] at known
        rw [ih (known.resolve_left fun same => different (by simp [same])), List.cons_append]

theorem put_append_of_not_mem {host : Host} {entries more : List (String × Host)}
    (unknown : name ∉ entries.map Prod.fst) :
    put name host (entries ++ more) = entries ++ put name host more := by
  induction entries with
  | nil => rfl
  | cons entry entries ih =>
      rw [List.map_cons, List.mem_cons, not_or] at unknown
      rw [List.cons_append, put, if_neg (by simpa using Ne.symm unknown.1), ih unknown.2,
        List.cons_append]

theorem put_of_not_mem {host : Host} {entries : List (String × Host)}
    (unknown : name ∉ entries.map Prod.fst) : put name host entries = entries ++ [(name, host)] :=
  calc
    put name host entries = put name host (entries ++ []) := by rw [List.append_nil]
    _ = entries ++ put name host [] := put_append_of_not_mem unknown

theorem change_sameFrame (known : name ∈ fleet.hosts.map Prod.fst) (change : Host → Host) :
    SameFrame (fleet.change name change) fleet :=
  ⟨names_put _ known, shadowed_put _ List.not_mem_nil known⟩

theorem host_withHosts : (fleet.withHosts names).host name = fleet.host name := by
  have empty (hosts : List String) :
      ((hosts.map (·, Host.empty)).lookup name).getD .empty = Host.empty := by
    induction hosts with
    | nil => rfl
    | cons host hosts ih =>
        rw [List.map_cons, List.lookup_cons]
        split
        · rfl
        · exact ih
  rw [Fleet.host, Fleet.host, withHosts, List.lookup_append]
  cases fleet.hosts.lookup name with
  | some host => rfl
  | none => exact empty _

theorem mem_names_withHosts (inside : name ∈ names) :
    name ∈ (fleet.withHosts names).hosts.map Prod.fst := by
  rw [withHosts, List.map_append, List.map_map, List.mem_append]
  by_cases known : name ∈ fleet.hosts.map Prod.fst
  · exact .inl known
  · refine .inr (List.mem_map.mpr ⟨name, ?_, rfl⟩)
    exact List.mem_filter.mpr ⟨inside, decide_eq_true known⟩

theorem withHosts_change (other : name ∉ names) (change : Host → Host) :
    (fleet.change name change).withHosts names =
      (fleet.withHosts (name :: names)).change name change := by
  have still : (fleet.withHosts (name :: names)).host name = fleet.host name := host_withHosts
  rw [Fleet.change, Fleet.change, still, withHosts, withHosts]
  by_cases known : name ∈ fleet.hosts.map Prod.fst
  · rw [names_put _ known, put_append_of_mem known, List.filter_cons_of_neg (by simpa using known)]
  · rw [put_append_of_not_mem known, List.filter_cons_of_pos (by simpa using known),
      put_of_not_mem known]
    have rest : names.filter (· ∉ (fleet.hosts ++ [(name, change (fleet.host name))]).map Prod.fst) =
        names.filter (· ∉ fleet.hosts.map Prod.fst) := by
      refine List.filter_congr fun next inside => ?_
      have apart : next ≠ name := fun same => other (same ▸ inside)
      simp [apart]
    rw [rest, List.append_assoc, List.map_cons, put, if_pos (by simp)]
    rfl

theorem furnishAll_sameFrame (distinct : hosts.Nodup)
    (missing : ∀ host ∈ hosts, partition ∉ (fleet.host host).folders) :
    SameFrame (furnishAll partition hosts fleet) (fleet.withHosts hosts) := by
  induction hosts generalizing fleet with
  | nil =>
      have same : fleet.withHosts [] = fleet := by simp [withHosts]
      rw [same]
      exact .refl fleet
  | cons host hosts ih =>
      rw [List.nodup_cons] at distinct
      rw [List.forall_mem_cons] at missing
      rw [furnishAll, furnish_of_not_mem missing.1]
      refine .trans (ih distinct.2 fun other inside => ?_) ?_
      · rw [← furnish_of_not_mem missing.1, mem_folders_furnish, not_or]
        exact ⟨missing.2 other inside, fun same => distinct.1 (same ▸ inside)⟩
      · rw [withHosts_change distinct.1]
        exact change_sameFrame (mem_names_withHosts List.mem_cons_self) _

theorem host_stock :
    (stock partition additions fleet).host name =
      ⟨(fleet.host name).folders, (fleet.host name).objects ++
        (additions.filter (·.1 = name)).map fun addition => ⟨addition.2, partition⟩⟩ := by
  induction additions generalizing fleet with
  | nil => simp [stock]
  | cons addition additions ih =>
      obtain ⟨host, resource⟩ := addition
      rw [stock, ih, host_change]
      by_cases same : name = host
      · simp [same, Host.add]
      · simp [same, Ne.symm same]

theorem stock_sameFrame
    (known : ∀ addition ∈ additions, addition.1 ∈ fleet.hosts.map Prod.fst) :
    SameFrame (stock partition additions fleet) fleet := by
  induction additions generalizing fleet with
  | nil => exact .refl fleet
  | cons addition additions ih =>
      rw [List.forall_mem_cons] at known
      have changed := change_sameFrame known.1 (·.add ⟨addition.2, partition⟩)
      refine .trans (ih fun next member => ?_) changed
      rw [changed.names]
      exact known.2 next member

end Tenancy.Fleet
