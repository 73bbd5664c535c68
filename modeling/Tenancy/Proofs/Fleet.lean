import Tenancy.Estate

/-!
How a fleet shrinks. A deletion takes things from one host and leaves all else in place and in
order; what a shrinking fleet once lacked it never has again.
-/

namespace Tenancy

def Kind.removable : List Kind := Kind.drainOrder ++ [.routeDomain]

def Placed.isRemovable (partition : String) (object : Placed) : Bool :=
  object.resource.partition = partition && object.resource.kind ∈ Kind.removable

namespace Host

variable {resource : Resource} {host : Host}

theorem answersTo_iff {object : Placed} :
    answersTo resource object ↔ object.resource.kind = resource.kind ∧
      object.resource.partition = resource.partition ∧ object.resource.name = resource.name := by
  simp only [answersTo, Bool.and_eq_true, decide_eq_true_eq, beq_iff_eq, and_assoc]

theorem remove_of_not_holds (absent : host.holds resource = false) :
    host.remove resource = host := by
  unfold holds at absent
  unfold remove
  split at absent
  next folder =>
    rw [if_pos folder]
    have kept : host.folders.filter (· ≠ resource.name) = host.folders := by
      rw [List.filter_eq_self]
      intro name member
      simp only [decide_eq_true_eq]
      rintro rfl
      simp [member] at absent
    rw [kept]
  next other =>
    rw [if_neg other]
    have kept : (host.objects.filter fun object => !answersTo resource object) = host.objects := by
      simpa [List.filter_eq_self] using absent
    rw [kept]

theorem remove_folders (host : Host) (resource : Resource) :
    (host.remove resource).folders.Sublist host.folders := by
  unfold remove
  split
  · exact List.filter_sublist
  · exact List.Sublist.refl _

theorem remove_objects (host : Host) (resource : Resource) :
    (host.remove resource).objects.Sublist host.objects := by
  unfold remove
  split
  · exact List.Sublist.refl _
  · exact List.filter_sublist

theorem not_holds_remove (host : Host) (resource : Resource) :
    (host.remove resource).holds resource = false := by
  unfold holds remove
  split <;> simp

theorem not_holds_of_less {less : Host} (folders : less.folders.Sublist host.folders)
    (objects : less.objects.Sublist host.objects) (absent : host.holds resource = false) :
    less.holds resource = false := by
  unfold holds at *
  split at absent
  next folder =>
    rw [if_pos folder]
    simp only [decide_eq_false_iff_not] at *
    exact fun member => absent (folders.subset member)
  next other =>
    rw [if_neg other]
    simp only [List.any_eq_false] at *
    exact fun object member => absent object (objects.subset member)

end Host

namespace Fleet

variable {fleet before middle after : Fleet} {partition : String} {hosts : List String}

theorem lookup_put (name other : String) (host : Host) (entries : List (String × Host)) :
    (put name host entries).lookup other =
      if other = name then some host else entries.lookup other := by
  induction entries with
  | nil =>
      rw [put, List.lookup_cons]
      by_cases same : other = name
      · simp [same]
      · simp [same, beq_eq_false_iff_ne.mpr same]
  | cons entry entries ih =>
      rw [put]
      split
      next found =>
        obtain rfl : entry.1 = name := by simpa using found
        rw [List.lookup_cons, List.lookup_cons]
        by_cases same : other = entry.1
        · simp [same]
        · simp [same, beq_eq_false_iff_ne.mpr same]
      next different =>
        rw [List.lookup_cons, List.lookup_cons, ih]
        by_cases same : other = name
        · subst same
          have apart : other ≠ entry.1 := fun equal => different (by simp [equal])
          simp [beq_eq_false_iff_ne.mpr apart]
        · simp [same]

theorem host_change (fleet : Fleet) (name other : String) (change : Host → Host) :
    (fleet.change name change).host other =
      if other = name then change (fleet.host name) else fleet.host other := by
  rw [Fleet.host, Fleet.change, lookup_put]
  split <;> rfl

theorem names_put {name : String} (host : Host) {entries : List (String × Host)}
    (known : name ∈ entries.map Prod.fst) :
    (put name host entries).map Prod.fst = entries.map Prod.fst := by
  induction entries with
  | nil => cases known
  | cons entry entries ih =>
      rw [put]
      split
      next found =>
        obtain rfl : entry.1 = name := by simpa using found
        rfl
      next different =>
        have later : name ∈ entries.map Prod.fst := by
          rw [List.map_cons, List.mem_cons] at known
          refine known.resolve_left fun same => different ?_
          simp [same]
        rw [List.map_cons, ih later, List.map_cons]

/-- Every object is shown by the listing of its own partition. -/
def ListsOwn (fleet : Fleet) : Prop :=
  ∀ host, ∀ object ∈ (fleet.host host).objects, object.listedIn = object.resource.partition

theorem listsOwn_of_hosts (own : ∀ entry ∈ fleet.hosts, ∀ object ∈ entry.2.objects,
    object.listedIn = object.resource.partition) : fleet.ListsOwn := by
  intro host object member
  cases found : fleet.hosts.lookup host with
  | none => simp [Fleet.host, found, Host.empty] at member
  | some entry =>
      obtain ⟨before, after, same, -⟩ := List.lookup_eq_some_iff.mp found
      exact own (host, entry) (by simp [same]) object (by simpa [Fleet.host, found] using member)

def ListsOwnOn (fleet : Fleet) (partition : String) (hosts : List String) : Prop :=
  ∀ host ∈ hosts, ∀ object ∈ (fleet.host host).objects,
    object.listedIn = partition ↔ object.resource.partition = partition

theorem ListsOwn.on (own : fleet.ListsOwn) : fleet.ListsOwnOn partition hosts :=
  fun host _ object member => by rw [own host object member]

def Lacks (fleet : Fleet) (host partition : String) (kinds : List Kind) : Prop :=
  ∀ object ∈ (fleet.host host).objects,
    object.resource.partition = partition → object.resource.kind ∉ kinds

theorem lacks_iff_forall {host : String} {kinds : List Kind} :
    fleet.Lacks host partition kinds ↔ ∀ kind ∈ kinds, fleet.Lacks host partition [kind] := by
  constructor
  · intro lacks kind found object member inside same
    exact lacks object member inside (List.mem_singleton.mp same ▸ found)
  · intro lacks object member inside found
    exact lacks _ found object member inside (List.mem_singleton_self _)

theorem lacks_append {host : String} {first second : List Kind} :
    fleet.Lacks host partition (first ++ second) ↔
      fleet.Lacks host partition first ∧ fleet.Lacks host partition second := by
  rw [lacks_iff_forall, List.forall_mem_append, ← lacks_iff_forall, ← lacks_iff_forall]

structure Shrinks (before after : Fleet) : Prop where
  folders : ∀ host, (after.host host).folders.Sublist (before.host host).folders
  objects : ∀ host, (after.host host).objects.Sublist (before.host host).objects

/-- The fleet lost at most this partition's folder and its objects of the removable kinds, and these
on the given hosts; all that is left is in its old order. -/
structure Reduced (partition : String) (hosts : List String) (before after : Fleet) : Prop
    extends Shrinks before after where
  names : after.hosts.map Prod.fst = before.hosts.map Prod.fst
  elsewhere : ∀ host, host ∉ hosts → after.host host = before.host host
  otherFolders : ∀ host, (after.host host).folders.filter (· ≠ partition) =
    (before.host host).folders.filter (· ≠ partition)
  otherObjects : ∀ host, (after.host host).objects.filter (!·.isRemovable partition) =
    (before.host host).objects.filter (!·.isRemovable partition)

theorem Shrinks.refl (fleet : Fleet) : Shrinks fleet fleet :=
  ⟨fun _ => List.Sublist.refl _, fun _ => List.Sublist.refl _⟩

theorem Shrinks.trans (first : Shrinks before middle) (second : Shrinks middle after) :
    Shrinks before after :=
  ⟨fun host => (second.folders host).trans (first.folders host),
    fun host => (second.objects host).trans (first.objects host)⟩

theorem Reduced.refl (partition : String) (hosts : List String) (fleet : Fleet) :
    Reduced partition hosts fleet fleet where
  toShrinks := Shrinks.refl fleet
  names := rfl
  elsewhere _ _ := rfl
  otherFolders _ := rfl
  otherObjects _ := rfl

theorem Reduced.trans (first : Reduced partition hosts before middle)
    (second : Reduced partition hosts middle after) : Reduced partition hosts before after where
  toShrinks := first.toShrinks.trans second.toShrinks
  names := second.names.trans first.names
  elsewhere host outside := (second.elsewhere host outside).trans (first.elsewhere host outside)
  otherFolders host := (second.otherFolders host).trans (first.otherFolders host)
  otherObjects host := (second.otherObjects host).trans (first.otherObjects host)

theorem ListsOwn.of_shrinks (own : before.ListsOwn) (shrinks : Shrinks before after) :
    after.ListsOwn :=
  fun host object member => own host object ((shrinks.objects host).subset member)

theorem ListsOwnOn.of_shrinks (own : before.ListsOwnOn partition hosts)
    (shrinks : Shrinks before after) : after.ListsOwnOn partition hosts :=
  fun host inside object member => own host inside object ((shrinks.objects host).subset member)

theorem Shrinks.not_holds (shrinks : Shrinks before after) {host : String} {resource : Resource}
    (absent : (before.host host).holds resource = false) :
    (after.host host).holds resource = false :=
  Host.not_holds_of_less (shrinks.folders host) (shrinks.objects host) absent

theorem lookup_isSome_iff {name : String} {entries : List (String × Host)} :
    (entries.lookup name).isSome ↔ name ∈ entries.map Prod.fst := by
  rw [Option.isSome_iff_ne_none, Ne, List.lookup_eq_none_iff]
  simp

theorem mem_names_of_holds {fleet : Fleet} {host : String} {resource : Resource}
    (holds : (fleet.host host).holds resource) : host ∈ fleet.hosts.map Prod.fst := by
  rw [← lookup_isSome_iff]
  cases found : fleet.hosts.lookup host with
  | some entry => rfl
  | none => simp [Fleet.host, found, Host.holds, Host.empty] at holds

end Fleet

namespace Estate

open Fleet

theorem host_removed (fleet : Fleet) (host name : String) (resource : Resource) :
    (removed fleet host resource).host name =
      if name = host then (fleet.host host).remove resource else fleet.host name := by
  cases holds : (fleet.host host).holds resource with
  | true =>
      rw [removed, if_pos holds]
      exact host_change fleet host name (·.remove resource)
  | false =>
      rw [Host.remove_of_not_holds holds, removed, holds]
      by_cases same : name = host
      · simp [same]
      · simp [same]

theorem names_removed (fleet : Fleet) (host : String) (resource : Resource) :
    (removed fleet host resource).hosts.map Prod.fst = fleet.hosts.map Prod.fst := by
  unfold removed
  split
  next holds => exact names_put _ (mem_names_of_holds holds)
  next => rfl

theorem removed_not_holds (fleet : Fleet) (host : String) (resource : Resource) :
    ((removed fleet host resource).host host).holds resource = false := by
  rw [host_removed, if_pos rfl]
  exact Host.not_holds_remove _ _

theorem removed_shrinks (fleet : Fleet) (host : String) (resource : Resource) :
    Shrinks fleet (removed fleet host resource) := by
  constructor
  · intro name
    rw [host_removed]
    split
    next same => rw [same]; exact Host.remove_folders _ _
    next => exact List.Sublist.refl _
  · intro name
    rw [host_removed]
    split
    next same => rw [same]; exact Host.remove_objects _ _
    next => exact List.Sublist.refl _

theorem removed_reduced {partition : String} {hosts : List String} (fleet : Fleet) {host : String}
    {resource : Resource} (inside : host ∈ hosts)
    (due : resource = .folder partition ∨
      resource.partition = partition ∧ resource.kind ∈ Kind.removable) :
    Reduced partition hosts fleet (removed fleet host resource) where
  toShrinks := removed_shrinks fleet host resource
  names := names_removed fleet host resource
  elsewhere name outside := by
    rw [host_removed, if_neg]
    rintro rfl
    exact outside inside
  otherFolders name := by
    rw [host_removed]
    split
    next same =>
      subst same
      unfold Host.remove
      split
      next folder =>
        obtain rfl | ⟨-, removable⟩ := due
        · rw [List.filter_filter]
          refine List.filter_congr fun other _ => ?_
          by_cases same : other = partition <;> simp [Resource.folder, same]
        · rw [folder] at removable
          exact absurd removable (by decide)
      next => rfl
    next => rfl
  otherObjects name := by
    rw [host_removed]
    split
    next same =>
      subst same
      unfold Host.remove
      split
      next => rfl
      next other =>
        obtain rfl | ⟨own, removable⟩ := due
        · exact absurd rfl other
        · rw [List.filter_filter]
          refine List.filter_congr fun object _ => ?_
          cases answers : Host.answersTo resource object with
          | false => simp
          | true =>
              obtain ⟨kind, partition, -⟩ := Host.answersTo_iff.mp answers
              simp [Placed.isRemovable, kind, partition, own, removable]
    next => rfl

end Estate

end Tenancy
