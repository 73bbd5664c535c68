import Tenancy.Proofs.Fleet

/-!
What a deletion leaves as it is in the list of a fleet's hosts: their names and order, and the
entries that no lookup finds. Fleets that agree in this and on each host are equal.
-/

namespace Tenancy

namespace Fleet

/-- The entries that stand behind another one of the same name, or whose name was seen before. -/
def shadowed (seen : List String) : List (String × Host) → List (String × Host)
  | [] => []
  | entry :: entries =>
      if entry.1 ∈ seen then entry :: shadowed seen entries
      else shadowed (entry.1 :: seen) entries

structure SameFrame (left right : Fleet) : Prop where
  names : left.hosts.map Prod.fst = right.hosts.map Prod.fst
  shadowed : shadowed [] left.hosts = Fleet.shadowed [] right.hosts

variable {left middle right : Fleet}

theorem SameFrame.refl (fleet : Fleet) : SameFrame fleet fleet := ⟨rfl, rfl⟩

theorem SameFrame.trans (first : SameFrame left middle) (second : SameFrame middle right) :
    SameFrame left right :=
  ⟨first.names.trans second.names, first.shadowed.trans second.shadowed⟩

theorem SameFrame.symm (same : SameFrame left right) : SameFrame right left :=
  ⟨same.names.symm, same.shadowed.symm⟩

theorem shadowed_put {name : String} (host : Host) {entries : List (String × Host)}
    {seen : List String} (fresh : name ∉ seen) (known : name ∈ entries.map Prod.fst) :
    shadowed seen (put name host entries) = shadowed seen entries := by
  induction entries generalizing seen with
  | nil => cases known
  | cons entry entries ih =>
      rw [put]
      by_cases same : entry.1 = name
      · subst same
        simp [shadowed, fresh]
      · have later : name ∈ entries.map Prod.fst := by
          rw [List.map_cons, List.mem_cons] at known
          exact known.resolve_left (Ne.symm same)
        rw [if_neg (by simpa using same), shadowed, shadowed]
        by_cases before : entry.1 ∈ seen
        · rw [if_pos before, if_pos before, ih fresh later]
        · have unseen : name ∉ entry.1 :: seen := by simp [Ne.symm same, fresh]
          rw [if_neg before, if_neg before, ih unseen later]

theorem entries_ext {first second : List (String × Host)} {seen : List String}
    (names : first.map Prod.fst = second.map Prod.fst)
    (hidden : shadowed seen first = shadowed seen second)
    (found : ∀ name, name ∉ seen → first.lookup name = second.lookup name) : first = second := by
  induction first generalizing second seen with
  | nil => exact (List.map_eq_nil_iff.mp names.symm).symm
  | cons entry first ih =>
      obtain ⟨name, host⟩ := entry
      cases second with
      | nil => cases names
      | cons other second =>
          obtain ⟨_, host'⟩ := other
          obtain ⟨rfl, tails⟩ := List.cons.inj names
          by_cases before : name ∈ seen
          · rw [shadowed, if_pos before, shadowed, if_pos before] at hidden
            obtain ⟨same, hidden⟩ := List.cons.inj hidden
            rw [same]
            refine congrArg _ (ih tails hidden fun next unseen => ?_)
            have apart : next ≠ name := fun equal => unseen (equal ▸ before)
            simpa [List.lookup_cons, beq_eq_false_iff_ne.mpr apart] using found next unseen
          · rw [shadowed, if_neg before, shadowed, if_neg before] at hidden
            obtain rfl : host = host' := by simpa using found name before
            refine congrArg _ (ih tails hidden fun next unseen => ?_)
            rw [List.mem_cons, not_or] at unseen
            simpa [List.lookup_cons, beq_eq_false_iff_ne.mpr unseen.1] using found next unseen.2

theorem SameFrame.ext (same : SameFrame left right)
    (hosts : ∀ name, left.host name = right.host name) : left = right := by
  have found (name : String) : left.hosts.lookup name = right.hosts.lookup name := by
    have host := hosts name
    have present : (left.hosts.lookup name).isSome ↔ (right.hosts.lookup name).isSome := by
      rw [lookup_isSome_iff, lookup_isSome_iff, same.names]
    rw [Fleet.host, Fleet.host] at host
    cases first : left.hosts.lookup name <;> cases second : right.hosts.lookup name <;>
      simp_all
  obtain ⟨first⟩ := left
  obtain ⟨second⟩ := right
  exact congrArg Fleet.mk (entries_ext same.names same.shadowed fun name _ => found name)

end Fleet

namespace Estate

theorem removed_sameFrame (fleet : Fleet) (host : String) (resource : Resource) :
    Fleet.SameFrame (removed fleet host resource) fleet := by
  refine ⟨names_removed fleet host resource, ?_⟩
  unfold removed
  split
  next holds =>
    exact Fleet.shadowed_put _ List.not_mem_nil (Fleet.mem_names_of_holds holds)
  next => rfl

end Estate

end Tenancy
