import Tenancy.Proofs.Cleanup.Safety
import Tenancy.Proofs.Teardown.Release

/-!
Network tags over a series of cleanups. A VLAN and its tag go in two steps, and only the VLAN is
found again by the next pass; so a tag is released in the end exactly if no failed pass takes the
last VLAN that carries it without releasing it.
-/

namespace Tenancy

def Fleet.Carries (fleet : Fleet) (host partition : String) (tag : UInt16) : Prop :=
  ∃ object ∈ (fleet.host host).objects,
    object.resource.partition = partition ∧ object.resource.fabricTag = some tag

instance (fleet : Fleet) (host partition : String) (tag : UInt16) :
    Decidable (fleet.Carries host partition tag) :=
  inferInstanceAs (Decidable (∃ _ ∈ _, _ ∧ _))

namespace Cleanup

open Fleet Teardown

def Pass.released (pass : Pass) (fleet : Fleet) : List (String × UInt16) :=
  (pass.exchanges fleet).filterMap fun
    | ⟨_, _, .releaseTag host tag, .ok ()⟩ => some (host, tag)
    | _ => none

theorem Pass.mem_released_iff {pass : Pass} {fleet : Fleet} {host : String} {tag : UInt16} :
    (host, tag) ∈ pass.released fleet ↔
      ⟨.releaseTag host tag, .ok ()⟩ ∈ (pass.exchanges fleet).map Exchange.reply := by
  rw [released, List.mem_filterMap, List.mem_map]
  refine exists_congr fun exchange => and_congr_right fun _ => ?_
  obtain ⟨time, asker, query, answer⟩ := exchange
  constructor
  · intro same
    split at same
    next asked =>
      cases same
      cases asked
      rfl
    next => cases same
  · intro same
    cases same
    rfl

theorem carries_of_shrinks {before after : Fleet} {host partition : String} {tag : UInt16}
    (shrinks : Shrinks before after) (carries : after.Carries host partition tag) :
    before.Carries host partition tag := by
  obtain ⟨object, member, rest⟩ := carries
  exact ⟨object, (shrinks.objects host).subset member, rest⟩

namespace Orderly

variable {partition : String} {hosts : List String} {fine : Prop} {raiseOnCall : Option Nat}
  {start : Estate} {exchanges later earlier : List (Exchange Backend)}
  {exchange : Exchange Backend} {host : String} {tag : UInt16} {seen : Trail Backend}

theorem tag_listed (orderly : Orderly partition hosts fine raiseOnCall start exchanges)
    (own : start.fleet.ListsOwn) (cut : exchanges = later ++ earlier) {resources : List Resource}
    (listed : ⟨.list host .vlan partition, .ok resources⟩ ∈ earlier.map Exchange.reply)
    (carries : (Estate.fleetAt raiseOnCall start earlier).Carries host partition tag) :
    ∃ resource ∈ resources, resource.fabricTag = some tag := by
  obtain ⟨object, left, inside, tagged⟩ := carries
  have dwindles := orderly.dwindles_of_cut cut
  have shown := (own.of_shrinks dwindles.shrinks_start) host object left
  have kind := (Resource.fabricTag_eq_some_iff.mp tagged).1
  exact ⟨object.resource,
    dwindles.mem_of_listed listed left kind (shown.trans inside), tagged⟩

theorem listed_of_loss (orderly : Orderly partition hosts fine raiseOnCall start exchanges)
    (cut : exchanges = later ++ exchange :: earlier)
    (carries : (Estate.fleetAt raiseOnCall start earlier).Carries host partition tag)
    (lost : ¬ (Estate.fleetAt raiseOnCall start (exchange :: earlier)).Carries host partition tag)
    {other : String} (known : seen.answers ⊆ earlier.map Exchange.reply)
    (due : Due other partition seen exchange.query) :
    (∃ resource, exchange.query = .delete host resource) ∧ other = host ∧
      ∃ resources, .asked (.list host .vlan partition) (.ok resources) ∈ seen := by
  have rest := cut.trans (List.append_cons later exchange earlier)
  have dwindles := orderly.dwindles_of_cut cut
  have changed : Estate.fleetAt raiseOnCall start (exchange :: earlier) ≠
      Estate.fleetAt raiseOnCall start earlier := fun same => lost (same ▸ carries)
  obtain ⟨_, resource, asked, removed⟩ := dwindles.serves.removed_of_ne
    (dwindles.calm exchange List.mem_cons_self) changed
  obtain ⟨object, there, inside, tagged⟩ := carries
  have gone : object ∉
      ((Estate.fleetAt raiseOnCall start (exchange :: earlier)).host host).objects :=
    fun left => lost ⟨object, left, inside, tagged⟩
  rw [removed] at gone
  obtain ⟨rfl, answers⟩ := Estate.answersTo_of_removed there gone
  have kind : resource.kind = .vlan := by
    rw [← (Host.answersTo_iff.mp answers).1]
    exact (Resource.fabricTag_eq_some_iff.mp tagged).1
  refine ⟨⟨resource, asked⟩, ?_⟩
  rw [asked] at due
  cases due with
  | object drained listed found =>
      obtain ⟨_, -, rfl, same, -⟩ := (orderly.dwindles_of_cut rest).of_mem_listed
        (known (Trail.mem_answers_iff.mpr listed)) found
      exact ⟨rfl, _, (same.symm.trans kind) ▸ listed⟩
  | routeDomain => cases kind
  | folder => cases kind

theorem carries_or_released_of_fine
    (orderly : Orderly partition hosts fine raiseOnCall start exchanges)
    (own : start.fleet.ListsOwn) (ok : fine) (carries : start.fleet.Carries host partition tag) :
    (Estate.fleetAt raiseOnCall start exchanges).Carries host partition tag ∨
      ⟨.releaseTag host tag, .ok ()⟩ ∈ exchanges.map Exchange.reply := by
  refine Classical.or_iff_not_imp_left.mpr fun lost => ?_
  obtain ⟨later, exchange, earlier, cut, before, after⟩ :=
    Estate.exists_loss (·.Carries host partition tag) carries lost
  obtain ⟨retry, other, -, ended, ⟨first, last, taken, early, late⟩, well⟩ :=
    orderly.made later exchange earlier cut
  obtain ⟨⟨resource, asked⟩, rfl, resources, listed⟩ :=
    orderly.listed_of_loss cut before after early (run_asks taken.asks)
  have rest := cut.trans (List.append_cons later exchange earlier)
  obtain ⟨vlan, member, tagged⟩ :=
    orderly.tag_listed own rest (early (Trail.mem_answers_iff.mpr listed)) before
  cases ended with
  | error failure => cases well ok
  | ok outcome =>
      -- The teardown asked for a deletion and did not fail, so it went on to release the tag.
      have completed := completed_of_changes taken (.asked exchange.query exchange.answer)
        (by simp) (by rw [Sight.changes, asked]; rfl)
      have released := completed.released (List.mem_append_left _ listed) member tagged
      rw [cut, List.map_append, List.map_cons]
      have found := Trail.mem_answers_iff.mpr released
      rw [Trail.answers_append] at found
      simp only [Trail.answers, List.mem_append, List.mem_cons] at found ⊢
      exact found.elim (fun inside => .inr (.inr (early inside)))
        fun found => found.elim (fun same => .inr (.inl same)) fun inside => .inl (late inside)

end Orderly

namespace Pass

variable {pass : Pass} {fleet : Fleet} {host : String} {tag : UInt16}

theorem released_of_removed (own : fleet.ListsOwn)
    (removed : (host, .removed) ∈ pass.reported fleet)
    (carries : (pass.fleetAfter fleet).Carries host pass.partition tag) :
    (host, tag) ∈ pass.released fleet := by
  obtain ⟨trail, succeeds, answers⟩ := outcome_of_reported removed
  have completed := run_succeeds_removed_iff.mp succeeds
  obtain ⟨resources, listed⟩ := completed.listed
  rw [pass.fleetAfter_eq] at carries
  obtain ⟨resource, member, tagged⟩ := (pass.orderly fleet).tag_listed own (List.nil_append _).symm
    (answers (Trail.mem_answers_iff.mpr listed)) carries
  exact mem_released_iff.mpr
    (answers (Trail.mem_answers_iff.mpr (completed.released listed member tagged)))

theorem carries_of_released (own : fleet.ListsOwn) (released : (host, tag) ∈ pass.released fleet) :
    fleet.Carries host pass.partition tag := by
  obtain ⟨exchange, member, same⟩ := List.mem_map.mp (mem_released_iff.mp released)
  obtain ⟨later, earlier, cut⟩ := List.append_of_mem member
  obtain ⟨other, -, seen, known, due⟩ := due cut
  have rest := cut.trans (List.append_cons later exchange earlier)
  obtain ⟨_, _, query, answer⟩ := exchange
  cases same
  cases due with
  | tag listed found tagged =>
      obtain ⟨object, placed, rfl, kind, shown⟩ := (dwindles_of_cut rest).of_mem_listed
        (known (Trail.mem_answers_iff.mpr listed)) found
      exact ⟨object, placed, (own host object placed).symm.trans shown, tagged⟩

theorem carries_or_released_of_ok (own : fleet.ListsOwn) (ok : (pass.run fleet).1.isOk)
    (carries : fleet.Carries host pass.partition tag) :
    (pass.fleetAfter fleet).Carries host pass.partition tag ∨
      (host, tag) ∈ pass.released fleet := by
  rw [fleetAfter_eq, mem_released_iff]
  exact (pass.orderly fleet).carries_or_released_of_fine own ok carries

end Pass

variable {passes : List Pass} {fleet : Fleet} {host partition : String} {tag : UInt16}

/-- A failed pass takes the last VLAN that carries the tag, and neither this pass nor one before it
releases the tag. -/
def Strands (passes : List Pass) (fleet : Fleet) (host partition : String) (tag : UInt16) : Prop :=
  ∃ before pass start after, series passes fleet = before ++ (pass, start) :: after ∧
    start.Carries host partition tag ∧ ¬ (pass.fleetAfter start).Carries host partition tag ∧
    (pass.run start).1.isOk = false ∧
    ∀ entry ∈ before ++ [(pass, start)], (host, tag) ∉ entry.1.released entry.2

theorem not_released_of_not_carries (own : fleet.ListsOwn)
    (one : ∀ pass ∈ passes, pass.partition = partition)
    (lost : ¬ fleet.Carries host partition tag) :
    ∀ entry ∈ series passes fleet, (host, tag) ∉ entry.1.released entry.2 := by
  induction passes generalizing fleet with
  | nil => simp [series]
  | cons pass passes ih =>
      rw [List.forall_mem_cons] at one
      have shrinks := pass.fleetAfter_shrinks fleet
      rw [series, List.forall_mem_cons]
      constructor
      · exact fun released => lost (one.1 ▸ Pass.carries_of_released own released)
      · exact ih (own.of_shrinks shrinks) one.2 fun later => lost (carries_of_shrinks shrinks later)

theorem carries_of_not_strands (own : fleet.ListsOwn)
    (one : ∀ pass ∈ passes, pass.partition = partition)
    (carries : fleet.Carries host partition tag)
    (unreleased : ∀ entry ∈ series passes fleet, (host, tag) ∉ entry.1.released entry.2)
    (safe : ¬ Strands passes fleet host partition tag) :
    ∀ entry ∈ series passes fleet, (entry.1.fleetAfter entry.2).Carries host partition tag := by
  induction passes generalizing fleet with
  | nil => simp [series]
  | cons pass passes ih =>
      rw [List.forall_mem_cons] at one
      rw [series, List.forall_mem_cons] at unreleased ⊢
      have kept : (pass.fleetAfter fleet).Carries host partition tag := by
        obtain rfl := one.1
        cases ended : (pass.run fleet).1.isOk with
        | true =>
            exact (Pass.carries_or_released_of_ok own ended carries).resolve_right unreleased.1
        | false =>
            refine Classical.not_not.mp fun lost => safe ?_
            refine ⟨[], pass, fleet, _, rfl, carries, lost, ended, ?_⟩
            simpa using unreleased.1
      have shrinks := pass.fleetAfter_shrinks fleet
      refine ⟨kept, ih (own.of_shrinks shrinks) one.2 kept unreleased.2 ?_⟩
      rintro ⟨before, last, start, after, cut, rest⟩
      refine safe ⟨(pass, fleet) :: before, last, start, after, by rw [series, cut]; rfl, ?_⟩
      refine ⟨rest.1, rest.2.1, rest.2.2.1, ?_⟩
      rw [List.cons_append, List.forall_mem_cons]
      exact ⟨unreleased.1, rest.2.2.2⟩

theorem series_after {before after : List (Pass × Fleet)} {pass : Pass} {start : Fleet}
    (cut : series passes fleet = before ++ (pass, start) :: after) :
    ∃ rest ⊆ passes, after = series rest (pass.fleetAfter start) := by
  induction passes generalizing fleet before with
  | nil => simp [series] at cut
  | cons first passes ih =>
      rw [series] at cut
      cases before with
      | nil =>
          cases cut
          exact ⟨passes, List.subset_cons_self _ _, rfl⟩
      | cons entry before =>
          obtain ⟨-, later⟩ := List.cons.inj cut
          obtain ⟨rest, within, same⟩ := ih later
          exact ⟨rest, List.subset_cons_of_subset _ within, same⟩

/-- If a partition that carried a tag is reported as removed, then the tag was released exactly if
no pass stranded it. -/
theorem released_iff_not_strands (own : fleet.ListsOwn)
    (one : ∀ pass ∈ passes, pass.partition = partition)
    (carries : fleet.Carries host partition tag)
    (removed : ∃ entry ∈ series passes fleet, (host, .removed) ∈ entry.1.reported entry.2) :
    (∃ entry ∈ series passes fleet, (host, tag) ∈ entry.1.released entry.2) ↔
      ¬ Strands passes fleet host partition tag := by
  constructor
  · rintro ⟨entry, member, released⟩ ⟨before, pass, start, after, cut, -, lost, -, unreleased⟩
    have inside : (pass, start) ∈ series passes fleet := by simp [cut]
    obtain ⟨rest, within, same⟩ := series_after cut
    have fresh := listsOwn_of_series own _ inside
    have shrinks := pass.fleetAfter_shrinks start
    rw [cut, ← List.singleton_append, ← List.append_assoc, List.mem_append] at member
    obtain early | late := member
    · exact unreleased entry early released
    · exact not_released_of_not_carries (fresh.of_shrinks shrinks)
        (fun own found => one own (within found)) lost entry (same ▸ late) released
  · intro safe
    refine Classical.not_not.mp fun none => ?_
    have unreleased : ∀ entry ∈ series passes fleet, (host, tag) ∉ entry.1.released entry.2 :=
      fun entry member released => none ⟨entry, member, released⟩
    obtain ⟨entry, member, reported⟩ := removed
    have kept := carries_of_not_strands own one carries unreleased safe entry member
    have same := one entry.1 (fst_mem_of_series entry member)
    exact unreleased entry member (Pass.released_of_removed (listsOwn_of_series own entry member)
      reported (same ▸ kept))

def taggedFleet : Fleet :=
  ⟨[("h1", ⟨["Project_t"], [⟨⟨.vlan, "v", "Project_t", some 17⟩, "Project_t"⟩]⟩)]⟩

def refusal : Fault :=
  ⟨.releaseTag, none, none, none, none, 0, none, ⟨.other, "no fabric", none, none, none⟩, false⟩

def refusedPass (faults : List Fault) : Pass :=
  ⟨.default, .default, ⟨"t", none, [⟨"h1"⟩]⟩, .abortOnFirstFailure, none, [], faults, 0, none, []⟩

theorem released_iff_not_strands_taggedFleet :
    (∃ entry ∈ series [refusedPass []] taggedFleet, ("h1", 17) ∈ entry.1.released entry.2) ↔
      ¬ Strands [refusedPass []] taggedFleet "h1" "Project_t" 17 :=
  released_iff_not_strands (listsOwn_of_hosts (by decide)) (by decide +kernel) (by decide +kernel)
    (by decide +kernel)

/-- Two passes against a fabric that always refuses: the first fails with the VLAN already deleted,
the second finds no VLAN and removes the partition, and the tag was never released. -/
theorem removed_with_tag_never_released :
    let passes := [refusedPass [refusal], refusedPass [refusal]]
    taggedFleet.ListsOwn ∧ (∀ pass ∈ passes, pass.partition = "Project_t") ∧
      taggedFleet.Carries "h1" "Project_t" 17 ∧
      (∃ entry ∈ series passes taggedFleet, ("h1", .removed) ∈ entry.1.reported entry.2) ∧
      ¬ ∃ entry ∈ series passes taggedFleet, ("h1", 17) ∈ entry.1.released entry.2 :=
  ⟨listsOwn_of_hosts (by decide), by decide +kernel, by decide +kernel, by decide +kernel,
    by decide +kernel⟩

end Cleanup

end Tenancy
