import Tenancy.Proofs.Teardown.Stage

/-!
How a teardown comes to a halt once shutdown is requested: it finishes at most the stage that it is
in, whatever the appliance answers, and ends as this stage can end.
-/

namespace Tenancy

def Trail.Names (trail : Trail Backend) (named : String) : Prop :=
  ∃ host kind partition resources, .asked (.list host kind partition) (.ok resources) ∈ trail ∧
    ∃ resource ∈ resources, resource.partition = named

theorem Trail.shows_names (trail : Trail Backend) : ∀ sight ∈ trail, sight.Shows trail.Names := by
  rintro sight member host kind partition resources rfl resource found
  exact ⟨host, kind, partition, resources, member, resource, found, rfl⟩

theorem Trail.stage?_append_of_tells {before after : Trail Backend} (tells : after.Tells true) :
    (before ++ after).stage? = before.stage? := by
  have none := Trail.passed_of_tells tells
  rw [Trail.stage?, Trail.stage?, Trail.passed_append, none, Nat.add_zero]

def Sight.ShowsKind (sight : Sight Backend) : Prop :=
  ∀ host kind partition resources, sight = .asked (.list host kind partition) (.ok resources) →
    ∀ resource ∈ resources, resource.kind = kind

namespace Teardown

open Tenancy.Action

/-- The changes that a stage asks for; the objects to drain are those that a listing of their kind
showed. -/
inductive Belongs (host partition : String) (seen : Trail Backend) : Option Stage → Request → Prop
  | port (name) : Belongs host partition seen (some .ports) (.releasePort name)
  | object {kind resources resource}
      (listed : .asked (.list host kind partition) (.ok resources) ∈ seen)
      (member : resource ∈ resources) :
      Belongs host partition seen (some (.draining kind)) (.delete host resource)
  | tag {kind resources resource tag}
      (listed : .asked (.list host kind partition) (.ok resources) ∈ seen)
      (member : resource ∈ resources) (tagged : resource.fabricTag = some tag) :
      Belongs host partition seen (some (.draining kind)) (.releaseTag host tag)
  | routeDomain (name) :
      Belongs host partition seen (some .routeDomains) (.delete host (.routeDomain partition name))
  | folder : Belongs host partition seen (some .folder) (.delete host (.folder partition))

inductive Ends (host partition : String) (Named : String → Prop) :
    Option Stage → Except TenantError Outcome → Prop
  | absent : Ends host partition Named none (.ok .absent)
  | notEmpty : Ends host partition Named none (.ok .notEmpty)
  | unread (kind source) :
      Ends host partition Named none (.error (.catalog host partition kind source))
  | cancelled {stage} (going : stage ≠ some .folder) :
      Ends host partition Named stage (.error (.cancelled host partition))
  | failed {stage failure} (fails : FailsIn host partition Named stage failure) :
      Ends host partition Named (some stage) (.error failure)
  | removed : Ends host partition Named (some .folder) (.ok .removed)

variable {policy : RetryPolicy} {host partition : String} {trail before after : Trail Backend}
  {request : Request} {result : Except TenantError Outcome} {Named : String → Prop}

theorem Ends.cancelled_named {stage : Option Stage} {other named : String}
    (ends : Ends host partition Named stage result)
    (own : ∀ named, Named named → named = partition)
    (cancelled : result = .error (.cancelled other named)) : other = host ∧ named = partition := by
  cases ends with
  | cancelled going =>
      cases cancelled
      exact ⟨rfl, rfl⟩
  | failed fails =>
      cases cancelled
      cases fails with
      | interrupted shown => exact ⟨rfl, own _ shown⟩
  | absent | notEmpty | unread | removed => cases cancelled

theorem work_asks {names : List String} {stage : Stage}
    (asked : (work policy host partition names stage).Asks trail request)
    (changes : request.changes) : Belongs host partition trail (some stage) request := by
  cases stage with
  | ports =>
      have due : Due host partition [] request := releasePorts_asks asked
      cases due with
      | probe | list => cases changes
      | port name => exact .port name
      | object drained listed => cases listed
      | tag listed => cases listed
      | routeDomain name drained =>
          obtain ⟨resources, listed, -⟩ := drained .snat (by decide)
          cases listed
      | folder idle =>
          obtain ⟨resources, listed, -⟩ := idle .node (by decide)
          cases listed
  | offered => exact absurd asked not_asks_pure
  | draining kind =>
      obtain ⟨-, rfl⟩ | ⟨resources, later, rfl, draining⟩ := asks_list_bind_iff.mp asked
      · cases changes
      · obtain ⟨resource, member, rfl | ⟨tag, tagged, rfl⟩⟩ := drainEach_asks draining
        · exact .object List.mem_cons_self member
        · exact .tag List.mem_cons_self member tagged
  | routeDomains =>
      obtain ⟨name, rfl⟩ := deleteRouteDomains_asks (asks_note_bind_iff.mp asked)
      exact .routeDomain name
  | folder =>
      obtain removing | ⟨_, _, _, -, -, noted⟩ := asks_bind_iff.mp asked
      · obtain rfl := deleteFolder_asks removing
        exact .folder
      · exact absurd noted not_asks_note

theorem Belongs.mono {stage : Option Stage} (belongs : Belongs host partition before stage request)
    (subset : before ⊆ trail) : Belongs host partition trail stage request := by
  cases belongs with
  | port name => exact .port name
  | object listed member => exact .object (subset listed) member
  | tag listed member tagged => exact .tag (subset listed) member tagged
  | routeDomain name => exact .routeDomain name
  | folder => exact .folder

theorem passed_checks_append (domains : List Resource) (later : Trail Backend) :
    (checks host partition domains ++ later).passed = later.passed := by
  rw [Trail.passed_append]
  exact Nat.zero_add later.passed

theorem checks_calm (domains : List Resource) : (checks host partition domains).Tells false := by
  simp [checks, Trail.Tells, Sight.told?]

theorem stage?_of_passed {place : Nat} (passed : trail.passed = place + 1) :
    trail.stage? = Stage.course[place]? := by
  rw [Trail.stage?, passed]

/-- Whatever change a teardown asks for, it belongs to the stage that its trail has come to. -/
theorem run_belongs (asked : (run policy host partition).Asks trail request)
    (changes : request.changes) : Belongs host partition trail trail.stage? request := by
  obtain (rfl | ⟨kind, rfl⟩) | ⟨domains, later, rfl, goes⟩ := run_asks_cases asked
  · cases changes
  · cases changes
  rw [dismantle_eq, asks_bind_iff] at goes
  obtain inside | ⟨_, _, _, -, -, ended⟩ := goes
  · obtain ⟨place, stage, own, found, passed, within, working⟩ :=
      inStages_asks work_steady inside (Trail.shows_names later)
    rw [stage?_of_passed ((passed_checks_append domains later).trans passed), found]
    exact (work_asks working changes).mono
      (List.Subset.trans within (List.subset_append_right _ later))
  · exact absurd ended not_asks_pure

theorem stage?_eq_folder_iff : trail.stage? = some .folder ↔ trail.passed = 9 := by
  rw [Trail.stage?]
  rcases trail.passed with _ | place
  · simp
  · by_cases low : place < 9
    · have found : ∀ place < 9, Stage.course[place]? = some .folder ↔ place + 1 = 9 := by decide
      exact found place low
    · have length : Stage.course.length = 9 := rfl
      have none : Stage.course[place]? = none := List.getElem?_eq_none (by omega)
      simp only [none, reduceCtorEq, false_iff]
      omega

theorem Gated.ends (gated : Gated host partition trail result) :
    Ends host partition Named trail.stage? result ∧ Program.Ceases result trail := by
  cases gated with
  | probeFails | domainsFail | addressesFail | nodesFail =>
      exact ⟨.unread _ _, Program.ceases_of_tells (by simp [Trail.Tells, Sight.told?])⟩
  | absent => exact ⟨.absent, Program.ceases_of_tells (by simp [Trail.Tells, Sight.told?])⟩
  | addressesLeft | nodesLeft =>
      exact ⟨.notEmpty, Program.ceases_of_tells (by simp [Trail.Tells, Sight.told?])⟩
  | cancelled domains =>
      have ends : Ends host partition Named none (.error (.cancelled host partition)) :=
        .cancelled (by decide)
      exact ⟨ends, Program.ceases_append (checks_calm domains) Program.ceases_of_cancelled⟩

/-- How a teardown ends, as far as its checkpoints let it go. -/
theorem run_ends (taken : Program.Yields (run policy host partition).run trail result) :
    Ends host partition trail.Names trail.stage? result ∧ Program.Ceases result trail := by
  obtain ⟨domains, later, rfl, goes⟩ | gated := run_opens taken
  case inr => exact gated.ends
  have shows : ∀ sight ∈ later, sight.Shows (checks host partition domains ++ later).Names :=
    fun sight member => Trail.shows_names _ sight (List.mem_append_right _ member)
  have passed : (checks host partition domains ++ later).passed = later.passed :=
    passed_checks_append domains later
  rw [dismantle_eq] at goes
  obtain ⟨failure, ends, rfl⟩ | ⟨_, first, _, rfl, finished, rfl, rfl⟩ := yields_bind_iff.mp goes
  · obtain ⟨ending, ceases⟩ := inStages_conduct work_steady ends shows
    refine ⟨?_, Program.ceases_append (checks_calm domains) ceases.error⟩
    cases ending with
    | cancelled some =>
        refine .cancelled fun folder => ?_
        rw [stage?_eq_folder_iff.mp folder] at passed
        exact absurd some (passed ▸ Nat.lt_irrefl 9)
    | failed found inside fails =>
        rw [stage?_of_passed (passed.trans inside), found]
        exact .failed fails
  · rw [List.append_nil] at passed shows ⊢
    obtain ⟨ending, ceases⟩ := inStages_conduct work_steady finished shows
    have calm := ceases.calm fun _ _ same => nomatch same
    refine ⟨?_, Program.ceases_of_tells (Trail.tells_append.mpr ⟨checks_calm domains, calm⟩)⟩
    cases ending with
    | finished all =>
        rw [stage?_eq_folder_iff.mpr (passed.trans all)]
        exact .removed

/-- A teardown that shutdown is requested of: what it sees after that, and how it ends. -/
structure Halts (host partition : String) (before after : Trail Backend)
    (result : Except TenantError Outcome) : Prop where
  belongs : ∀ first request answer last, after = first ++ .asked request answer :: last →
    request.changes → Belongs host partition (before ++ first) before.stage? request
  /-- A pause or a checkpoint is the last thing that it sees, and then it is cancelled. -/
  ceases : ∀ first sight last, after = first ++ sight :: last → sight.told?.isSome →
    last = [] ∧ ∃ host named, result = .error (.cancelled host named)
  ends : Ends host partition (before ++ after).Names before.stage? result

theorem Halts.unbegun (halts : Halts host partition before after result)
    (outside : before.stage? = none) (request : Request) (answer : request.Answer)
    (asked : .asked request answer ∈ after) : request.changes = false := by
  obtain ⟨first, last, rfl⟩ := List.append_of_mem asked
  refine Bool.eq_false_iff.mpr fun changes => ?_
  have belongs := halts.belongs first request answer last rfl changes
  rw [outside] at belongs
  cases belongs

theorem draining_of_stage? {kind : Kind} (stage : trail.stage? = some (.draining kind)) :
    kind ∈ Kind.drainOrder := by
  have course : ∀ stage ∈ Stage.course, ∀ kind ∈ Kind.all, stage = .draining kind →
      kind ∈ Kind.drainOrder := by decide
  rw [Trail.stage?] at stage
  split at stage
  · cases stage
  · exact course _ (List.mem_of_getElem? stage) kind (Kind.mem_all kind) rfl

theorem Halts.folder (halts : Halts host partition before after result)
    (kinds : ∀ sight ∈ before ++ after, sight.ShowsKind)
    {answer : Except DeviceError Unit}
    (deleted : .asked (.delete host (.folder partition)) answer ∈ after) :
    before.stage? = some .folder := by
  obtain ⟨first, last, rfl⟩ := List.append_of_mem deleted
  have belongs := halts.belongs first (.delete host (.folder partition)) answer last rfl rfl
  generalize found : before.stage? = stage at belongs
  cases belongs with
  | folder => rfl
  | object listed member =>
      have known := kinds _ (by simpa using (List.mem_append.mp listed).imp_right .inl)
      have kind := known _ _ _ _ rfl _ member
      have drained := draining_of_stage? found
      rw [← kind] at drained
      simp [Resource.folder, Kind.drainOrder] at drained

theorem Halts.cancelled_named (halts : Halts host partition before after result)
    (own : ∀ named, (before ++ after).Names named → named = partition) {other named : String}
    (cancelled : result = .error (.cancelled other named)) : other = host ∧ named = partition :=
  halts.ends.cancelled_named own cancelled

/-- Once shutdown is requested, a teardown does no more than its stage has still to do. -/
theorem run_halts
    (taken : Program.Yields (run policy host partition).run (before ++ after) result)
    (tells : after.Tells true) : Halts host partition before after result := by
  obtain ⟨ends, ceases⟩ := run_ends taken
  rw [Trail.stage?_append_of_tells tells] at ends
  refine ⟨?_, ?_, ends⟩
  · rintro first request answer last rfl changes
    rw [← List.append_assoc] at taken
    have early := (Trail.tells_append.mp tells).1
    rw [← Trail.stage?_append_of_tells early]
    exact run_belongs taken.asks changes
  · rintro first sight last rfl told
    obtain ⟨requested, same⟩ := Option.isSome_iff_exists.mp told
    obtain rfl := tells sight (by simp) requested same
    exact ceases (before ++ first) sight last (List.append_assoc _ _ _).symm same

end Teardown

end Tenancy
