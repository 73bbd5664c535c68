import Tenancy.Proofs.Teardown.Ports

/-!
The kinds of objects that hold ports are listed twice in a teardown: for their ports, and again to
delete the objects. The first listing is passed over if it fails, the second one ends the teardown.
-/

namespace Tenancy.Teardown

open Tenancy.Action

variable {policy : RetryPolicy} {host partition : String} {kind : Kind} {kinds : List Kind}
  {front rest trail seen : Trail Backend} {source : DeviceError}
  {result : Except TenantError Outcome}

/-- A failed read of a kind that holds ports, in a teardown that is past its ports, is what the
teardown ends with, before it deletes any object of the kind. No other read of the kind ends it. -/
structure Surfaces (host partition : String) (trail : Trail Backend)
    (result : Except TenantError Outcome) : Prop where
  ends : ∀ kind ∈ Kind.portBound, ∀ (front : Trail Backend) source rest,
    trail = front ++ .asked (.list host kind partition) (.error source) :: rest →
      1 < front.passed → rest = [] ∧ result = .error (.catalog host partition kind source) ∧
        ∀ resource answer, .asked (.delete host resource) answer ∈ front → resource.kind ≠ kind
  only : ∀ kind ∈ Kind.portBound, ∀ source,
    result = .error (.catalog host partition kind source) →
      ∃ front : Trail Backend,
        trail = front ++ [.asked (.list host kind partition) (.error source)] ∧ 1 < front.passed

theorem Offered.mem {resources : List Resource} (offered : Offered resources trail) :
    ∀ resource ∈ resources, ∃ given, .asked (.releasePort resource.name) given ∈ trail := by
  induction offered with
  | nil => exact List.forall_mem_nil _
  | cons later ih =>
      refine List.forall_mem_cons.mpr ⟨⟨_, List.mem_cons_self⟩, fun resource member => ?_⟩
      obtain ⟨given, asked⟩ := ih resource member
      exact ⟨given, List.mem_cons_of_mem _ asked⟩

theorem PortsOffered.read (offered : PortsOffered host partition kinds trail)
    (member : kind ∈ kinds) :
    ∃ before answer after, trail = before ++ .asked (.list host kind partition) answer :: after ∧
      ∀ resource ∈ shown answer, ∃ given, .asked (.releasePort resource.name) given ∈ after := by
  induction offered with
  | nil => cases member
  | @listed other kinds resources first later offered offers ih =>
      obtain rfl | member := List.mem_cons.mp member
      · refine ⟨[], .ok resources, _, rfl, fun resource found => ?_⟩
        obtain ⟨given, asked⟩ := offered.mem resource found
        exact ⟨given, List.mem_append_left _ asked⟩
      · obtain ⟨before, answer, after, rfl, names⟩ := ih member
        exact ⟨.asked (.list host other partition) (.ok resources) :: (first ++ before), answer,
          after, by simp, names⟩
  | @unlisted other kinds source later offers ih =>
      obtain rfl | member := List.mem_cons.mp member
      · exact ⟨[], .error source, later, rfl, List.forall_mem_nil _⟩
      · obtain ⟨before, answer, after, rfl, names⟩ := ih member
        exact ⟨.asked (.list host other partition) (.error source) :: before, answer, after, rfl,
          names⟩

theorem drain_asks_delete {target : String} {resource : Resource}
    (asked : (drain policy host partition kinds).Asks seen (.delete target resource)) :
    target = host ∧ ∃ kind resources before after,
      seen = before ++ .asked (.list host kind partition) (.ok resources) :: after ∧
        resource ∈ resources := by
  induction kinds generalizing seen with
  | nil => exact absurd asked not_asks_pure
  | cons kind kinds ih =>
      rw [drain] at asked
      obtain ⟨_, rfl, opened⟩ := asks_checkpoint_bind_iff.mp asked
      obtain ⟨-, same⟩ | ⟨resources, _, rfl, goes⟩ := asks_list_bind_iff.mp opened
      · cases same
      obtain emptying | ⟨_, first, _, rfl, -, later⟩ := asks_bind_iff.mp goes
      · obtain ⟨own, member, same | ⟨_, -, same⟩⟩ := drainEach_asks emptying
        · cases same
          exact ⟨rfl, kind, resources, [.looked false], _, rfl, member⟩
        · cases same
      · obtain ⟨same, other, shown, before, after, rfl, member⟩ := ih later
        exact ⟨same, other, shown, .looked false ::
          .asked (.list host kind partition) (.ok resources) :: (first ++ before), after, by simp,
          member⟩

/-- An object that holds a port is deleted after a second listing that showed it; the ports of all
that the first listing showed were offered in between. -/
theorem run_asks_delete {target : String} {resource : Resource}
    (asked : (run policy host partition).Asks seen (.delete target resource))
    (bound : resource.kind ∈ Kind.portBound) :
    target = host ∧ ∃ kind resources, resource ∈ resources ∧
      .asked (.list host kind partition) (.ok resources) ∈ seen ∧
      (kind ∈ Kind.portBound → ∃ first answer middle last,
        seen = first ++ .asked (.list host kind partition) answer ::
          (middle ++ .asked (.list host kind partition) (.ok resources) :: last) ∧
        ∀ resource ∈ shown answer, ∃ given,
          .asked (.releasePort resource.name) given ∈ middle) := by
  obtain (same | ⟨_, same⟩) | ⟨domains, _, rfl, goes⟩ := run_asks_cases asked
  · cases same
  · cases same
  have unbound : Kind.routeDomain ∉ Kind.portBound ∧ Kind.folder ∉ Kind.portBound := by decide
  rw [dismantle] at goes
  obtain ⟨_, rfl, opened⟩ := asks_checkpoint_bind_iff.mp goes
  obtain offering | ⟨_, ports, _, rfl, succeeds, offered⟩ := asks_bind_iff.mp opened
  · have due : Due host partition [] (.delete target resource) := releasePorts_asks offering
    cases due with
    | object drained listed => cases listed
    | routeDomain name => exact absurd bound unbound.1
    | folder => exact absurd bound unbound.2
  obtain ⟨_, rfl, draining⟩ := asks_checkpoint_bind_iff.mp offered
  obtain emptying | ⟨_, drained, _, rfl, -, emptied⟩ := asks_bind_iff.mp draining
  · obtain ⟨rfl, kind, resources, before, after, rfl, member⟩ := drain_asks_delete emptying
    refine ⟨rfl, kind, resources, member, by simp, fun held => ?_⟩
    obtain ⟨early, answer, late, rfl, names⟩ :=
      (releasePorts_succeeds_iff.mp succeeds).read held
    refine ⟨opening target partition domains ++ early, answer, late ++ .looked false :: before,
      after, by simp [opening, checks], fun resource found => ?_⟩
    obtain ⟨given, asked⟩ := names resource found
    exact ⟨given, List.mem_append_left _ asked⟩
  -- The route domains and the folder hold no ports.
  obtain ⟨_, rfl, deleting⟩ := asks_checkpoint_bind_iff.mp emptied
  obtain domain | ⟨_, _, _, rfl, -, last⟩ := asks_bind_iff.mp (asks_note_bind_iff.mp deleting)
  · obtain ⟨name, same⟩ := deleteRouteDomains_asks domain
    cases same
    exact absurd bound unbound.1
  obtain ⟨_, rfl, folder⟩ := asks_checkpoint_bind_iff.mp last
  obtain removing | ⟨_, _, _, -, -, ended⟩ := asks_bind_iff.mp folder
  · cases deleteFolder_asks removing
    exact absurd bound unbound.2
  · exact absurd (asks_note_bind_iff.mp ended) not_asks_pure

theorem yields_checkpoint_bind_cut {α : Type} {action : Unit → Action α} {request : Request}
    {answer : request.Answer} {ended : Except TenantError α}
    (taken : Program.Yields (checkpoint host partition >>= action).run
      (front ++ .asked request answer :: rest) ended) :
    ∃ later, front = .looked false :: later ∧
      Program.Yields (action ()).run (later ++ .asked request answer :: rest) ended := by
  obtain ⟨same, -⟩ | ⟨later, same, goes⟩ := yields_checkpoint_bind_iff.mp taken
  · cases front <;> simp at same
  · cases front with
    | nil => cases same
    | cons sight front =>
        obtain ⟨rfl, rfl⟩ := List.cons.inj same
        exact ⟨front, rfl, goes⟩

theorem shows_anything (trail : Trail Backend) : ∀ sight ∈ trail, sight.Shows fun _ => True :=
  fun _ _ _ _ _ _ _ _ _ => trivial

theorem work_unread {names : List String} {stage : Stage} {ended : Except TenantError Unit}
    (taken : Program.Yields (work policy host partition names stage).run
      (front ++ .asked (.list host kind partition) (.error source) :: rest) ended) :
    stage = .ports ∨ stage = .draining kind ∧ front = [] ∧ rest = [] ∧
      ended = .error (.catalog host partition kind source) := by
  cases stage with
  | ports => exact .inl rfl
  | offered => exact absurd taken.asks not_asks_pure
  | draining own =>
      obtain ⟨_, same, rfl⟩ | ⟨resources, later, same, goes⟩ := yields_list_bind_iff.mp taken
      · cases front with
        | nil =>
            cases same
            exact .inr ⟨rfl, rfl, rfl, rfl⟩
        | cons sight front => simp at same
      · cases front with
        | nil => cases same
        | cons sight front =>
            obtain ⟨-, rfl⟩ := List.cons.inj same
            obtain ⟨_, -, asked | ⟨_, -, asked⟩⟩ := drainEach_asks goes.asks
            · cases asked
            · cases asked
  | routeDomains =>
      obtain ⟨_, same⟩ := deleteRouteDomains_asks (asks_note_bind_iff.mp taken.asks)
      cases same
  | folder =>
      obtain removing | ⟨_, _, _, -, -, noted⟩ := asks_bind_iff.mp taken.asks
      · cases deleteFolder_asks removing
      · exact absurd noted not_asks_note

theorem inStages_unread {names : List String} {stages : List Stage}
    {ended : Except TenantError Unit}
    (taken : Program.Yields (inStages host partition (work policy host partition names) stages).run
      (front ++ .asked (.list host kind partition) (.error source) :: rest) ended) :
    ∃ place stage, stages[place]? = some stage ∧ front.passed = place + 1 ∧
      (stage = .ports ∨ stage = .draining kind ∧ rest = [] ∧
        ended = .error (.catalog host partition kind source) ∧
          ∃ lead, front = lead ++ [.looked false]) := by
  induction stages generalizing front with
  | nil => exact absurd taken.asks not_asks_pure
  | cons stage stages ih =>
      rw [inStages] at taken
      obtain ⟨later, rfl, opened⟩ := yields_checkpoint_bind_cut taken
      rw [Trail.passed_looked]
      have steady := @work_steady policy host partition names (fun _ => True) stage
      obtain ⟨_, _, working, failed⟩ | ⟨_, first, later, rfl, succeeds, goes⟩ :=
        yields_bind_cut opened
      · refine ⟨0, stage, rfl, ?_, ?_⟩
        · rw [steady.passed_of_asks working.asks (shows_anything later)]
        · obtain ports | ⟨draining, rfl, rfl, same⟩ := work_unread working
          · exact .inl ports
          · obtain ⟨rfl, surfaced⟩ := failed _ same
            exact .inr ⟨draining, rfl, surfaced, [], rfl⟩
      · obtain ⟨place, own, found, passed, ends⟩ := ih goes
        refine ⟨place + 1, own, found, ?_, ends.imp_right ?_⟩
        · rw [Trail.passed_append, (steady.conduct succeeds (shows_anything first)).passed, passed]
          omega
        · rintro ⟨draining, rfl, same, lead, rfl⟩
          exact ⟨draining, rfl, same, .looked false :: (first ++ lead), by simp⟩

theorem drainEach_not_catalog {resources : List Resource} {other named : String} :
    ¬ Program.Yields (drainEach policy host resources).run trail
      (.error (.catalog other named kind source)) := by
  have steady : (drainEach policy host resources).Steady (fun _ => True)
      fun failure => failure ≠ .catalog other named kind source := by
    induction resources with
    | nil => exact steady_pure ()
    | cons resource resources ih =>
        have deleted : (Deletion.delete policy host resource).Steady (fun _ => True)
            fun failure => failure ≠ .catalog other named kind source :=
          attempt_steady nofun fun _ _ => nofun
        exact deleted.bind fun _ => (releaseTag_steady fun _ _ => nofun).bind fun _ => ih
  exact fun taken => (steady.conduct taken fun _ _ => trivial).fails _ rfl rfl

theorem work_catalog {names : List String} {stage : Stage} {other named : String}
    (taken : Program.Yields (work policy host partition names stage).run trail
      (.error (.catalog other named kind source))) :
    stage = .draining kind ∧ trail = [.asked (.list host kind partition) (.error source)] := by
  have steady := @work_steady policy host partition names (fun _ => True) stage
  have fails := (steady.conduct taken (shows_anything trail)).fails _ rfl
  cases fails with
  | unlisted =>
      obtain ⟨_, rfl, same⟩ | ⟨resources, _, rfl, goes⟩ := yields_list_bind_iff.mp taken
      · cases same
        exact ⟨rfl, rfl⟩
      · exact absurd goes drainEach_not_catalog

theorem inStages_catalog {names : List String} {stages : List Stage} {other named : String}
    (taken : Program.Yields (inStages host partition (work policy host partition names) stages).run
      trail (.error (.catalog other named kind source))) :
    ∃ (place : Nat) (front : Trail Backend), stages[place]? = some (.draining kind) ∧
      trail = front ++ [.asked (.list host kind partition) (.error source)] ∧
      front.passed = place + 1 := by
  induction stages generalizing trail with
  | nil => cases taken.2
  | cons stage stages ih =>
      rw [inStages] at taken
      obtain ⟨-, same⟩ | ⟨later, rfl, opened⟩ := yields_checkpoint_bind_iff.mp taken
      · cases same
      have steady := @work_steady policy host partition names (fun _ => True) stage
      obtain ⟨_, ends, same⟩ | ⟨_, first, _, rfl, succeeds, goes⟩ := yields_bind_iff.mp opened
      · obtain rfl := Except.error.inj same
        obtain ⟨rfl, rfl⟩ := work_catalog ends
        exact ⟨0, [.looked false], rfl, rfl, rfl⟩
      · obtain ⟨place, front, found, rfl, passed⟩ := ih goes
        refine ⟨place + 1, .looked false :: (first ++ front), found, by simp, ?_⟩
        rw [Trail.passed_looked, Trail.passed_append,
          (steady.conduct succeeds (shows_anything first)).passed, passed]
        omega

theorem Gated.passed (gated : Gated host partition trail result) : trail.passed = 0 := by
  cases gated <;> rfl

/-- Past the ports, a failed read is in the stage that drains its kind, and ends the teardown. -/
theorem run_unread (late : 1 < front.passed)
    (taken : Program.Yields (run policy host partition).run
      (front ++ .asked (.list host kind partition) (.error source) :: rest) result) :
    rest = [] ∧ result = .error (.catalog host partition kind source) ∧
      front.stage? = some (.draining kind) ∧ ∃ lead, front = lead ++ [.looked false] := by
  obtain ⟨domains, later, same, goes⟩ | gated := run_opens taken
  case inr =>
    have none := gated.passed
    rw [Trail.passed_append] at none
    omega
  obtain ⟨middle, rfl, rfl⟩ | ⟨middle, same, -⟩ := Trail.append_eq_cut.mp same.symm
  case inr =>
    have none := congrArg Trail.passed same
    rw [Trail.passed_append, show (checks host partition domains).passed = 0 from rfl] at none
    omega
  have passed : (checks host partition domains ++ middle).passed = Trail.passed middle :=
    passed_checks_append domains middle
  rw [dismantle_eq] at goes
  obtain ⟨_, _, staging, failed⟩ | ⟨_, _, _, -, -, ended⟩ := yields_bind_cut goes
  · obtain ⟨place, stage, found, inside, rfl | ⟨rfl, rfl, unread, lead, rfl⟩⟩ :=
      inStages_unread staging
    · have first : Trail.passed middle = 0 + 1 :=
        passed_of_stage rfl ((stage?_of_passed inside).trans found)
      omega
    · obtain ⟨rfl, surfaced⟩ := failed _ unread
      exact ⟨rfl, surfaced, (stage?_of_passed (passed.trans inside)).trans found,
        checks host partition domains ++ lead, (List.append_assoc ..).symm⟩
  · exact absurd ended.asks not_asks_pure

theorem run_catalog (bound : kind ∈ Kind.portBound)
    (taken : Program.Yields (run policy host partition).run trail
      (.error (.catalog host partition kind source))) :
    ∃ front : Trail Backend,
      trail = front ++ [.asked (.list host kind partition) (.error source)] ∧ 1 < front.passed := by
  obtain ⟨domains, later, rfl, goes⟩ | gated := run_opens taken
  · rw [dismantle_eq] at goes
    obtain ⟨_, ends, same⟩ | ⟨_, _, _, -, -, ended⟩ := yields_bind_iff.mp goes
    · obtain rfl := Except.error.inj same
      obtain ⟨place, front, found, rfl, passed⟩ := inStages_catalog ends
      refine ⟨checks host partition domains ++ front, (List.append_assoc ..).symm, ?_⟩
      rw [passed_checks_append, passed]
      cases place with
      | zero => cases found
      | succ place => omega
    · cases ended.2
  · have unbound : ∀ kind ∈ Kind.loadBearing ++ [.folder, .routeDomain], kind ∉ Kind.portBound := by
      decide
    cases gated <;> exact absurd bound (unbound _ (by decide))

theorem passed_eq_of_stage? {first second : Trail Backend} {stage : Stage}
    (early : first.stage? = some stage) (late : second.stage? = some stage) :
    first.passed = second.passed := by
  rw [Trail.stage?] at early
  split at early
  · cases early
  next place passed => rw [passed, passed_of_stage early late]

theorem not_deleted_of_unread (bound : kind ∈ Kind.portBound) (late : 1 < front.passed)
    (shows : ∀ sight ∈ front, sight.ShowsKind)
    (taken : Program.Yields (run policy host partition).run
      (front ++ .asked (.list host kind partition) (.error source) :: rest) result)
    {resource : Resource} {answer : Except DeviceError Unit}
    (deleted : .asked (.delete host resource) answer ∈ front) : resource.kind ≠ kind := by
  rintro rfl
  obtain ⟨-, -, here, lead, same⟩ := run_unread late taken
  obtain ⟨before, after, rfl⟩ := List.append_of_mem deleted
  rw [List.append_assoc, List.cons_append] at taken
  have belongs := run_belongs taken.asks rfl
  generalize found : Trail.stage? before = stage at belongs
  cases belongs with
  | object listed member =>
      -- The deletion would be in the stage that the failed read begins.
      have kind := shows _ (List.mem_append_left _ listed) _ _ _ _ rfl _ member
      rw [← kind] at found
      have passed := passed_eq_of_stage? found here
      obtain ⟨middle, -, none⟩ | ⟨middle, -, rfl⟩ := Trail.append_eq_cut.mp same.symm
      · cases middle <;> simp at none
      · have beyond : Trail.passed (I := Backend) (.asked (.delete host resource) answer ::
            (middle ++ [.looked false])) = Trail.passed middle + 1 :=
          (Trail.passed_cons rfl).trans (Trail.passed_append _ _)
        rw [Trail.passed_append, beyond] at passed
        omega
  | routeDomain => exact absurd bound (by simp [Resource.routeDomain, Kind.portBound])
  | folder => exact absurd bound (by simp [Resource.folder, Kind.portBound])

theorem run_surfaces (shows : ∀ sight ∈ trail, sight.ShowsKind)
    (taken : Program.Yields (run policy host partition).run trail result) :
    Surfaces host partition trail result where
  ends := by
    rintro kind bound front source rest rfl late
    obtain ⟨none, same, -⟩ := run_unread late taken
    refine ⟨none, same, fun resource answer deleted => ?_⟩
    exact not_deleted_of_unread bound late
      (fun sight member => shows sight (List.mem_append_left _ member)) taken deleted
  only := by
    rintro kind bound source rfl
    exact run_catalog bound taken

end Tenancy.Teardown
