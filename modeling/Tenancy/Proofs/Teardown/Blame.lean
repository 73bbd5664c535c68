import Tenancy.Proofs.Teardown.Ports

/-!
What a failure of a teardown says of its trail. The trail ends with the call that failed, which the
failure names with its answer, and every failure before that was passed over: a listing in the
stage of the ports, the release of a port, a deletion of what is already gone, or one that was
tried again.
-/

namespace Tenancy

def Request.failed : (request : Request) → request.Answer → Bool
  | .probe .., answer => !answer.isOk
  | .create .., answer => !answer.isOk
  | .list .., answer => !answer.isOk
  | .delete .., answer => !answer.isOk
  | .releasePort _, answer => !answer.isOk
  | .releaseTag .., answer => !answer.isOk

def Sight.fails : Sight Backend → Bool
  | .asked request answer => request.failed answer
  | .paused .. | .looked _ => false

def Sight.ShowsOwn (sight : Sight Backend) : Prop :=
  ∀ host kind partition resources, sight = .asked (.list host kind partition) (.ok resources) →
    ∀ resource ∈ resources, resource.kind = kind ∧ resource.partition = partition

instance : DecidablePred Sight.ShowsOwn
  | .asked (.list _ kind partition) (.ok resources) =>
      decidable_of_iff
        (∀ resource ∈ resources, resource.kind = kind ∧ resource.partition = partition)
        ⟨fun own _ _ _ _ same => by cases same; exact own, fun shows => shows _ _ _ _ rfl⟩
  | .asked (.list ..) (.error _) | .asked (.probe ..) _ | .asked (.create ..) _
  | .asked (.delete ..) _ | .asked (.releasePort _) _ | .asked (.releaseTag ..) _
  | .paused .. | .looked _ => .isTrue nofun

/-- The trail does not end with a pause, so that a deletion that follows begins there. -/
def Trail.Rested (trail : Trail Backend) : Prop :=
  ∀ milliseconds requested, trail.getLast? ≠ some (.paused milliseconds requested)

theorem Trail.rested_concat (trail : Trail Backend) (request : Request) (answer : request.Answer) :
    Trail.Rested (trail ++ [.asked request answer]) := by
  simp [Rested]

theorem Trail.Rested.append {first second : Trail Backend} (early : first.Rested)
    (late : second.Rested) : Trail.Rested (first ++ second) := by
  intro milliseconds requested last
  rw [List.getLast?_append] at last
  cases ended : second.getLast? with
  | none => exact early _ _ (by simpa [ended] using last)
  | some sight => exact late _ _ (by simpa [ended] using last)

namespace Teardown

open Tenancy.Action

/-- The failures that a teardown passes over, by what it has seen before and what it sees next. -/
inductive Swallowed (policy : RetryPolicy) (host partition : String)
    (before after : Trail Backend) : Sight Backend → Prop
  | unlisted {kind} (source) (bound : kind ∈ Kind.portBound)
      (stage : before.stage? = some .ports) :
      Swallowed policy host partition before after
        (.asked (.list host kind partition) (.error source))
  | unreleased (port source) :
      Swallowed policy host partition before after (.asked (.releasePort port) (.error source))
  | missing (resource) {source} (gone : source.isNotFound) :
      Swallowed policy host partition before after
        (.asked (.delete host resource) (.error source))
  | retried (resource reporter detail) {answer rest}
      (next : after = .paused policy.interval.milliseconds false ::
        .asked (.delete host resource) answer :: rest) :
      Swallowed policy host partition before after
        (.asked (.delete host resource) (.error (.authExpired reporter detail)))

def Harmless (policy : RetryPolicy) (host partition : String) (before trail after : Trail Backend) :
    Prop :=
  ∀ first sight last, trail = first ++ sight :: last → sight.fails →
    Swallowed policy host partition (before ++ first) (last ++ after) sight

inductive Expired (interval : Span) (host : String) (resource : Resource) :
    Nat → Trail Backend → Prop
  | nil : Expired interval host resource 0 []
  | cons {count reporter detail rest} (later : Expired interval host resource count rest) :
      Expired interval host resource (count + 1)
        (.asked (.delete host resource) (.error (.authExpired reporter detail)) ::
          .paused interval.milliseconds false :: rest)

/-- A failure of a teardown names the call that failed, with its answer. The attempts of a deletion
are all calls that it made. -/
inductive Blames (policy : RetryPolicy) (host partition : String) (before : Trail Backend) :
    Sight Backend → TenantError → Prop
  | unprobed (source) :
      Blames policy host partition before (.asked (.probe host .folder partition) (.error source))
        (.catalog host partition .folder source)
  | unlisted {kind} (source) (other : kind ≠ .folder) :
      Blames policy host partition before (.asked (.list host kind partition) (.error source))
        (.catalog host partition kind source)
  | undeleted {resource first expired count source} (drained : resource.kind ∈ Kind.drainOrder)
      (own : resource.partition = partition) (cut : before = first ++ expired)
      (rested : first.Rested) (calls : Expired policy.interval host resource count expired)
      (heeded : source.isNotFound = false) :
      Blames policy host partition before (.asked (.delete host resource) (.error source))
        (.deletion host resource.kind resource.name (count + 1) source)
  | unreleased (tag source) :
      Blames policy host partition before (.asked (.releaseTag host tag) (.error source))
        (.fabricCleanup host tag source)
  | routeDomain (name) {source} (heeded : source.isNotFound = false) :
      Blames policy host partition before
        (.asked (.delete host (.routeDomain partition name)) (.error source))
        (.routeDomain host partition name source)
  | folder {source} (heeded : source.isNotFound = false) :
      Blames policy host partition before
        (.asked (.delete host (.folder partition)) (.error source))
        (.folder host partition source)

def EndsWith (policy : RetryPolicy) (host partition : String) (before trail : Trail Backend)
    (failure : TenantError) : Prop :=
  ∃ earlier last, trail = earlier ++ [last] ∧
    Blames policy host partition (before ++ earlier) last failure ∧
    Harmless policy host partition before earlier [last]

variable {policy : RetryPolicy} {host partition : String}
  {before trail first second after : Trail Backend} {sight : Sight Backend} {failure : TenantError}

theorem harmless_of_calm (calm : ∀ sight ∈ trail, sight.fails = false) :
    Harmless policy host partition before trail after := by
  rintro first sight last rfl fails
  rw [calm sight (by simp)] at fails
  cases fails

theorem Harmless.append (early : Harmless policy host partition before first (second ++ after))
    (late : Harmless policy host partition (before ++ first) second after) :
    Harmless policy host partition before (first ++ second) after := by
  intro lead sight last same fails
  obtain ⟨middle, rfl, rfl⟩ | ⟨middle, rfl, rfl⟩ := Trail.append_eq_cut.mp same
  · rw [← List.append_assoc]
    exact late middle sight last rfl fails
  · rw [List.append_assoc]
    exact early lead sight middle rfl fails

theorem harmless_singleton
    (swallowed : sight.fails → Swallowed policy host partition before after sight) :
    Harmless policy host partition before [sight] after := by
  intro lead own last same fails
  obtain ⟨rfl, rfl, rfl⟩ : lead = [] ∧ own = sight ∧ last = [] := by
    cases lead <;> simp_all
  rw [List.append_nil]
  exact swallowed fails

theorem Harmless.cons
    (first : sight.fails → Swallowed policy host partition before (trail ++ after) sight)
    (late : Harmless policy host partition (before ++ [sight]) trail after) :
    Harmless policy host partition before (sight :: trail) after :=
  (harmless_singleton first).append late

theorem EndsWith.prepend
    (late : EndsWith policy host partition (before ++ first) second failure)
    (early : ∀ after, Harmless policy host partition before first after) :
    EndsWith policy host partition before (first ++ second) failure := by
  obtain ⟨earlier, last, rfl, blames, harmless⟩ := late
  refine ⟨first ++ earlier, last, (List.append_assoc ..).symm, ?_, (early _).append harmless⟩
  rwa [← List.append_assoc]

theorem EndsWith.cons (calm : sight.fails = false)
    (late : EndsWith policy host partition (before ++ [sight]) trail failure) :
    EndsWith policy host partition before (sight :: trail) failure :=
  late.prepend fun _ => harmless_of_calm (List.forall_mem_singleton.mpr calm)

theorem endsWith_singleton (blames : Blames policy host partition before sight failure) :
    EndsWith policy host partition before [sight] failure := by
  refine ⟨[], sight, rfl, ?_, harmless_of_calm (List.forall_mem_nil _)⟩
  rwa [List.append_nil]

section Deletion

variable {interval : Span} {resource : Resource} {retries number count : Nat}

theorem Expired.next (expired : Expired interval host resource count trail)
    (answer : Except DeviceError Unit) (after : Trail Backend) :
    ∃ given rest, trail ++ .asked (.delete host resource) answer :: after =
      .asked (.delete host resource) given :: rest := by
  cases expired with
  | nil => exact ⟨answer, after, rfl⟩
  | cons later => exact ⟨_, _, rfl⟩

theorem Expired.harmless (expired : Expired policy.interval host resource count trail)
    (answer : Except DeviceError Unit) :
    Harmless policy host partition before trail
      (.asked (.delete host resource) answer :: after) := by
  induction expired generalizing before with
  | nil => exact harmless_of_calm (List.forall_mem_nil _)
  | @cons count reporter detail rest later ih =>
      obtain ⟨given, more, next⟩ := later.next answer after
      refine .cons (fun _ => ?_) (.cons nofun ih)
      exact .retried resource reporter detail (congrArg (List.cons _) next)

theorem Deleted.cut (deleted : Deleted interval host resource retries trail) :
    ∃ count expired answer, Expired interval host resource count expired ∧ isGone answer ∧
      trail = expired ++ [.asked (.delete host resource) answer] := by
  induction deleted with
  | gone gone => exact ⟨0, [], _, .nil, gone, rfl⟩
  | again later ih =>
      obtain ⟨count, expired, answer, calls, gone, rfl⟩ := ih
      exact ⟨count + 1, _, answer, .cons calls, gone, rfl⟩

theorem harmless_of_gone {answer : Except DeviceError Unit} (gone : isGone answer) :
    Harmless policy host partition before [.asked (.delete host resource) answer] after := by
  refine harmless_singleton fun fails => ?_
  cases answer with
  | ok => cases fails
  | error source => exact .missing resource gone

theorem Deleted.harmless (deleted : Deleted policy.interval host resource retries trail) :
    Harmless policy host partition before trail after := by
  obtain ⟨count, expired, answer, calls, gone, rfl⟩ := deleted.cut
  exact (calls.harmless answer).append (harmless_of_gone gone)

theorem Deleted.rested (deleted : Deleted interval host resource retries trail) :
    trail.Rested := by
  obtain ⟨count, expired, answer, -, -, rfl⟩ := deleted.cut
  exact Trail.rested_concat expired (.delete host resource) answer

/-- A deletion that is given up has made as many calls as it counts. -/
theorem attempt_fails (going : ∀ host partition, failure ≠ .cancelled host partition)
    (taken : Program.Yields (Deletion.attempt interval host resource retries number).run trail
      (.error failure)) :
    ∃ count expired source, trail = expired ++ [.asked (.delete host resource) (.error source)] ∧
      Expired interval host resource count expired ∧ source.isNotFound = false ∧
      failure = .deletion host resource.kind resource.name (number + count) source := by
  have givenUp {later : Trail Backend} {attempts : Nat} {source : DeviceError}
      (taken : Program.Yields (Deletion.giveUp host resource attempts source).run later
        (.error failure)) :
      later = [] ∧ failure = .deletion host resource.kind resource.name attempts source := by
    obtain ⟨rfl, same⟩ := yields_note_bind_iff.mp taken
    exact ⟨rfl, (Except.error.inj same).symm⟩
  induction retries generalizing number trail with
  | zero =>
      rw [Deletion.attempt] at taken
      obtain ⟨answer, later, rfl, goes⟩ := yields_ask_bind_iff.mp taken
      rcases answer with (_ | _ | _) | _
      case error.authExpired | error.other =>
        obtain ⟨rfl, same⟩ := givenUp goes
        exact ⟨0, [], _, rfl, .nil, rfl, same⟩
      case error.notFound | ok => cases goes.2
  | succ retries ih =>
      rw [Deletion.attempt] at taken
      obtain ⟨answer, later, rfl, goes⟩ := yields_ask_bind_iff.mp taken
      rcases answer with (_ | _ | _) | _
      case error.authExpired =>
        obtain ⟨own, ends, -⟩ | ⟨requested, paused, rest, rfl, told, again⟩ :=
          yields_bind_iff.mp (yields_note_bind_iff.mp goes)
        · obtain ⟨_, _, -, -, same⟩ := ends
          cases same
        obtain rfl := succeeds_pause_iff.mp told
        cases requested with
        | true => exact absurd (Except.error.inj again.2).symm (going _ _)
        | false =>
            obtain ⟨count, expired, source, rfl, calls, heeded, same⟩ := ih again
            refine ⟨count + 1, _, source, rfl, .cons calls, heeded, same.trans ?_⟩
            rw [Nat.add_right_comm, Nat.add_assoc]
      case error.other =>
        obtain ⟨rfl, same⟩ := givenUp goes
        exact ⟨0, [], _, rfl, .nil, rfl, same⟩
      case error.notFound | ok => cases goes.2

end Deletion

theorem released_calm (resource : Resource) :
    ∀ sight ∈ released host resource, sight.fails = false := by
  unfold released
  cases resource.fabricTag with
  | none => simp
  | some tag => simp [Sight.fails, Request.failed, Except.isOk, Except.toBool]

theorem released_rested (resource : Resource) : (released host resource).Rested := by
  unfold released
  cases resource.fabricTag with
  | none => simp [Trail.Rested]
  | some tag => exact Trail.rested_concat [] (.releaseTag host tag) (.ok ())

theorem releaseTag_fails {resource : Resource}
    (taken : Program.Yields (releaseTag host resource).run trail (.error failure)) :
    ∃ tag source, trail = [.asked (.releaseTag host tag) (.error source)] ∧
      failure = .fabricCleanup host tag source := by
  unfold releaseTag at taken
  cases tagged : resource.fabricTag with
  | none =>
      rw [tagged] at taken
      cases taken.2
  | some tag =>
      rw [tagged] at taken
      obtain ⟨answer, later, rfl, goes⟩ := yields_ask_bind_iff.mp taken
      cases answer with
      | ok => cases goes.2
      | error source =>
          obtain ⟨rfl, same⟩ := yields_note_bind_iff.mp goes
          exact ⟨tag, source, rfl, (Except.error.inj same).symm⟩

theorem Emptied.harmless {resources : List Resource}
    (emptied : Emptied policy host resources trail) :
    Harmless policy host partition before trail after := by
  induction emptied generalizing before with
  | nil => exact harmless_of_calm (List.forall_mem_nil _)
  | cons deleted later ih =>
      exact deleted.harmless.append ((harmless_of_calm (released_calm _)).append ih)

theorem Drained.harmless {kinds : List Kind} (drained : Drained policy host partition kinds trail) :
    Harmless policy host partition before trail after := by
  induction drained generalizing before with
  | nil => exact harmless_of_calm (List.forall_mem_nil _)
  | cons emptied later ih => exact .cons nofun (.cons nofun (emptied.harmless.append ih))

theorem Offered.harmless {resources : List Resource} (offered : Offered resources trail) :
    Harmless policy host partition before trail after := by
  induction offered generalizing before with
  | nil => exact harmless_of_calm (List.forall_mem_nil _)
  | @cons resource _ answer _ later ih =>
      refine .cons (fun fails => ?_) ih
      cases answer with
      | ok => cases fails
      | error source => exact .unreleased resource.name source

theorem Offered.passed {resources : List Resource} (offered : Offered resources trail) :
    trail.passed = 0 := by
  induction offered with
  | nil => rfl
  | cons later ih => exact (Trail.passed_cons rfl).trans ih

theorem PortsOffered.harmless {kinds : List Kind} (bound : kinds ⊆ Kind.portBound)
    (first : before.passed = 1) (offered : PortsOffered host partition kinds trail) :
    Harmless policy host partition before trail after := by
  induction offered generalizing before with
  | nil => exact harmless_of_calm (List.forall_mem_nil _)
  | listed offered later ih =>
      refine .cons nofun (offered.harmless.append (ih (List.subset_of_cons_subset bound) ?_))
      rw [Trail.passed_append, Trail.passed_append, first, offered.passed]
      rfl
  | unlisted later ih =>
      refine .cons (fun _ => .unlisted _ (bound List.mem_cons_self) ?_)
        (ih (List.subset_of_cons_subset bound) ?_)
      · exact stage?_of_passed first
      · rw [Trail.passed_append, first]
        rfl

theorem DomainsDeleted.harmless {names : List String}
    (deleted : DomainsDeleted host partition names trail) :
    Harmless policy host partition before trail after := by
  induction deleted generalizing before with
  | nil => exact harmless_of_calm (List.forall_mem_nil _)
  | cons gone later ih => exact (harmless_of_gone gone).append ih

theorem checks_harmless (domains : List Resource) :
    Harmless policy host partition before (checks host partition domains) after :=
  harmless_of_calm (by simp [checks, Sight.fails, Request.failed, Except.isOk, Except.toBool])

theorem drainEach_ends {resources : List Resource}
    (going : ∀ host partition, failure ≠ .cancelled host partition)
    (own : ∀ resource ∈ resources, resource.kind ∈ Kind.drainOrder ∧ resource.partition = partition)
    (rested : before.Rested)
    (taken : Program.Yields (drainEach policy host resources).run trail (.error failure)) :
    EndsWith policy host partition before trail failure := by
  induction resources generalizing before trail with
  | nil => cases taken.2
  | cons resource resources ih =>
      rw [List.forall_mem_cons] at own
      rw [drainEach] at taken
      obtain ⟨_, ends, same⟩ | ⟨_, first, _, rfl, succeeds, goes⟩ := yields_bind_iff.mp taken
      · obtain rfl := Except.error.inj same
        obtain ⟨count, expired, source, rfl, calls, heeded, rfl⟩ := attempt_fails going ends
        refine ⟨expired, _, rfl, ?_, calls.harmless _⟩
        rw [Nat.add_comm]
        exact .undeleted own.1.1 own.1.2 rfl rested calls heeded
      have deleted := attempt_succeeds_iff.mp succeeds
      obtain ⟨_, ends, same⟩ | ⟨_, _, rest, rfl, succeeds, draining⟩ := yields_bind_iff.mp goes
      · obtain rfl := Except.error.inj same
        obtain ⟨tag, source, rfl, rfl⟩ := releaseTag_fails ends
        exact (endsWith_singleton (.unreleased tag source)).prepend fun _ => deleted.harmless
      · obtain rfl := releaseTag_succeeds_iff.mp succeeds
        have clear : Trail.Rested (before ++ first ++ released host resource) :=
          (rested.append deleted.rested).append (released_rested resource)
        have later := (ih own.2 clear draining).prepend
          fun _ => harmless_of_calm (released_calm resource)
        exact later.prepend fun _ => deleted.harmless

theorem drain_ends {kinds : List Kind} (subset : kinds ⊆ Kind.drainOrder)
    (going : ∀ host partition, failure ≠ .cancelled host partition)
    (shows : ∀ sight ∈ trail, sight.ShowsOwn)
    (taken : Program.Yields (drain policy host partition kinds).run trail (.error failure)) :
    EndsWith policy host partition before trail failure := by
  induction kinds generalizing before trail with
  | nil => cases taken.2
  | cons kind kinds ih =>
      rw [drain] at taken
      obtain ⟨-, same⟩ | ⟨_, rfl, opened⟩ := yields_checkpoint_bind_iff.mp taken
      · exact absurd (Except.error.inj same) (going _ _)
      refine .cons rfl ?_
      rw [List.forall_mem_cons] at shows
      have drained := subset List.mem_cons_self
      obtain ⟨source, rfl, same⟩ | ⟨resources, _, rfl, goes⟩ := yields_list_bind_iff.mp opened
      · obtain rfl := Except.error.inj same
        refine endsWith_singleton (.unlisted source ?_)
        rintro rfl
        exact absurd drained (by decide)
      rw [List.forall_mem_cons] at shows
      obtain ⟨-, listed, rest⟩ := shows
      refine .cons rfl ?_
      obtain ⟨_, ends, same⟩ | ⟨_, first, _, rfl, succeeds, goes⟩ := yields_bind_iff.mp goes
      · obtain rfl := Except.error.inj same
        refine drainEach_ends going (fun resource member => ?_) ?_ ends
        · obtain ⟨rfl, own⟩ := listed _ _ _ _ rfl resource member
          exact ⟨drained, own⟩
        · exact Trail.rested_concat _ (.list host kind partition) (.ok resources)
      · rw [List.forall_mem_append] at rest
        exact (ih (List.subset_of_cons_subset subset) rest.2 goes).prepend
          fun _ => (drainEach_succeeds_iff.mp succeeds).harmless

theorem deleteRouteDomains_ends {names : List String}
    (taken : Program.Yields (deleteRouteDomains host partition names).run trail
      (.error failure)) :
    EndsWith policy host partition before trail failure := by
  induction names generalizing before trail with
  | nil => cases taken.2
  | cons name names ih =>
      rw [deleteRouteDomains] at taken
      obtain ⟨answer, later, rfl, goes⟩ := yields_ask_bind_iff.mp taken
      rcases answer with (_ | _ | _) | _
      case error.authExpired | error.other =>
        obtain ⟨rfl, same⟩ := yields_note_bind_iff.mp goes
        obtain rfl := Except.error.inj same
        exact endsWith_singleton (.routeDomain name rfl)
      case error.notFound => exact (ih goes).prepend fun _ => harmless_of_gone rfl
      case ok =>
        exact (ih (yields_note_bind_iff.mp goes)).prepend fun _ => harmless_of_gone rfl

theorem deleteFolder_ends
    (taken : Program.Yields (deleteFolder host partition).run trail (.error failure)) :
    EndsWith policy host partition before trail failure := by
  rw [deleteFolder] at taken
  obtain ⟨answer, later, rfl, goes⟩ := yields_ask_bind_iff.mp taken
  rcases answer with (_ | _ | _) | _
  case error.authExpired | error.other =>
    obtain ⟨rfl, same⟩ := yields_note_bind_iff.mp goes
    obtain rfl := Except.error.inj same
    exact endsWith_singleton (.folder rfl)
  case error.notFound | ok => cases goes.2

theorem dismantle_ends {names : List String} (first : before.passed = 0)
    (going : ∀ host partition, failure ≠ .cancelled host partition)
    (shows : ∀ sight ∈ trail, sight.ShowsOwn)
    (taken : Program.Yields (dismantle policy host partition names).run trail (.error failure)) :
    EndsWith policy host partition before trail failure := by
  have cancelled {later : Trail Backend} {α : Type} :
      ¬ (later = [.looked true] ∧
        (.error failure : Except TenantError α) = .error (.cancelled host partition)) :=
    fun ⟨_, same⟩ => going _ _ (Except.error.inj same)
  rw [dismantle] at taken
  obtain ⟨_, rfl, opened⟩ := (yields_checkpoint_bind_iff.mp taken).resolve_left cancelled
  refine .cons rfl ?_
  obtain ⟨_, fails, -⟩ | ⟨_, ports, _, rfl, succeeds, offered⟩ := yields_bind_iff.mp opened
  · exact (not_releasePorts_fails fails).elim
  have passed : Trail.passed (before ++ [.looked false]) = 1 := by
    rw [Trail.passed_append, first]
    rfl
  refine .prepend ?_ fun _ => (releasePorts_succeeds_iff.mp succeeds).harmless
    (List.Subset.refl _) passed
  obtain ⟨_, rfl, draining⟩ := (yields_checkpoint_bind_iff.mp offered).resolve_left cancelled
  refine .cons rfl ?_
  simp only [List.forall_mem_cons, List.forall_mem_append] at shows
  obtain ⟨_, ends, same⟩ | ⟨_, drained, _, rfl, succeeds, emptied⟩ := yields_bind_iff.mp draining
  · obtain rfl := Except.error.inj same
    exact drain_ends (List.Subset.refl _) going shows.2.2.2 ends
  refine .prepend ?_ fun _ => (drain_succeeds_iff.mp succeeds).harmless
  obtain ⟨_, rfl, deleting⟩ := (yields_checkpoint_bind_iff.mp emptied).resolve_left cancelled
  refine .cons rfl ?_
  obtain ⟨_, ends, same⟩ | ⟨_, deleted, _, rfl, succeeds, cleared⟩ :=
    yields_bind_iff.mp (yields_note_bind_iff.mp deleting)
  · obtain rfl := Except.error.inj same
    exact deleteRouteDomains_ends ends
  refine .prepend ?_ fun _ => (deleteRouteDomains_succeeds_iff.mp succeeds).harmless
  obtain ⟨_, rfl, last⟩ := (yields_checkpoint_bind_iff.mp cleared).resolve_left cancelled
  refine .cons rfl ?_
  obtain ⟨_, ends, same⟩ | ⟨_, _, _, -, -, ended⟩ := yields_bind_iff.mp last
  · obtain rfl := Except.error.inj same
    exact deleteFolder_ends ends
  · cases (yields_note_bind_iff.mp ended).2

theorem Gated.ends_with (gated : Gated host partition trail (.error failure))
    (going : ∀ host partition, failure ≠ .cancelled host partition) :
    EndsWith policy host partition before trail failure := by
  cases gated with
  | probeFails source => exact endsWith_singleton (.unprobed source)
  | domainsFail source => exact .cons rfl (endsWith_singleton (.unlisted source (by decide)))
  | addressesFail domains source =>
      exact .cons rfl (.cons rfl (endsWith_singleton (.unlisted source (by decide))))
  | nodesFail domains source =>
      exact .cons rfl (.cons rfl (.cons rfl (endsWith_singleton (.unlisted source (by decide)))))
  | cancelled domains => exact absurd rfl (going host partition)

theorem run_ends_with
    (taken : Program.Yields (run policy host partition).run trail (.error failure))
    (going : ∀ host partition, failure ≠ .cancelled host partition)
    (shows : ∀ sight ∈ trail, sight.ShowsOwn) :
    EndsWith policy host partition [] trail failure := by
  obtain ⟨domains, later, rfl, goes⟩ | gated := run_opens taken
  · rw [List.forall_mem_append] at shows
    exact (dismantle_ends rfl going shows.2 goes).prepend fun _ => checks_harmless domains
  · exact gated.ends_with going

end Teardown

end Tenancy
