import Tenancy.Proofs.Program.Trail
import Tenancy.Teardown

/-!
What it takes for a teardown to remove a partition. The trails of each phase that does not fail are
described by a small grammar; the main statement is that a teardown returns `removed` exactly if
its whole trail is a word of that grammar, whatever the appliance answers and whenever shutdown is
requested.
-/

namespace Tenancy.Teardown

open Tenancy.Action

def isGone : Except DeviceError Unit → Bool
  | .ok () => true
  | .error source => source.isNotFound

theorem isGone_iff {answer : Except DeviceError Unit} :
    isGone answer ↔ answer = .ok () ∨ ∃ source, answer = .error source ∧ source.isNotFound := by
  cases answer with
  | ok => simp [isGone]
  | error source => simp [isGone]

/-- A deletion that ends well. The session may expire as often as there are retries, the whole
interval passing each time, and then the object is gone. -/
inductive Deleted (interval : Span) (host : String) (resource : Resource) :
    Nat → Trail Backend → Prop
  | gone {retries answer} (gone : isGone answer) :
      Deleted interval host resource retries [.asked (.delete host resource) answer]
  | again {retries reporter detail rest}
      (later : Deleted interval host resource retries rest) :
      Deleted interval host resource (retries + 1)
        (.asked (.delete host resource) (.error (.authExpired reporter detail)) ::
          .paused interval.milliseconds false :: rest)

def released (host : String) (resource : Resource) : Trail Backend :=
  match resource.fabricTag with
  | none => []
  | some tag => [.asked (.releaseTag host tag) (.ok ())]

inductive Emptied (policy : RetryPolicy) (host : String) : List Resource → Trail Backend → Prop
  | nil : Emptied policy host [] []
  | cons {resource resources first rest}
      (deleted : Deleted policy.interval host resource policy.retries first)
      (later : Emptied policy host resources rest) :
      Emptied policy host (resource :: resources) (first ++ (released host resource ++ rest))

inductive Drained (policy : RetryPolicy) (host partition : String) :
    List Kind → Trail Backend → Prop
  | nil : Drained policy host partition [] []
  | cons {kind kinds resources first rest} (emptied : Emptied policy host resources first)
      (later : Drained policy host partition kinds rest) :
      Drained policy host partition (kind :: kinds)
        (.looked false :: .asked (.list host kind partition) (.ok resources) :: (first ++ rest))

inductive Offered : List Resource → Trail Backend → Prop
  | nil : Offered [] []
  | cons {resource resources answer rest} (later : Offered resources rest) :
      Offered (resource :: resources) (.asked (.releasePort resource.name) answer :: rest)

inductive PortsOffered (host partition : String) : List Kind → Trail Backend → Prop
  | nil : PortsOffered host partition [] []
  | listed {kind kinds resources first rest} (offered : Offered resources first)
      (later : PortsOffered host partition kinds rest) :
      PortsOffered host partition (kind :: kinds)
        (.asked (.list host kind partition) (.ok resources) :: (first ++ rest))
  | unlisted {kind kinds source rest} (later : PortsOffered host partition kinds rest) :
      PortsOffered host partition (kind :: kinds)
        (.asked (.list host kind partition) (.error source) :: rest)

inductive DomainsDeleted (host partition : String) : List String → Trail Backend → Prop
  | nil : DomainsDeleted host partition [] []
  | cons {name names answer rest} (gone : isGone answer)
      (later : DomainsDeleted host partition names rest) :
      DomainsDeleted host partition (name :: names)
        (.asked (.delete host (.routeDomain partition name)) answer :: rest)

def opening (host partition : String) (domains : List Resource) : Trail Backend :=
  [.asked (.probe host .folder partition) (.ok true),
    .asked (.list host .routeDomain partition) (.ok domains),
    .asked (.list host .virtualAddress partition) (.ok []),
    .asked (.list host .node partition) (.ok []),
    .looked false]

def checks (host partition : String) (domains : List Resource) : Trail Backend :=
  [.asked (.probe host .folder partition) (.ok true),
    .asked (.list host .routeDomain partition) (.ok domains),
    .asked (.list host .virtualAddress partition) (.ok []),
    .asked (.list host .node partition) (.ok [])]

inductive Completed (policy : RetryPolicy) (host partition : String) : Trail Backend → Prop
  | mk {domains first second third answer}
      (ports : PortsOffered host partition Kind.portBound first)
      (drained : Drained policy host partition Kind.drainOrder second)
      (deleted : DomainsDeleted host partition (domains.map (·.name)) third)
      (gone : isGone answer) :
      Completed policy host partition
        (opening host partition domains ++ (first ++ .looked false :: (second ++
          .looked false :: (third ++
            [.looked false, .asked (.delete host (.folder partition)) answer]))))

variable {policy : RetryPolicy} {host partition : String} {trail : Trail Backend} {value : Unit}

theorem succeeds_skip_iff {Word : Trail Backend → Prop} (empty : Word [])
    (only : ∀ trail, Word trail → trail = []) :
    (pure () : Action Unit).Succeeds trail value ↔ Word trail := by
  rw [succeeds_pure_iff]
  constructor
  · rintro ⟨rfl, -⟩
    exact empty
  · intro taken
    exact ⟨only trail taken, rfl⟩

theorem checkpoint_succeeds_iff :
    (checkpoint host partition).Succeeds trail value ↔ trail = [.looked false] := by
  simp only [checkpoint, succeeds_bind_iff, succeeds_shutdownRequested_iff]
  constructor
  · rintro ⟨requested, _, later, rfl, rfl, goes⟩
    cases requested with
    | false => simpa using goes
    | true => simp [succeeds_note_bind_iff] at goes
  · rintro rfl
    exact ⟨false, [.looked false], [], rfl, rfl, by simp⟩

theorem not_giveUp_succeeds {resource : Resource} {attempts : Nat} {source : DeviceError} :
    ¬ (Deletion.giveUp host resource attempts source).Succeeds trail () := by
  simp [Deletion.giveUp]

theorem attempt_succeeds_step {interval : Span} {resource : Resource} {retries number : Nat} :
    (Deletion.attempt interval host resource retries number).Succeeds trail value ↔
      (∃ answer, isGone answer ∧ trail = [.asked (.delete host resource) answer]) ∨
      ∃ fewer reporter detail rest, retries = fewer + 1 ∧
        trail = .asked (.delete host resource) (.error (.authExpired reporter detail)) ::
          .paused interval.milliseconds false :: rest ∧
        (Deletion.attempt interval host resource fewer (number + 1)).Succeeds rest () := by
  rw [Deletion.attempt, succeeds_ask_bind_iff]
  constructor
  · rintro ⟨answer, later, rfl, goes⟩
    rcases answer with (reporter | _ | _) | _
    case error.authExpired detail =>
      cases retries with
      | zero => exact absurd goes not_giveUp_succeeds
      | succ fewer =>
          obtain ⟨requested, _, rest, rfl, paused, goes⟩ :=
            succeeds_bind_iff.mp (succeeds_note_bind_iff.mp goes)
          rw [succeeds_pause_iff] at paused
          cases requested with
          | false => exact .inr ⟨fewer, reporter, detail, rest, rfl, by simp [paused], goes⟩
          | true => simp at goes
    case error.notFound =>
      have ends : later = [] := by simpa using goes
      exact .inl ⟨_, rfl, by rw [ends]⟩
    case error.other => exact absurd goes not_giveUp_succeeds
    case ok =>
      have ends : later = [] := by simpa using goes
      exact .inl ⟨_, rfl, by rw [ends]⟩
  · rintro (⟨answer, gone, rfl⟩ | ⟨fewer, reporter, detail, rest, rfl, rfl, goes⟩)
    · refine ⟨answer, [], rfl, ?_⟩
      rcases answer with (_ | _ | _) | _
      · cases gone
      · simp
      · cases gone
      · simp
    · refine ⟨_, _, rfl, succeeds_note_bind_iff.mpr (succeeds_bind_iff.mpr ?_)⟩
      exact ⟨false, [_], rest, rfl, succeeds_pause_iff.mpr rfl, goes⟩

theorem attempt_succeeds_iff {interval : Span} {resource : Resource} {retries number : Nat} :
    (Deletion.attempt interval host resource retries number).Succeeds trail value ↔
      Deleted interval host resource retries trail := by
  induction retries generalizing number trail with
  | zero =>
      rw [attempt_succeeds_step]
      constructor
      · rintro (⟨answer, gone, rfl⟩ | ⟨_, _, _, _, none, _⟩)
        · exact .gone gone
        · omega
      · rintro ⟨gone⟩
        exact .inl ⟨_, gone, rfl⟩
  | succ retries ih =>
      rw [attempt_succeeds_step]
      constructor
      · rintro (⟨answer, gone, rfl⟩ | ⟨_, _, _, _, same, rfl, goes⟩)
        · exact .gone gone
        · cases same
          exact .again (ih.mp goes)
      · rintro (gone | later)
        · exact .inl ⟨_, gone, rfl⟩
        · exact .inr ⟨_, _, _, _, rfl, rfl, ih.mpr later⟩

theorem releaseTag_succeeds_iff {resource : Resource} :
    (releaseTag host resource).Succeeds trail value ↔ trail = released host resource := by
  unfold releaseTag released
  cases resource.fabricTag with
  | none => simp
  | some tag =>
      constructor
      · intro taken
        obtain ⟨answer, later, rfl, goes⟩ := succeeds_ask_bind_iff.mp taken
        cases answer with
        | ok => simpa using goes
        | error source => simp at goes
      · rintro rfl
        exact succeeds_ask_bind_iff.mpr ⟨.ok (), [], rfl, by simp⟩

theorem drainEach_succeeds_iff {resources : List Resource} :
    (drainEach policy host resources).Succeeds trail value ↔
      Emptied policy host resources trail := by
  induction resources generalizing trail with
  | nil => exact succeeds_skip_iff .nil fun | _, .nil => rfl
  | cons resource resources ih =>
      simp only [drainEach, succeeds_bind_iff, Deletion.delete, attempt_succeeds_iff,
        releaseTag_succeeds_iff, ih]
      constructor
      · rintro ⟨_, first, _, rfl, deleted, _, _, rest, rfl, rfl, later⟩
        exact .cons deleted later
      · rintro (_ | ⟨deleted, later⟩)
        exact ⟨(), _, _, rfl, deleted, (), _, _, rfl, rfl, later⟩

theorem list_succeeds_iff {kind : Kind} {resources : List Resource} :
    (Catalog.list host partition kind).Succeeds trail resources ↔
      trail = [.asked (.list host kind partition) (.ok resources)] := by
  rw [Catalog.list, succeeds_ask_bind_iff]
  constructor
  · rintro ⟨answer, later, rfl, goes⟩
    cases answer with
    | ok listed =>
        obtain ⟨rfl, rfl⟩ := succeeds_pure_iff.mp goes
        rfl
    | error source => simp at goes
  · rintro rfl
    exact ⟨.ok resources, [], rfl, by simp⟩

theorem drain_succeeds_iff {kinds : List Kind} :
    (drain policy host partition kinds).Succeeds trail value ↔
      Drained policy host partition kinds trail := by
  induction kinds generalizing trail with
  | nil => exact succeeds_skip_iff .nil fun | _, .nil => rfl
  | cons kind kinds ih =>
      simp only [drain, succeeds_bind_iff, checkpoint_succeeds_iff, list_succeeds_iff,
        drainEach_succeeds_iff, ih]
      constructor
      · rintro ⟨_, _, _, rfl, rfl, resources, _, _, rfl, rfl, _, first, rest, rfl, emptied, later⟩
        simpa using Drained.cons emptied later
      · rintro (_ | ⟨emptied, later⟩)
        exact ⟨(), [_], _, rfl, rfl, _, [_], _, rfl, rfl, (), _, _, rfl, emptied, later⟩

theorem releaseEach_succeeds_iff {resources : List Resource} :
    (releaseEach resources).Succeeds trail value ↔ Offered resources trail := by
  induction resources generalizing trail with
  | nil => exact succeeds_skip_iff .nil fun | _, .nil => rfl
  | cons resource resources ih =>
      rw [releaseEach, succeeds_ask_bind_iff]
      constructor
      · rintro ⟨answer, later, rfl, goes⟩
        cases answer with
        | ok => exact .cons (ih.mp goes)
        | error source => exact .cons (ih.mp (succeeds_note_bind_iff.mp goes))
      · rintro (_ | later)
        next rest answer =>
          refine ⟨answer, rest, rfl, ?_⟩
          cases answer with
          | ok => exact ih.mpr later
          | error source => exact succeeds_note_bind_iff.mpr (ih.mpr later)

theorem releasePorts_succeeds_iff {kinds : List Kind} :
    (releasePorts host partition kinds).Succeeds trail value ↔
      PortsOffered host partition kinds trail := by
  induction kinds generalizing trail with
  | nil => exact succeeds_skip_iff .nil fun | _, .nil => rfl
  | cons kind kinds ih =>
      rw [releasePorts, succeeds_ask_bind_iff]
      constructor
      · rintro ⟨answer, later, rfl, goes⟩
        cases answer with
        | ok resources =>
            obtain ⟨_, first, rest, rfl, offered, goes⟩ := succeeds_bind_iff.mp goes
            exact .listed (releaseEach_succeeds_iff.mp offered) (ih.mp goes)
        | error source => exact .unlisted (ih.mp (succeeds_note_bind_iff.mp goes))
      · rintro (_ | ⟨offered, later⟩ | later)
        · exact ⟨.ok _, _, rfl, succeeds_bind_iff.mpr
            ⟨(), _, _, rfl, releaseEach_succeeds_iff.mpr offered, ih.mpr later⟩⟩
        · exact ⟨.error _, _, rfl, succeeds_note_bind_iff.mpr (ih.mpr later)⟩

theorem deleteRouteDomains_succeeds_iff {names : List String} :
    (deleteRouteDomains host partition names).Succeeds trail value ↔
      DomainsDeleted host partition names trail := by
  induction names generalizing trail with
  | nil => exact succeeds_skip_iff .nil fun | _, .nil => rfl
  | cons name names ih =>
      rw [deleteRouteDomains, succeeds_ask_bind_iff]
      constructor
      · rintro ⟨answer, later, rfl, goes⟩
        rcases answer with (_ | _ | _) | _
        case error.authExpired | error.other => simp at goes
        case error.notFound => exact .cons rfl (ih.mp goes)
        case ok => exact .cons rfl (ih.mp (succeeds_note_bind_iff.mp goes))
      · rintro (_ | ⟨gone, later⟩)
        next answer rest =>
          refine ⟨answer, rest, rfl, ?_⟩
          rcases answer with (_ | _ | _) | _
          case error.authExpired | error.other => cases gone
          case error.notFound => exact ih.mpr later
          case ok => exact succeeds_note_bind_iff.mpr (ih.mpr later)

theorem deleteFolder_succeeds_iff :
    (deleteFolder host partition).Succeeds trail value ↔
      ∃ answer, isGone answer ∧ trail = [.asked (.delete host (.folder partition)) answer] := by
  rw [deleteFolder, succeeds_ask_bind_iff]
  constructor
  · rintro ⟨answer, later, rfl, goes⟩
    refine ⟨answer, ?_⟩
    rcases answer with (_ | _ | _) | _
    case error.authExpired | error.other => simp at goes
    case error.notFound | ok =>
      obtain ⟨rfl, -⟩ := succeeds_pure_iff.mp goes
      exact ⟨rfl, rfl⟩
  · rintro ⟨answer, gone, rfl⟩
    refine ⟨answer, [], rfl, ?_⟩
    rcases answer with (_ | _ | _) | _
    case error.authExpired | error.other => cases gone
    case error.notFound | ok => exact succeeds_pure_iff.mpr ⟨rfl, rfl⟩

theorem succeeds_checkpoint_bind_iff {α : Type} {rest : Unit → Action α} {result : α} :
    (checkpoint host partition >>= rest).Succeeds trail result ↔
      ∃ later, trail = .looked false :: later ∧ (rest ()).Succeeds later result := by
  simp only [succeeds_bind_iff, checkpoint_succeeds_iff]
  constructor
  · rintro ⟨_, _, later, rfl, rfl, goes⟩
    exact ⟨later, rfl, goes⟩
  · rintro ⟨later, rfl, goes⟩
    exact ⟨(), [_], later, rfl, rfl, goes⟩

theorem dismantle_succeeds_iff {names : List String} {outcome : Outcome} :
    (dismantle policy host partition names).Succeeds trail outcome ↔
      outcome = .removed ∧ ∃ first second third answer,
        PortsOffered host partition Kind.portBound first ∧
        Drained policy host partition Kind.drainOrder second ∧
        DomainsDeleted host partition names third ∧ isGone answer ∧
        trail = .looked false :: (first ++ .looked false :: (second ++ .looked false :: (third ++
          [.looked false, .asked (.delete host (.folder partition)) answer]))) := by
  rw [dismantle]
  constructor
  · intro taken
    obtain ⟨_, rfl, opened⟩ := succeeds_checkpoint_bind_iff.mp taken
    obtain ⟨_, first, _, rfl, ports, offered⟩ := succeeds_bind_iff.mp opened
    obtain ⟨_, rfl, draining⟩ := succeeds_checkpoint_bind_iff.mp offered
    obtain ⟨_, second, _, rfl, drained, emptied⟩ := succeeds_bind_iff.mp draining
    obtain ⟨_, rfl, deleting⟩ := succeeds_checkpoint_bind_iff.mp emptied
    obtain ⟨_, third, _, rfl, domains, cleared⟩ :=
      succeeds_bind_iff.mp (succeeds_note_bind_iff.mp deleting)
    obtain ⟨_, rfl, last⟩ := succeeds_checkpoint_bind_iff.mp cleared
    obtain ⟨_, _, _, rfl, folder, ended⟩ := succeeds_bind_iff.mp last
    obtain ⟨answer, gone, rfl⟩ := deleteFolder_succeeds_iff.mp folder
    have returned := succeeds_note_bind_iff.mp ended
    obtain ⟨rfl, rfl⟩ := succeeds_pure_iff.mp returned
    exact ⟨rfl, first, second, third, answer, releasePorts_succeeds_iff.mp ports,
      drain_succeeds_iff.mp drained, deleteRouteDomains_succeeds_iff.mp domains, gone, rfl⟩
  · rintro ⟨rfl, first, second, third, answer, ports, drained, deleted, gone, rfl⟩
    refine succeeds_checkpoint_bind_iff.mpr ⟨_, rfl, succeeds_bind_iff.mpr ?_⟩
    refine ⟨(), first, _, rfl, releasePorts_succeeds_iff.mpr ports, ?_⟩
    refine succeeds_checkpoint_bind_iff.mpr ⟨_, rfl, succeeds_bind_iff.mpr ?_⟩
    refine ⟨(), second, _, rfl, drain_succeeds_iff.mpr drained, ?_⟩
    refine succeeds_checkpoint_bind_iff.mpr ⟨_, rfl, ?_⟩
    refine succeeds_note_bind_iff.mpr (succeeds_bind_iff.mpr ?_)
    refine ⟨(), third, _, rfl, deleteRouteDomains_succeeds_iff.mpr deleted, ?_⟩
    refine succeeds_checkpoint_bind_iff.mpr ⟨_, rfl, succeeds_bind_iff.mpr ?_⟩
    refine ⟨(), [_], [], rfl, deleteFolder_succeeds_iff.mpr ⟨answer, gone, rfl⟩, ?_⟩
    exact succeeds_note_bind_iff.mpr (succeeds_pure_iff.mpr ⟨rfl, rfl⟩)

theorem lacks_succeeds_iff {kinds : List Kind} :
    (Catalog.lacks host partition kinds).Succeeds trail true ↔
      trail = kinds.map fun kind => .asked (.list host kind partition) (.ok []) := by
  induction kinds generalizing trail with
  | nil => simp [Catalog.lacks]
  | cons kind kinds ih =>
      simp only [Catalog.lacks, succeeds_bind_iff, list_succeeds_iff, List.map_cons]
      constructor
      · rintro ⟨resources, _, later, rfl, rfl, goes⟩
        cases resources with
        | nil => rw [ih.mp goes, List.singleton_append]
        | cons resource resources => simp at goes
      · rintro rfl
        exact ⟨[], [_], _, rfl, rfl, ih.mpr rfl⟩

theorem run_succeeds_removed_iff :
    (run policy host partition).Succeeds trail .removed ↔
      Completed policy host partition trail := by
  rw [run, succeeds_ask_bind_iff]
  constructor
  · rintro ⟨answer, later, rfl, taken⟩
    rcases answer with source | _ | _
    case error => simp at taken
    case ok.false =>
      have returned := succeeds_note_bind_iff.mp taken
      cases (succeeds_pure_iff.mp returned).2
    case ok.true =>
      obtain ⟨_, _, _, rfl, names, checking⟩ := succeeds_bind_iff.mp taken
      obtain ⟨domains, _, _, rfl, listed, named⟩ := succeeds_bind_iff.mp names
      obtain ⟨rfl, rfl⟩ := succeeds_pure_iff.mp named
      obtain ⟨empty, _, _, rfl, checked, goes⟩ := succeeds_bind_iff.mp checking
      rw [list_succeeds_iff.mp listed]
      cases empty with
      | false =>
          have returned := succeeds_note_bind_iff.mp goes
          cases (succeeds_pure_iff.mp returned).2
      | true =>
          rw [lacks_succeeds_iff.mp checked]
          obtain ⟨-, first, second, third, answer, ports, drained, deleted, gone, rfl⟩ :=
            dismantle_succeeds_iff.mp goes
          exact .mk ports drained deleted gone
  · rintro ⟨ports, drained, deleted, gone⟩
    next domains first second third answer =>
      refine ⟨.ok true, _, rfl, succeeds_bind_iff.mpr ?_⟩
      refine ⟨domains.map (·.name), [_], _, rfl, ?_, ?_⟩
      · refine succeeds_bind_iff.mpr ⟨domains, [_], [], rfl, list_succeeds_iff.mpr rfl, ?_⟩
        exact succeeds_pure_iff.mpr ⟨rfl, rfl⟩
      · refine succeeds_bind_iff.mpr ⟨true, [_, _], _, rfl, lacks_succeeds_iff.mpr rfl, ?_⟩
        exact dismantle_succeeds_iff.mpr
          ⟨rfl, first, second, third, answer, ports, drained, deleted, gone, rfl⟩

/-- A teardown returns `removed` exactly if every read succeeds and shows a folder and no traffic,
no checkpoint sees a request for shutdown, and all that is listed is deleted in order and to the
end: the objects of each kind with their tags, the route domains, and last the folder. -/
theorem removed_iff_completed {σ : Type} (policy : RetryPolicy) (host partition : String)
    (peer : Peer Backend σ) (asker : Nat) (surroundings : Surroundings Backend σ) :
    ((run policy host partition).run.run peer asker surroundings).1 = .ok .removed ↔
      Completed policy host partition
        ((run policy host partition).run.trail peer asker surroundings) := by
  rw [Program.run_eq_iff]
  exact run_succeeds_removed_iff

end Tenancy.Teardown
