import Tenancy.Proofs.Program.Asking
import Tenancy.Proofs.Teardown.Completion

/-!
The order in which a teardown asks for things, wherever it stops: what it has seen before each
request. A route domain is only asked for when all that may refer to one was listed and is gone,
the folder only when nothing of any kind is left that it listed.
-/

namespace Tenancy.Teardown

open Tenancy.Action

def Cleared (host partition : String) (seen : Trail Backend) (kind : Kind) : Prop :=
  ∃ resources, .asked (.list host kind partition) (.ok resources) ∈ seen ∧
    ∀ resource ∈ resources, ∃ answer, isGone answer ∧ .asked (.delete host resource) answer ∈ seen

def DomainsCleared (host partition : String) (seen : Trail Backend) : Prop :=
  ∃ resources, .asked (.list host .routeDomain partition) (.ok resources) ∈ seen ∧
    ∀ resource ∈ resources, ∃ answer, isGone answer ∧
      .asked (.delete host (.routeDomain partition resource.name)) answer ∈ seen

inductive Due (host partition : String) (seen : Trail Backend) : Request → Prop
  | probe : Due host partition seen (.probe host .folder partition)
  | list (kind) : Due host partition seen (.list host kind partition)
  | port (name) : Due host partition seen (.releasePort name)
  | object {kind resources resource} (drained : kind ∈ Kind.drainOrder)
      (listed : .asked (.list host kind partition) (.ok resources) ∈ seen)
      (member : resource ∈ resources) : Due host partition seen (.delete host resource)
  | tag {kind resources resource tag}
      (listed : .asked (.list host kind partition) (.ok resources) ∈ seen)
      (member : resource ∈ resources) (tagged : resource.fabricTag = some tag) :
      Due host partition seen (.releaseTag host tag)
  | routeDomain (name) (drained : ∀ kind ∈ Kind.drainOrder, Cleared host partition seen kind) :
      Due host partition seen (.delete host (.routeDomain partition name))
  | folder (idle : ∀ kind ∈ Kind.loadBearing, Cleared host partition seen kind)
      (drained : ∀ kind ∈ Kind.drainOrder, Cleared host partition seen kind)
      (domains : DomainsCleared host partition seen) :
      Due host partition seen (.delete host (.folder partition))

variable {policy : RetryPolicy} {host partition : String} {kind : Kind} {request : Request}
  {trail seen more : Trail Backend}

theorem Cleared.mono (cleared : Cleared host partition seen kind) (subset : seen ⊆ more) :
    Cleared host partition more kind := by
  obtain ⟨resources, listed, gone⟩ := cleared
  refine ⟨resources, subset listed, fun resource member => ?_⟩
  obtain ⟨answer, isGone, deleted⟩ := gone resource member
  exact ⟨answer, isGone, subset deleted⟩

theorem DomainsCleared.mono (cleared : DomainsCleared host partition seen)
    (subset : seen ⊆ more) : DomainsCleared host partition more := by
  obtain ⟨resources, listed, gone⟩ := cleared
  refine ⟨resources, subset listed, fun resource member => ?_⟩
  obtain ⟨answer, isGone, deleted⟩ := gone resource member
  exact ⟨answer, isGone, subset deleted⟩

theorem Due.mono (due : Due host partition seen request) (subset : seen ⊆ more) :
    Due host partition more request := by
  cases due with
  | probe => exact .probe
  | list kind => exact .list kind
  | port name => exact .port name
  | object drained listed member => exact .object drained (subset listed) member
  | tag listed member tagged => exact .tag (subset listed) member tagged
  | routeDomain name drained =>
      exact .routeDomain name fun kind found => (drained kind found).mono subset
  | folder idle drained domains =>
      exact .folder (fun kind found => (idle kind found).mono subset)
        (fun kind found => (drained kind found).mono subset) (domains.mono subset)

theorem Deleted.mem {interval : Span} {resource : Resource} {retries : Nat}
    (deleted : Deleted interval host resource retries trail) :
    ∃ answer, isGone answer ∧ .asked (.delete host resource) answer ∈ trail := by
  induction deleted with
  | gone gone => exact ⟨_, gone, List.mem_singleton_self _⟩
  | again later ih =>
      obtain ⟨answer, gone, member⟩ := ih
      exact ⟨answer, gone, List.mem_cons_of_mem _ (List.mem_cons_of_mem _ member)⟩

theorem Emptied.mem {resources : List Resource} (emptied : Emptied policy host resources trail) :
    ∀ resource ∈ resources, ∃ answer, isGone answer ∧
      .asked (.delete host resource) answer ∈ trail := by
  induction emptied with
  | nil => simp
  | cons deleted later ih =>
      rw [List.forall_mem_cons]
      constructor
      · obtain ⟨answer, gone, member⟩ := deleted.mem
        exact ⟨answer, gone, List.mem_append_left _ member⟩
      · intro resource found
        obtain ⟨answer, gone, member⟩ := ih resource found
        exact ⟨answer, gone, List.mem_append_right _ (List.mem_append_right _ member)⟩

theorem Drained.cleared {kinds : List Kind} (drained : Drained policy host partition kinds trail) :
    ∀ kind ∈ kinds, Cleared host partition trail kind := by
  induction drained with
  | nil => simp
  | @cons kind kinds resources first rest emptied later ih =>
      rw [List.forall_mem_cons]
      constructor
      · refine ⟨resources, by simp, fun resource member => ?_⟩
        obtain ⟨answer, gone, deleted⟩ := emptied.mem resource member
        exact ⟨answer, gone, by simp [deleted]⟩
      · intro other found
        refine (ih other found).mono fun sight member => ?_
        simp [member]

theorem DomainsDeleted.mem {names : List String}
    (deleted : DomainsDeleted host partition names trail) :
    ∀ name ∈ names, ∃ answer, isGone answer ∧
      .asked (.delete host (.routeDomain partition name)) answer ∈ trail := by
  induction deleted with
  | nil => simp
  | cons gone later ih =>
      rw [List.forall_mem_cons]
      constructor
      · exact ⟨_, gone, List.mem_cons_self⟩
      · intro name found
        obtain ⟨answer, gone, member⟩ := ih name found
        exact ⟨answer, gone, List.mem_cons_of_mem _ member⟩

theorem Completed.folder (completed : Completed policy host partition trail) :
    ∃ answer, isGone answer ∧ .asked (.delete host (.folder partition)) answer ∈ trail := by
  obtain ⟨ports, drained, deleted, gone⟩ := completed
  next answer => exact ⟨answer, gone, by simp⟩

theorem not_checkpoint_asks : ¬ (checkpoint host partition).Asks trail request := by
  rw [checkpoint, asks_bind_iff]
  rintro (early | ⟨requested, _, _, _, _, late⟩)
  · exact not_asks_shutdownRequested early
  · cases requested with
    | false => exact not_asks_pure late
    | true => exact not_asks_throw (asks_note_bind_iff.mp late)

theorem asks_checkpoint_bind_iff {α : Type} {rest : Unit → Action α} :
    (checkpoint host partition >>= rest).Asks trail request ↔
      ∃ later, trail = .looked false :: later ∧ (rest ()).Asks later request := by
  simp only [asks_bind_iff, not_checkpoint_asks, checkpoint_succeeds_iff, false_or]
  constructor
  · rintro ⟨_, _, later, rfl, rfl, asked⟩
    exact ⟨later, rfl, asked⟩
  · rintro ⟨later, rfl, asked⟩
    exact ⟨(), [_], later, rfl, rfl, asked⟩

theorem asks_list_bind_iff {α : Type} {rest : List Resource → Action α} :
    (Catalog.list host partition kind >>= rest).Asks trail request ↔
      trail = [] ∧ request = .list host kind partition ∨
        ∃ resources later, trail = .asked (.list host kind partition) (.ok resources) :: later ∧
          (rest resources).Asks later request := by
  rw [Catalog.list, bind_assoc, asks_ask_bind_iff]
  refine or_congr_right ⟨?_, ?_⟩
  · rintro ⟨answer, later, rfl, asked⟩
    cases answer with
    | ok resources => exact ⟨resources, later, rfl, asked⟩
    | error source => cases asked
  · rintro ⟨resources, later, rfl, asked⟩
    exact ⟨.ok resources, later, rfl, asked⟩

theorem not_giveUp_asks {resource : Resource} {attempts : Nat} {source : DeviceError} :
    ¬ (Deletion.giveUp host resource attempts source).Asks trail request := by
  simp [Deletion.giveUp]

theorem attempt_asks {interval : Span} {resource : Resource} {retries number : Nat}
    (asked : (Deletion.attempt interval host resource retries number).Asks trail request) :
    request = .delete host resource := by
  induction retries generalizing number trail with
  | zero =>
      rw [Deletion.attempt, asks_ask_bind_iff] at asked
      obtain ⟨-, same⟩ | ⟨answer, later, -, goes⟩ := asked
      · exact same
      · rcases answer with (_ | _ | _) | _
        case error.authExpired | error.other => exact absurd goes not_giveUp_asks
        case error.notFound | ok => exact absurd goes not_asks_note
  | succ retries ih =>
      rw [Deletion.attempt, asks_ask_bind_iff] at asked
      obtain ⟨-, same⟩ | ⟨answer, later, -, goes⟩ := asked
      · exact same
      · rcases answer with (_ | _ | _) | _
        case error.notFound | ok => exact absurd goes not_asks_note
        case error.other => exact absurd goes not_giveUp_asks
        case error.authExpired =>
          obtain early | ⟨requested, _, _, _, _, again⟩ :=
            asks_bind_iff.mp (asks_note_bind_iff.mp goes)
          · exact absurd early not_asks_pause
          · cases requested with
            | false => exact ih again
            | true => exact absurd again not_asks_throw

theorem releaseTag_asks {resource : Resource}
    (asked : (releaseTag host resource).Asks trail request) :
    ∃ tag, resource.fabricTag = some tag ∧ request = .releaseTag host tag := by
  unfold releaseTag at asked
  cases tagged : resource.fabricTag with
  | none => simp [tagged] at asked
  | some tag =>
      rw [tagged] at asked
      obtain ⟨-, same⟩ | ⟨answer, later, -, goes⟩ := asks_ask_bind_iff.mp asked
      · exact ⟨tag, rfl, same⟩
      · cases answer with
        | ok => exact absurd goes not_asks_pure
        | error source => simp at goes

theorem drainEach_asks {resources : List Resource}
    (asked : (drainEach policy host resources).Asks trail request) :
    ∃ resource ∈ resources, request = .delete host resource ∨
      ∃ tag, resource.fabricTag = some tag ∧ request = .releaseTag host tag := by
  induction resources generalizing trail with
  | nil => exact absurd asked not_asks_pure
  | cons resource resources ih =>
      rw [drainEach, asks_bind_iff] at asked
      obtain deleting | ⟨_, _, _, -, -, rest⟩ := asked
      · exact ⟨resource, List.mem_cons_self, .inl (attempt_asks deleting)⟩
      · obtain releasing | ⟨_, _, _, -, -, rest⟩ := asks_bind_iff.mp rest
        · exact ⟨resource, List.mem_cons_self, .inr (releaseTag_asks releasing)⟩
        · obtain ⟨other, member, found⟩ := ih rest
          exact ⟨other, List.mem_cons_of_mem _ member, found⟩

theorem drain_asks {kinds : List Kind} (subset : kinds ⊆ Kind.drainOrder)
    (asked : (drain policy host partition kinds).Asks trail request) :
    Due host partition trail request := by
  induction kinds generalizing trail with
  | nil => exact absurd asked not_asks_pure
  | cons kind kinds ih =>
      rw [drain] at asked
      obtain ⟨later, rfl, listing⟩ := asks_checkpoint_bind_iff.mp asked
      obtain ⟨-, rfl⟩ | ⟨resources, later, rfl, draining⟩ := asks_list_bind_iff.mp listing
      · exact .list kind
      · obtain emptying | ⟨_, first, rest, rfl, -, rest⟩ := asks_bind_iff.mp draining
        · have listed : Sight.asked (I := Backend) (.list host kind partition) (.ok resources) ∈
            .looked false :: .asked (.list host kind partition) (.ok resources) :: later := by simp
          obtain ⟨resource, member, rfl | ⟨tag, tagged, rfl⟩⟩ := drainEach_asks emptying
          · exact .object (subset List.mem_cons_self) listed member
          · exact .tag listed member tagged
        · refine (ih (List.subset_of_cons_subset subset) rest).mono fun sight member => ?_
          simp [member]

theorem releaseEach_asks {resources : List Resource}
    (asked : (releaseEach resources).Asks trail request) : ∃ port, request = .releasePort port := by
  induction resources generalizing trail with
  | nil => exact absurd asked not_asks_pure
  | cons resource resources ih =>
      rw [releaseEach, asks_ask_bind_iff] at asked
      obtain ⟨-, same⟩ | ⟨answer, later, -, goes⟩ := asked
      · exact ⟨_, same⟩
      · cases answer with
        | ok => exact ih goes
        | error source => exact ih (asks_note_bind_iff.mp goes)

theorem releasePorts_asks {kinds : List Kind}
    (asked : (releasePorts host partition kinds).Asks trail request) :
    Due host partition seen request := by
  induction kinds generalizing trail with
  | nil => exact absurd asked not_asks_pure
  | cons kind kinds ih =>
      rw [releasePorts, asks_ask_bind_iff] at asked
      obtain ⟨-, rfl⟩ | ⟨answer, later, -, goes⟩ := asked
      · exact .list kind
      · cases answer with
        | ok resources =>
            obtain offering | ⟨_, _, _, -, -, rest⟩ := asks_bind_iff.mp goes
            · obtain ⟨port, rfl⟩ := releaseEach_asks offering
              exact .port port
            · exact ih rest
        | error source => exact ih (asks_note_bind_iff.mp goes)

theorem deleteRouteDomains_asks {names : List String}
    (asked : (deleteRouteDomains host partition names).Asks trail request) :
    ∃ name, request = .delete host (.routeDomain partition name) := by
  induction names generalizing trail with
  | nil => exact absurd asked not_asks_pure
  | cons name names ih =>
      rw [deleteRouteDomains, asks_ask_bind_iff] at asked
      obtain ⟨-, same⟩ | ⟨answer, later, -, goes⟩ := asked
      · exact ⟨name, same⟩
      · rcases answer with (_ | _ | _) | _
        case error.authExpired | error.other => simp at goes
        case error.notFound => exact ih goes
        case ok => exact ih (asks_note_bind_iff.mp goes)

theorem deleteFolder_asks (asked : (deleteFolder host partition).Asks trail request) :
    request = .delete host (.folder partition) := by
  rw [deleteFolder, asks_ask_bind_iff] at asked
  obtain ⟨-, same⟩ | ⟨answer, later, -, goes⟩ := asked
  · exact same
  · rcases answer with (_ | _ | _) | _
    case error.authExpired | error.other => simp at goes
    case error.notFound | ok => exact absurd goes not_asks_pure

theorem dismantle_asks (seen : Trail Backend) {domains : List Resource}
    (idle : ∀ kind ∈ Kind.loadBearing, Cleared host partition seen kind)
    (listed : .asked (.list host .routeDomain partition) (.ok domains) ∈ seen)
    (asked : (dismantle policy host partition (domains.map (·.name))).Asks trail request) :
    Due host partition (seen ++ trail) request := by
  rw [dismantle] at asked
  obtain ⟨_, rfl, opened⟩ := asks_checkpoint_bind_iff.mp asked
  obtain offering | ⟨_, first, _, rfl, -, offered⟩ := asks_bind_iff.mp opened
  · exact releasePorts_asks offering
  obtain ⟨_, rfl, draining⟩ := asks_checkpoint_bind_iff.mp offered
  obtain emptying | ⟨_, second, _, rfl, drained, emptied⟩ := asks_bind_iff.mp draining
  · refine (drain_asks (List.Subset.refl _) emptying).mono fun sight member => ?_
    simp [member]
  obtain ⟨_, rfl, deleting⟩ := asks_checkpoint_bind_iff.mp emptied
  have cleared := (drain_succeeds_iff.mp drained).cleared
  obtain domain | ⟨_, third, _, rfl, deleted, last⟩ :=
    asks_bind_iff.mp (asks_note_bind_iff.mp deleting)
  · obtain ⟨name, rfl⟩ := deleteRouteDomains_asks domain
    refine .routeDomain name fun kind found => (cleared kind found).mono fun sight member => ?_
    simp [member]
  obtain ⟨_, rfl, folder⟩ := asks_checkpoint_bind_iff.mp last
  obtain removing | ⟨_, _, _, -, -, ended⟩ := asks_bind_iff.mp folder
  · obtain rfl := deleteFolder_asks removing
    refine .folder ?_ ?_ ⟨domains, List.mem_append_left _ listed, ?_⟩
    · exact fun kind found => (idle kind found).mono (List.subset_append_left _ _)
    · refine fun kind found => (cleared kind found).mono fun sight member => ?_
      simp [member]
    · intro domain member
      obtain ⟨answer, gone, removed⟩ := (deleteRouteDomains_succeeds_iff.mp deleted).mem
        domain.name (List.mem_map_of_mem member)
      exact ⟨answer, gone, by simp [removed]⟩
  · exact absurd (asks_note_bind_iff.mp ended) not_asks_pure

theorem run_asks_cases (asked : (run policy host partition).Asks trail request) :
    (request = .probe host .folder partition ∨ ∃ kind, request = .list host kind partition) ∨
      ∃ domains later, trail = checks host partition domains ++ later ∧
        (dismantle policy host partition (domains.map (·.name))).Asks later request := by
  rw [run, asks_ask_bind_iff] at asked
  obtain ⟨-, rfl⟩ | ⟨answer, later, rfl, goes⟩ := asked
  · exact .inl (.inl rfl)
  rcases answer with source | _ | _
  case error => exact absurd goes not_asks_throw
  case ok.false => exact absurd (asks_note_bind_iff.mp goes) not_asks_pure
  case ok.true =>
    simp only [Catalog.routeDomainNames, Catalog.isEmpty, Catalog.lacks, Kind.loadBearing,
      bind_assoc, pure_bind] at goes
    obtain ⟨-, rfl⟩ | ⟨domains, _, rfl, named⟩ := asks_list_bind_iff.mp goes
    · exact .inl (.inr ⟨_, rfl⟩)
    obtain ⟨-, rfl⟩ | ⟨addresses, _, rfl, found⟩ := asks_list_bind_iff.mp named
    · exact .inl (.inr ⟨_, rfl⟩)
    cases addresses with
    | cons address addresses => exact absurd (asks_note_bind_iff.mp found) not_asks_pure
    | nil =>
        simp only [List.isEmpty_nil, ↓reduceIte, bind_assoc] at found
        obtain ⟨-, rfl⟩ | ⟨nodes, later, rfl, checked⟩ := asks_list_bind_iff.mp found
        · exact .inl (.inr ⟨_, rfl⟩)
        cases nodes with
        | cons node nodes => exact absurd (asks_note_bind_iff.mp checked) not_asks_pure
        | nil => exact .inr ⟨domains, later, rfl, checked⟩

/-- Whatever a teardown asks for, its time has come. -/
theorem run_asks (asked : (run policy host partition).Asks trail request) :
    Due host partition trail request := by
  obtain (rfl | ⟨kind, rfl⟩) | ⟨domains, later, rfl, goes⟩ := run_asks_cases asked
  · exact .probe
  · exact .list kind
  · refine dismantle_asks (checks host partition domains) ?_ (by simp [checks]) goes
    simp only [Kind.loadBearing, List.forall_mem_cons]
    exact ⟨⟨[], by simp [checks], by simp⟩, ⟨[], by simp [checks], by simp⟩, by simp⟩

end Tenancy.Teardown
