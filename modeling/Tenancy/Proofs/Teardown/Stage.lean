import Tenancy.Proofs.Program.Steady
import Tenancy.Proofs.Teardown.Gate
import Tenancy.Proofs.Teardown.Order

/-!
The stages of a teardown. Each begins with a checkpoint and none has another one inside, so the
number of checkpoints that a trail passes tells the stage, and with it all that may be asked for
next and all that can go wrong.
-/

namespace Tenancy

inductive Stage
  | ports
  | offered
  | draining (kind : Kind)
  | routeDomains
  | folder
  deriving DecidableEq, Repr

def Stage.course : List Stage :=
  [.ports, .offered] ++ Kind.drainOrder.map .draining ++ [.routeDomains, .folder]

def Trail.stage? (trail : Trail Backend) : Option Stage :=
  match trail.passed with
  | 0 => none
  | place + 1 => Stage.course[place]?

def Sight.Shows (Named : String → Prop) (sight : Sight Backend) : Prop :=
  ∀ host kind partition resources, sight = .asked (.list host kind partition) (.ok resources) →
    ∀ resource ∈ resources, Named resource.partition

namespace Teardown

open Tenancy.Action

/-- How the work of each stage can fail. A deletion that is cancelled names the partition that the
listing gave for its object. -/
inductive FailsIn (host partition : String) (Named : String → Prop) : Stage → TenantError → Prop
  | unlisted (kind source) :
      FailsIn host partition Named (.draining kind) (.catalog host partition kind source)
  | undeleted {kind} (resource : Resource) (attempts source) :
      FailsIn host partition Named (.draining kind)
        (.deletion host resource.kind resource.name attempts source)
  | interrupted {kind named} (shown : Named named) :
      FailsIn host partition Named (.draining kind) (.cancelled host named)
  | unreleased {kind} (tag source) :
      FailsIn host partition Named (.draining kind) (.fabricCleanup host tag source)
  | routeDomain (name source) :
      FailsIn host partition Named .routeDomains (.routeDomain host partition name source)
  | folder (source) : FailsIn host partition Named .folder (.folder host partition source)

def work (policy : RetryPolicy) (host partition : String) (names : List String) :
    Stage → Action Unit
  | .ports => releasePorts host partition Kind.portBound
  | .offered => pure ()
  | .draining kind => do drainEach policy host (← Catalog.list host partition kind)
  | .routeDomains => do
      Action.note .info .manager ("Deleting empty partition " ++ partition ++ " on " ++ host)
      deleteRouteDomains host partition names
  | .folder => do
      deleteFolder host partition
      Action.note .info .manager ("Partition " ++ partition ++ " removed from " ++ host)

def inStages (host partition : String) (work : Stage → Action Unit) : List Stage → Action Unit
  | [] => return
  | stage :: stages => do
      checkpoint host partition
      work stage
      inStages host partition work stages

variable {policy : RetryPolicy} {host partition : String} {names : List String}

theorem inStages_append (work : Stage → Action Unit) (first second : List Stage) :
    inStages host partition work (first ++ second) =
      inStages host partition work first >>= fun _ => inStages host partition work second := by
  induction first with
  | nil => simp [inStages]
  | cons stage stages ih => simp [inStages, ih]

theorem drain_eq (names : List String) (kinds : List Kind) :
    drain policy host partition kinds =
      inStages host partition (work policy host partition names) (kinds.map .draining) := by
  induction kinds with
  | nil => rfl
  | cons kind kinds ih => simp [drain, inStages, work, ih]

theorem dismantle_eq :
    dismantle policy host partition names =
      inStages host partition (work policy host partition names) Stage.course >>=
        fun _ => pure .removed := by
  rw [dismantle, drain_eq names]
  simp only [Stage.course, inStages_append, inStages, work, bind_assoc, pure_bind]

section

variable {Expected : Sight Backend → Prop} {Fails : TenantError → Prop}

theorem giveUp_steady {resource : Resource} {attempts : Nat} {source : DeviceError}
    (fails : Fails (.deletion host resource.kind resource.name attempts source)) :
    (Deletion.giveUp host resource attempts source).Steady Expected Fails :=
  steady_note.bind fun _ => steady_throw fails

theorem attempt_steady {interval : Span} {resource : Resource} {retries number : Nat}
    (cancels : Fails (.cancelled host resource.partition))
    (fails : ∀ attempts source,
      Fails (.deletion host resource.kind resource.name attempts source)) :
    (Deletion.attempt interval host resource retries number).Steady Expected Fails := by
  induction retries generalizing number with
  | zero =>
      rw [Deletion.attempt]
      refine steady_ask_bind fun answer _ => ?_
      rcases answer with (_ | _ | _) | _
      case error.authExpired | error.other => exact giveUp_steady (fails _ _)
      case error.notFound | ok => exact steady_note
  | succ retries ih =>
      rw [Deletion.attempt]
      refine steady_ask_bind fun answer _ => ?_
      rcases answer with (_ | _ | _) | _
      case error.authExpired =>
        exact steady_note.bind fun _ => steady_pause_bind cancels rfl ih
      case error.other => exact giveUp_steady (fails _ _)
      case error.notFound | ok => exact steady_note

theorem releaseTag_steady {resource : Resource}
    (fails : ∀ tag source, Fails (.fabricCleanup host tag source)) :
    (releaseTag host resource).Steady Expected Fails := by
  unfold releaseTag
  cases resource.fabricTag with
  | none => exact steady_pure ()
  | some tag =>
      refine steady_ask_bind fun answer _ => ?_
      cases answer with
      | ok => exact steady_pure ()
      | error source => exact steady_note.bind fun _ => steady_throw (fails tag source)

theorem drainEach_steady {kind : Kind} {Named : String → Prop} {resources : List Resource}
    (named : ∀ resource ∈ resources, Named resource.partition) :
    (drainEach policy host resources).Steady Expected
      (FailsIn host partition Named (.draining kind)) := by
  induction resources with
  | nil => exact steady_pure ()
  | cons resource resources ih =>
      rw [List.forall_mem_cons] at named
      have deleted : (Deletion.delete policy host resource).Steady Expected
          (FailsIn host partition Named (.draining kind)) :=
        attempt_steady (.interrupted named.1) (.undeleted resource)
      exact deleted.bind fun _ => (releaseTag_steady .unreleased).bind fun _ => ih named.2

theorem releaseEach_steady {resources : List Resource} :
    (releaseEach resources).Steady Expected Fails := by
  induction resources with
  | nil => exact steady_pure ()
  | cons resource resources ih =>
      refine steady_ask_bind fun answer _ => ?_
      cases answer with
      | ok => exact ih
      | error source => exact steady_note.bind fun _ => ih

theorem releasePorts_steady {kinds : List Kind} :
    (releasePorts host partition kinds).Steady Expected Fails := by
  induction kinds with
  | nil => exact steady_pure ()
  | cons kind kinds ih =>
      refine steady_ask_bind fun answer _ => ?_
      cases answer with
      | ok resources => exact releaseEach_steady.bind fun _ => ih
      | error source => exact steady_note.bind fun _ => ih

theorem deleteRouteDomains_steady
    (fails : ∀ name source, Fails (.routeDomain host partition name source)) :
    (deleteRouteDomains host partition names).Steady Expected Fails := by
  induction names with
  | nil => exact steady_pure ()
  | cons name names ih =>
      refine steady_ask_bind fun answer _ => ?_
      rcases answer with (_ | _ | _) | _
      case error.authExpired | error.other =>
        exact steady_note.bind fun _ => steady_throw (fails name _)
      case error.notFound => exact ih
      case ok => exact steady_note.bind fun _ => ih

theorem deleteFolder_steady (fails : ∀ source, Fails (.folder host partition source)) :
    (deleteFolder host partition).Steady Expected Fails := by
  refine steady_ask_bind fun answer _ => ?_
  rcases answer with (_ | _ | _) | _
  case error.authExpired | error.other =>
    exact steady_note.bind fun _ => steady_throw (fails _)
  case error.notFound | ok => exact steady_pure ()

end

theorem work_steady {Named : String → Prop} (stage : Stage) :
    (work policy host partition names stage).Steady (Sight.Shows Named)
      (FailsIn host partition Named stage) := by
  cases stage with
  | ports => exact releasePorts_steady
  | offered => exact steady_pure ()
  | routeDomains => exact steady_note.bind fun _ => deleteRouteDomains_steady .routeDomain
  | folder => exact (deleteFolder_steady .folder).bind fun _ => steady_note
  | draining kind =>
      rw [work, Catalog.list, bind_assoc]
      refine steady_ask_bind fun answer shows => ?_
      cases answer with
      | error source => exact steady_throw (.unlisted kind source)
      | ok resources => exact drainEach_steady (shows _ _ _ resources rfl)

section

variable {Expected : Sight Backend → Prop} {Fails : Stage → TenantError → Prop}
  {does : Stage → Action Unit} {stages : List Stage} {trail : Trail Backend} {request : Request}
  {result : Except TenantError Unit}

inductive StagesEnd (host partition : String) (Fails : Stage → TenantError → Prop)
    (stages : List Stage) (passed : Nat) : Except TenantError Unit → Prop
  | finished (all : passed = stages.length) : StagesEnd host partition Fails stages passed (.ok ())
  | cancelled (some : passed < stages.length) :
      StagesEnd host partition Fails stages passed (.error (.cancelled host partition))
  | failed {place stage failure} (found : stages[place]? = some stage)
      (inside : passed = place + 1) (fails : Fails stage failure) :
      StagesEnd host partition Fails stages passed (.error failure)

theorem StagesEnd.cons {stage : Stage} {passed : Nat}
    (ends : StagesEnd host partition Fails stages passed result) :
    StagesEnd host partition Fails (stage :: stages) (passed + 1) result := by
  cases ends with
  | finished all => exact .finished (by simp [all])
  | cancelled some => exact .cancelled (by simpa using some)
  | @failed place own _ found inside fails =>
      have later : (stage :: stages)[place + 1]? = some own := found
      exact .failed later (by rw [inside]) fails

theorem inStages_conduct (steady : ∀ stage, (does stage).Steady Expected (Fails stage))
    (taken : Program.Yields (inStages host partition does stages).run trail result)
    (expected : ∀ sight ∈ trail, Expected sight) :
    StagesEnd host partition Fails stages trail.passed result ∧ Program.Ceases result trail := by
  induction stages generalizing trail with
  | nil =>
      obtain ⟨rfl, rfl⟩ := taken
      exact ⟨.finished rfl, Program.ceases_of_tells (List.forall_mem_nil _)⟩
  | cons stage stages ih =>
      rw [inStages] at taken
      obtain ⟨rfl, rfl⟩ | ⟨later, rfl, opened⟩ := yields_checkpoint_bind_iff.mp taken
      · exact ⟨.cancelled (Nat.succ_pos _), Program.ceases_of_cancelled⟩
      rw [List.forall_mem_cons] at expected
      rw [Trail.passed_looked]
      obtain ⟨failure, ends, rfl⟩ | ⟨_, first, second, rfl, succeeds, goes⟩ :=
        yields_bind_iff.mp opened
      · have conduct := (steady stage).conduct ends expected.2
        refine ⟨?_, Program.ceases_cons (by simp [Sight.told?]) ?_⟩
        · rw [conduct.passed]
          have first : (stage :: stages)[0]? = some stage := rfl
          exact .failed first rfl (conduct.fails failure rfl)
        · exact conduct.ceases
      · rw [List.forall_mem_append] at expected
        have conduct := (steady stage).conduct succeeds expected.2.1
        obtain ⟨ends, ceases⟩ := ih goes expected.2.2
        have calm := conduct.ceases.calm fun _ _ same => by cases same
        refine ⟨?_, Program.ceases_cons (by simp [Sight.told?]) (Program.ceases_append calm ceases)⟩
        rw [Trail.passed_append, conduct.passed, Nat.zero_add]
        exact ends.cons

theorem inStages_asks (steady : ∀ stage, (does stage).Steady Expected (Fails stage))
    (asked : (inStages host partition does stages).Asks trail request)
    (expected : ∀ sight ∈ trail, Expected sight) :
    ∃ place stage own, stages[place]? = some stage ∧ trail.passed = place + 1 ∧ own ⊆ trail ∧
      (does stage).Asks own request := by
  induction stages generalizing trail with
  | nil => exact absurd asked not_asks_pure
  | cons stage stages ih =>
      obtain ⟨later, rfl, opened⟩ := asks_checkpoint_bind_iff.mp asked
      rw [List.forall_mem_cons] at expected
      rw [Trail.passed_looked]
      obtain early | ⟨_, first, second, rfl, succeeds, late⟩ := asks_bind_iff.mp opened
      · refine ⟨0, stage, later, rfl, ?_, List.subset_cons_self _ _, early⟩
        rw [(steady stage).passed_of_asks early expected.2]
      · rw [List.forall_mem_append] at expected
        obtain ⟨place, other, own, found, same, within, asked⟩ := ih late expected.2.2
        refine ⟨place + 1, other, own, by simpa using found, ?_, ?_, asked⟩
        · rw [Trail.passed_append, ((steady stage).conduct succeeds expected.2.1).passed]
          omega
        · exact fun sight member => List.mem_cons_of_mem _ (List.mem_append_right _ (within member))

end

end Teardown

end Tenancy
