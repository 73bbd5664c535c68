import Tenancy.Catalog
import Tenancy.Cleanup
import Tenancy.Estate
import Tenancy.Provisioning
import Tenancy.Proofs.Batch.Unsignalled

/-!
All that can be asked for, one thing after the other, beside a shutdown signal on which shutdown is
never requested. If nobody is there who could request it, or this one stays, such a signal makes no
difference. If the last one who could request shutdown goes, it makes none either, unless a pause of
one appliance ends together with a pause of another one, or with a wait that began after it.
-/

namespace Tenancy

inductive Chore
  | create (service : Service)
  | clean (service : Service) (policy : Policy)
  | list (host partition : String) (kind : Kind)
  | routeDomains (host partition : String)
  | checkEmpty (host partition : String)
  | delete (retry : RetryPolicy) (host : String) (resource : Resource)

namespace Chore

inductive Answer
  | provisioned (provisioned : Provisioned)
  | report (report : Report)
  | resources (resources : List Resource)
  | names (names : List String)
  | empty (empty : Bool)
  | deleted

def undertaking (naming : Naming) (settings : Settings) :
    Chore → Undertaking Backend (Except TenantError Outcome) (Except TenantError Answer)
  | create service =>
      .alone (Answer.provisioned <$> Provisioning.assureCreated naming settings service).run
  | clean service policy =>
      (Cleanup.ofService naming settings.retry service policy).andThen
        fun result => .done (result.map .report)
  | list host partition kind => .alone (Answer.resources <$> Catalog.list host partition kind).run
  | routeDomains host partition =>
      .alone (Answer.names <$> Catalog.routeDomainNames host partition).run
  | checkEmpty host partition => .alone (Answer.empty <$> Catalog.isEmpty host partition).run
  | delete retry host resource =>
      .alone ((fun _ => Answer.deleted) <$> Deletion.delete retry host resource).run

end Chore

/-- Something to do, or between two such things the departure of the last one who could request
shutdown. -/
inductive Occasion
  | chore (chore : Chore)
  | departure

namespace Agenda

variable {σ : Type} (naming : Naming) (settings : Settings) (peer : Peer Backend σ)

def run : List Occasion → Surroundings Backend σ →
    List (Except TenantError Chore.Answer) × Surroundings Backend σ
  | [], surroundings => ([], surroundings)
  | .departure :: later, surroundings =>
      run later { surroundings with signal := surroundings.signal.map Signal.drop }
  | .chore chore :: later, surroundings =>
      let (result, after) := (chore.undertaking naming settings).run peer surroundings
      let (results, last) := run later after
      (result :: results, last)

/-- Whenever the last one who could request shutdown goes while appliances are cleaned up side by
side, their pauses are untied. -/
def UntiedWhenLeft : List Occasion → Surroundings Backend σ → Prop
  | [], _ => True
  | .departure :: later, surroundings =>
      UntiedWhenLeft later { surroundings with signal := surroundings.signal.map Signal.drop }
  | .chore chore :: later, surroundings =>
      (chore.undertaking naming settings).UntiedWhenLeft peer surroundings ∧
        UntiedWhenLeft later ((chore.undertaking naming settings).run peer surroundings).2

variable {naming settings peer} {agenda : List Occasion} {surroundings : Surroundings Backend σ}

theorem run_chore (chore : Chore) :
    run naming settings peer (.chore chore :: agenda) surroundings =
      (((chore.undertaking naming settings).run peer surroundings).1 ::
          (run naming settings peer agenda
            ((chore.undertaking naming settings).run peer surroundings).2).1,
        (run naming settings peer agenda
          ((chore.undertaking naming settings).run peer surroundings).2).2) := rfl

theorem requested_run (raised : surroundings.requested) :
    (run naming settings peer agenda surroundings).2.requested := by
  induction agenda generalizing surroundings with
  | nil => exact raised
  | cons occasion agenda ih =>
      cases occasion with
      | departure =>
          refine ih ?_
          cases signal : surroundings.signal with
          | none => simp [Surroundings.requested, signal] at raised
          | some on => simpa [Surroundings.requested, signal, Signal.drop] using raised
      | chore chore => exact ih (Undertaking.requested_run raised)

theorem run_unsignalled
    (calm : (run naming settings peer agenda surroundings).2.requested = false)
    (untied : UntiedWhenLeft naming settings peer agenda surroundings) :
    run naming settings peer agenda surroundings.unsignalled =
      ((run naming settings peer agenda surroundings).1,
        (run naming settings peer agenda surroundings).2.unsignalled) := by
  induction agenda generalizing surroundings with
  | nil => rfl
  | cons occasion agenda ih =>
      cases occasion with
      | departure => exact ih calm untied
      | chore chore =>
          have before : ((chore.undertaking naming settings).run peer surroundings).2.requested =
              false := Surroundings.calm_of_grows requested_run calm
          have later : run naming settings peer agenda
              ((chore.undertaking naming settings).run peer surroundings).2.unsignalled = _ :=
            ih calm untied.2
          rw [run_chore, run_chore, Undertaking.run_unsignalled before untied.1, later]

theorem untiedWhenLeft_of_steady {chores : List Chore} (steady : surroundings.Steady) :
    UntiedWhenLeft naming settings peer (chores.map .chore) surroundings := by
  induction chores generalizing surroundings with
  | nil => trivial
  | cons chore chores ih =>
      obtain ⟨untied, later⟩ := @Undertaking.run_steady _ _ _ _
        (chore.undertaking naming settings) peer _ steady
      exact ⟨untied, ih later⟩

/-- A signal on which shutdown is never requested makes no difference, unless pauses are tied when
the last one goes who could request it. -/
theorem unraised_signal_unseen (naming : Naming) (settings : Settings) (raiseOnCall : Option Nat)
    (agenda : List Occasion) (surroundings : Surroundings Backend Estate)
    (calm : (run naming settings (Estate.peer raiseOnCall) agenda surroundings).2.requested = false)
    (untied : UntiedWhenLeft naming settings (Estate.peer raiseOnCall) agenda surroundings) :
    let run := run naming settings (Estate.peer raiseOnCall) agenda
    let here := run surroundings
    let there := run surroundings.unsignalled
    here.1 = there.1 ∧ here.2.exchanges = there.2.exchanges ∧ here.2.events = there.2.events ∧
      here.2.state = there.2.state ∧ here.2.now = there.2.now := by
  intro run here there
  have same : there = (here.1, here.2.unsignalled) := run_unsignalled calm untied
  rw [same]
  exact ⟨rfl, rfl, rfl, rfl, rfl⟩

def bothHosts : Service := ⟨"t", none, [⟨"h1"⟩, ⟨"h2"⟩]⟩

def bothCleanups : List (Program Backend (Except TenantError Outcome)) :=
  bothHosts.hosts.map fun host => (Teardown.run RetryPolicy.default host "Project_t").run

def bothConcluded (results : List (Except TenantError Outcome)) :
    Program Backend (Except TenantError Chore.Answer) :=
  (Cleanup.conclude "Project_t" [] [] (bothHosts.hosts.zip results)).run.bind fun result =>
    .done (result.map .report)

def cleanBoth : Chore := .clean bothHosts (.bestEffort 2)

theorem cleanBoth_undertaking :
    cleanBoth.undertaking .default .default = .together 2 bothCleanups bothConcluded := rfl

/-- Both hosts have the folder and an address in it. The first deletions find the session expired,
the next one the appliance busy, and the second host takes its time. -/
def sharedEstate (expiries latency : Nat) : Estate :=
  let held (name : String) : Host :=
    ⟨["Project_t"], [⟨⟨.snat, name, "Project_t", none⟩, "Project_t"⟩]⟩
  let fails (times : Nat) (answer : FaultAnswer) : Fault :=
    ⟨.delete, none, none, none, none, 0, some times, answer, false⟩
  ⟨⟨[("h1", held "a"), ("h2", held "b")]⟩, [("h2", latency)],
    [fails expiries ⟨.authExpired, "401", none, none, none⟩,
      fails 1 ⟨.other, "busy", none, none, none⟩]⟩

/-- While the first host's deletion is about to be tried again after 1000 milliseconds, the one who
could request shutdown goes. -/
def leaving (expiries latency : Nat) (rounds : List Nat) : Surroundings Backend Estate :=
  ⟨sharedEstate expiries latency, 0, some ⟨false, true⟩, [⟨900, .drop rounds⟩], [], []⟩

theorem unraised_signal_unseen_leaving :
    let agenda := [.chore cleanBoth, .departure, .chore (.create bothHosts)]
    let run := run .default .default (Estate.peer none) agenda
    let here := run (leaving 1 124 [1])
    let there := run (leaving 1 124 [1]).unsignalled
    here.2.requested = false ∧
      UntiedWhenLeft .default .default (Estate.peer none) agenda (leaving 1 124 [1]) ∧
      here.1 = there.1 ∧ here.2.exchanges = there.2.exchanges ∧ here.2.events = there.2.events ∧
      here.2.state = there.2.state ∧ here.2.now = there.2.now := by
  intro agenda run here there
  have stays :
      (Batch.start (leaving 1 124 [1]) 2 bothCleanups).staysUntied (Estate.peer none) 80 := by
    decide +kernel
  obtain ⟨untied, walks⟩ := Batch.untiedWhenLeft_of_stays stays
  have calm : here.2.requested = false := by
    simp only [here, run, agenda, run_chore, cleanBoth_undertaking, Undertaking.run, walks]
    decide +kernel
  have parted : UntiedWhenLeft .default .default (Estate.peer none) agenda (leaving 1 124 [1]) :=
    ⟨untied, trivial, trivial⟩
  exact ⟨calm, parted, unraised_signal_unseen .default .default none agenda _ calm parted⟩

/-- If the second host takes 125 milliseconds for a request, its eighth one ends with the pause of
the first host. If it takes none and both hosts pause, the pauses end together, and the second host
may be the one that gets to know first. Which of the two deletions comes first, and fails, depends
on the signal. -/
theorem departure_seen :
    let run := run .default .default (Estate.peer none) [.chore cleanBoth]
    ((run (leaving 1 125 [])).2.requested = false ∧
      (run (leaving 1 125 [])).2.state.fleet ≠
        (run (leaving 1 125 []).unsignalled).2.state.fleet) ∧
    (run (leaving 2 0 [1, 0])).2.requested = false ∧
      (run (leaving 2 0 [1, 0])).2.state.fleet ≠
        (run (leaving 2 0 [1, 0]).unsignalled).2.state.fleet := by
  intro run
  let walked (start : Surroundings Backend Estate) :=
    (Batch.start start 2 bothCleanups).walk (Estate.peer none) 80
  have goes (start : Surroundings Backend Estate)
      (ended : ((walked start).step (Estate.peer none)).isNone) :
      (run start).2 = ((bothConcluded (walked start).results).run (Estate.peer none) 0
        (walked start).surroundings).2 := by
    have ran := congrArg Prod.snd (@Undertaking.run_walk _ _ _ _ _ _ bothConcluded _ _ 80 ended)
    rwa [← cleanBoth_undertaking] at ran
  constructor
  · rw [goes (leaving 1 125 []) (by decide +kernel),
      goes (leaving 1 125 []).unsignalled (by decide +kernel)]
    decide +kernel
  · rw [goes (leaving 2 0 [1, 0]) (by decide +kernel),
      goes (leaving 2 0 [1, 0]).unsignalled (by decide +kernel)]
    decide +kernel

end Agenda

end Tenancy
