import Tenancy.Proofs.Batch.Sequence
import Tenancy.Proofs.Cleanup.Policies

/-!
The parallelism of a best-effort cleanup. Whatever the latencies, the faults and the shutdown signal
are, the appliances of the service are started in its order, within the window that the policy
gives, and each of them makes its calls one after another.
-/

namespace Tenancy

def Undertaking.Reaches {I : Interface} {σ α β : Type} (undertaking : Undertaking I β α)
    (peer : Peer I σ) (surroundings : Surroundings I σ) (batch : Batch I σ β) : Prop :=
  match undertaking with
  | .alone _ => False
  | .together limit programs _ => Batch.Reaches peer (Batch.start surroundings limit programs) batch

namespace Cleanup.Pass

def Reaches (pass : Pass) (fleet : Fleet) :
    Batch Backend Estate (Except TenantError Outcome) → Prop :=
  (ofService pass.naming pass.retry pass.service pass.policy).Reaches
    (Estate.peer pass.raiseOnCall) (pass.surroundings fleet)

def teardowns (pass : Pass) : List (Program Backend (Except TenantError Outcome)) :=
  pass.service.hosts.map fun host => (Teardown.run pass.retry host pass.partition).run

structure Bounded (pass : Pass) (fleet : Fleet) (limit : Nat) : Prop where
  /-- At every instant the appliances that have been started are the first of the service, at most
  so many of them are not handed over, and so at most so many are under way. -/
  window : ∀ {batch}, pass.Reaches fleet batch →
    Batch.Windowed pass.teardowns batch ∧ batch.started ≤ batch.handedOver + limit ∧
      batch.underWay ≤ limit
  opens : ∃ batch, pass.Reaches fleet batch ∧ batch.surroundings = pass.surroundings fleet ∧
    batch.started = 0
  steps : ∀ {batch next}, pass.Reaches fleet batch →
    batch.step (Estate.peer pass.raiseOnCall) = some next →
      next.started = batch.started ∨ next.started = batch.started + 1
  closes : ∃ batch, pass.Reaches fleet batch ∧ pass.exchanges fleet = batch.surroundings.exchanges ∧
    batch.started = pass.service.hosts.length ∧ batch.handedOver = pass.service.hosts.length
  calls : ∀ {batch}, pass.Reaches fleet batch →
    ∃ later, pass.exchanges fleet = later ++ batch.surroundings.exchanges ∧
      (∀ call ∈ batch.surroundings.exchanges,
        ∃ task, batch.tasks[call.asker]? = some task ∧ task.isUnstarted = false) ∧
      ∀ call ∈ later, ∃ task, batch.tasks[call.asker]? = some task ∧ task.result? = none
  single : ∀ {place : Nat} {host : String}, pass.service.hosts[place]? = some host →
    ∃ (trail : Trail Backend) (result : Except TenantError Outcome),
      Program.Yields (Teardown.run pass.retry host pass.partition).run trail result ∧
      trail.answers = Exchange.repliesTo place (pass.exchanges fleet)
  /-- A call of an appliance is made after its last one was answered, and after all those of the
  appliances that had to be handed over before it was started. -/
  sequence : (pass.exchanges fleet).Pairwise (Exchange.Follows (pass.estate fleet).latency limit)
  inTurn : limit = 1 → (pass.exchanges fleet).Pairwise fun later earlier =>
    earlier.asker ≤ later.asker ∧
      earlier.time + (pass.estate fleet).latency later.query ≤ later.time

variable {pass : Pass} {fleet : Fleet} {maxParallel : Nat}
  {batch : Batch Backend Estate (Except TenantError Outcome)}

theorem reaches_iff (policy : pass.policy = .bestEffort maxParallel) :
    pass.Reaches fleet batch ↔
      Batch.Reaches (Estate.peer pass.raiseOnCall)
        (Batch.start (pass.surroundings fleet) (max maxParallel 1) pass.teardowns) batch := by
  rw [Reaches, ofService, policy]
  rfl

theorem exchanges_together (policy : pass.policy = .bestEffort maxParallel) :
    pass.exchanges fleet = (pass.batch fleet maxParallel).surroundings.exchanges := by
  obtain ⟨events, ran⟩ := reports_of_together fleet policy
  rw [exchanges, ran]

theorem reaches_batch (policy : pass.policy = .bestEffort maxParallel) :
    pass.Reaches fleet (pass.batch fleet maxParallel) :=
  (reaches_iff policy).mpr (Batch.reaches_run _ _)

theorem Reaches.run (reaches : pass.Reaches fleet batch)
    (policy : pass.policy = .bestEffort maxParallel) :
    batch.run (Estate.peer pass.raiseOnCall) = pass.batch fleet maxParallel :=
  ((reaches_iff policy).mp reaches).run_eq

theorem Reaches.limit (reaches : pass.Reaches fleet batch)
    (policy : pass.policy = .bestEffort maxParallel) : batch.limit = max maxParallel 1 :=
  ((reaches_iff policy).mp reaches).limit

theorem Reaches.windowed (reaches : pass.Reaches fleet batch)
    (policy : pass.policy = .bestEffort maxParallel) : Batch.Windowed pass.teardowns batch :=
  ((reaches_iff policy).mp reaches).windowed (Batch.windowed_start _ _)

theorem Reaches.sequenced (reaches : pass.Reaches fleet batch)
    (policy : pass.policy = .bestEffort maxParallel) :
    Batch.Sequenced (pass.estate fleet).latency
      (fun estate => estate.latencies = (pass.estate fleet).latencies) batch :=
  ((reaches_iff policy).mp reaches).sequenced (Estate.paced _ _) (Batch.windowed_start _ _)
    (Batch.sequenced_start _ rfl rfl)

theorem all_handedOver_together (pass : Pass) (fleet : Fleet) (maxParallel : Nat) :
    (pass.batch fleet maxParallel).started = pass.service.hosts.length ∧
      (pass.batch fleet maxParallel).handedOver = pass.service.hosts.length := by
  have length := (batch_tracks pass fleet maxParallel).1.length
  rw [Batch.rests, List.length_map, List.length_map] at length
  rw [← length]
  exact Batch.all_handedOver
    (Batch.all_ended_run _ (Nat.lt_of_lt_of_le Nat.zero_lt_one (Nat.le_max_right maxParallel 1)))

theorem single_together {place : Nat} {host : String}
    (policy : pass.policy = .bestEffort maxParallel)
    (placed : pass.service.hosts[place]? = some host) :
    ∃ (trail : Trail Backend) (result : Except TenantError Outcome),
      Program.Yields (Teardown.run pass.retry host pass.partition).run trail result ∧
      trail.answers = Exchange.repliesTo place (pass.exchanges fleet) := by
  have tracks := batch_tracks pass fleet maxParallel
  have low : place < (pass.batch fleet maxParallel).results.length := by
    rw [tracks.1.length_results tracks.2, List.length_map]
    exact (List.getElem?_eq_some_iff.mp placed).1
  obtain ⟨trail, taken, answers, -⟩ :=
    yields_of_together fleet policy placed (List.getElem?_eq_getElem low)
  exact ⟨trail, _, taken, answers⟩

theorem sequence_together (policy : pass.policy = .bestEffort maxParallel) :
    (pass.exchanges fleet).Pairwise
      (Exchange.Follows (pass.estate fleet).latency (max maxParallel 1)) := by
  have reaches : pass.Reaches fleet (pass.batch fleet maxParallel) := reaches_batch policy
  rw [exchanges_together policy, ← reaches.limit policy]
  exact (reaches.sequenced policy).pairs

/-- The bound on the parallelism of a best-effort cleanup: whatever it is given, the appliances of
the service are started in its order and make their calls within the window. -/
theorem best_effort_bounded (pass : Pass) (fleet : Fleet) (maxParallel : Nat) :
    (pass.under (.bestEffort maxParallel)).Bounded fleet (max maxParallel 1) := by
  have policy : (pass.under (.bestEffort maxParallel)).policy = .bestEffort maxParallel := rfl
  have sequence : ((pass.under _).exchanges fleet).Pairwise _ := sequence_together policy
  refine ⟨fun {batch} reaches => ?_, ?_, fun {batch next} reaches stepped => ?_, ?_,
    fun {batch} reaches => ?_, single_together policy, sequence, fun one => ?_⟩
  · have within := reaches.windowed policy
    have limit := reaches.limit policy
    exact ⟨within, limit ▸ within.room, limit ▸ within.underWay_le⟩
  · exact ⟨_, (reaches_iff policy).mpr .refl, rfl, Batch.started_start _ _ _⟩
  · exact ((reaches.windowed policy).step stepped).2
  · exact ⟨_, reaches_batch policy, exchanges_together policy, all_handedOver_together _ _ _⟩
  · have room : 0 < batch.limit := by
      rw [reaches.limit policy]
      omega
    rw [exchanges_together policy, ← reaches.run policy]
    exact (reaches.sequenced policy).calls (reaches.windowed policy) room
  · refine sequence.imp fun {later earlier} follows => ?_
    obtain ⟨behind, waits⟩ := follows
    rw [one] at behind waits
    refine ⟨by omega, waits ?_⟩
    by_cases same : earlier.asker = later.asker
    · exact .inl same
    · exact .inr (by omega)

end Cleanup.Pass

end Tenancy
