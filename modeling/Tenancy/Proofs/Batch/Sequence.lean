import Tenancy.Proofs.Batch.Pace
import Tenancy.Proofs.Batch.Window

/-!
The sequence of a batch's calls. A call is issued only after the same program's last one was
answered, and after all calls of the programs that had to leave the window before it could start.
-/

namespace Tenancy

variable {I : Interface} {σ α : Type}

/-- The exchange has to be over before this asker asks anything more: it is the asker's own, or one
of a program that has to leave the window before the asker is started. -/
def Exchange.Precedes (limit : Nat) (exchange : Exchange I) (asker : Nat) : Prop :=
  exchange.asker = asker ∨ exchange.asker + limit ≤ asker

/-- How a later exchange of a record stands to an earlier one: it is not of a program far behind the
window, and if it had to wait for the earlier one, then it was issued after that. -/
def Exchange.Follows (cost : I.Query → Nat) (limit : Nat) (later earlier : Exchange I) : Prop :=
  earlier.asker < later.asker + limit ∧
    (earlier.Precedes limit later.asker → earlier.time + cost later.query ≤ later.time)

namespace Task

def asks? (now : Nat) : Task I α → Option (I.Query × Nat)
  | waiting _ wake query _ => some (query, wake)
  | due _ query _ => some (query, now)
  | _ => none

theorem asks?_queueAnew (now ticket round : Nat) (task : Task I α) :
    (task.queueAnew ticket round).asks? now = task.asks? now := by
  cases task <;> rfl

theorem asks?_later {task : Task I α} {now later time : Nat} {query : I.Query}
    (order : now ≤ later) (asks : task.asks? later = some (query, time)) :
    ∃ earlier ≤ time, task.asks? now = some (query, earlier) := by
  cases task with
  | unstarted | ready | pausing | ended => cases asks
  | waiting => exact ⟨time, Nat.le_refl time, asks⟩
  | due =>
      cases asks
      exact ⟨now, order, rfl⟩

end Task

namespace Batch

structure Sequenced (cost : I.Query → Nat) (Keeps : σ → Prop) (batch : Batch I σ α) : Prop where
  keeps : Keeps batch.surroundings.state
  past : ∀ exchange ∈ batch.surroundings.exchanges, exchange.time ≤ batch.surroundings.now
  askers : ∀ exchange ∈ batch.surroundings.exchanges, exchange.asker < batch.started
  free : ∀ (place : Nat) (task : Task I α) query time, batch.tasks[place]? = some task →
    task.asks? batch.surroundings.now = some (query, time) →
      ∀ exchange ∈ batch.surroundings.exchanges, exchange.Precedes batch.limit place →
        exchange.time + cost query ≤ time
  pairs : batch.surroundings.exchanges.Pairwise (Exchange.Follows cost batch.limit)

variable {batch next later : Batch I σ α} {peer : Peer I σ} {programs : List (Program I α)}
  {cost : I.Query → Nat} {Keeps : σ → Prop} {surroundings : Surroundings I σ} {task : Task I α}
  {place : Fin batch.tasks.length}

theorem started_le_put (begun : task.isUnstarted = false) :
    batch.started ≤ (batch.put place task surroundings).started := by
  rw [started_put place begun]
  exact Nat.le_add_right _ _

theorem Sequenced.put (sequenced : Sequenced cost Keeps batch)
    (begun : task.isUnstarted = false) (state : surroundings.state = batch.surroundings.state)
    (exchanges : surroundings.exchanges = batch.surroundings.exchanges)
    (order : batch.surroundings.now ≤ surroundings.now)
    (free : ∀ query time, task.asks? surroundings.now = some (query, time) →
      ∀ exchange ∈ batch.surroundings.exchanges, exchange.Precedes batch.limit place →
        exchange.time + cost query ≤ time) :
    Sequenced cost Keeps (batch.put place task surroundings) := by
  refine ⟨state ▸ sequenced.keeps, fun exchange member => ?_, fun exchange member => ?_, ?_, ?_⟩
  · exact Nat.le_trans (sequenced.past exchange (exchanges ▸ member)) order
  · exact Nat.lt_of_lt_of_le (sequenced.askers exchange (exchanges ▸ member)) (started_le_put begun)
  · intro other found query time known asks exchange member precedes
    change exchange ∈ surroundings.exchanges at member
    rw [exchanges] at member
    rw [Batch.put, List.getElem?_set] at known
    split at known
    next same =>
      rw [if_pos place.isLt] at known
      obtain rfl := Option.some.inj known
      exact free query time asks exchange member (same ▸ precedes)
    next =>
      obtain ⟨earlier, low, asks⟩ := Task.asks?_later order asks
      exact Nat.le_trans (sequenced.free other found query earlier known asks exchange member
        precedes) low
  · change surroundings.exchanges.Pairwise _
    rw [exchanges]
    exact sequenced.pairs

theorem Sequenced.quiet (sequenced : Sequenced cost Keeps batch)
    (begun : task.isUnstarted = false) (silent : ∀ now, task.asks? now = none)
    (state : surroundings.state = batch.surroundings.state)
    (exchanges : surroundings.exchanges = batch.surroundings.exchanges)
    (order : batch.surroundings.now ≤ surroundings.now) :
    Sequenced cost Keeps (batch.put place task surroundings) := by
  refine sequenced.put begun state exchanges order fun query time asks => ?_
  rw [silent] at asks
  cases asks

theorem Sequenced.happen (sequenced : Sequenced cost Keeps batch) (moment : Moment)
    (later : List Moment) : Sequenced cost Keeps (batch.happen moment later) := by
  have order : batch.surroundings.now ≤ max batch.surroundings.now moment.time :=
    Nat.le_max_left _ _
  refine ⟨sequenced.keeps, fun exchange member => ?_, ?_, ?_, sequenced.pairs⟩
  · exact Nat.le_trans (sequenced.past exchange member) order
  · rw [started_happen]
    exact sequenced.askers
  · intro place task query time found asks exchange member precedes
    rw [Batch.happen, List.getElem?_mapIdx, Option.map_eq_some_iff] at found
    obtain ⟨old, found, rfl⟩ := found
    have same : old.asks? (max batch.surroundings.now moment.time) = some (query, time) := by
      obtain kept | anew := batch.requeue_cases moment place old
      · rw [kept] at asks
        exact asks
      · rw [anew, Task.asks?_queueAnew] at asks
        exact asks
    obtain ⟨earlier, low, asks⟩ := Task.asks?_later order same
    exact Nat.le_trans (sequenced.free place old query earlier found asks exchange member precedes)
      low

theorem Sequenced.answer (paced : peer.Paced cost Keeps) (sequenced : Sequenced cost Keeps batch)
    (windowed : Windowed programs batch) {ticket : Nat} {query : I.Query}
    {rest : I.Answer query → Program I α} (due : batch.tasks.get place = .due ticket query rest) :
    let exchanged := batch.surroundings.exchange peer place query
    Sequenced cost Keeps (batch.put place (.ready ticket (rest exchanged.1)) exchanged.2) := by
  intro exchanged
  have known : batch.tasks[place.val]? = some (.due ticket query rest) := by
    rw [List.getElem?_eq_getElem place.isLt, ← due]
    rfl
  have began := windowed.lt_started known rfl
  have behind : batch.handedOver ≤ place.val := by
    refine Nat.le_of_not_lt fun low => ?_
    obtain ⟨ended, found, result⟩ := le_handedOver_iff.mp (Nat.le_refl _) place.val low
    rw [known] at found
    obtain rfl := Option.some.inj found
    cases result
  have room := windowed.room
  have now : exchanged.2.now = batch.surroundings.now := Surroundings.exchange_now _ _ _ _
  have begun : (Task.ready ticket (rest exchanged.1)).isUnstarted = false := rfl
  have record : exchanged.2.exchanges =
      ⟨batch.surroundings.now, place, query, exchanged.1⟩ :: batch.surroundings.exchanges := rfl
  refine ⟨paced.respond query sequenced.keeps, ?_, ?_, ?_, ?_⟩
  · change ∀ exchange ∈ exchanged.2.exchanges, exchange.time ≤ exchanged.2.now
    rw [now, record, List.forall_mem_cons]
    exact ⟨Nat.le_refl _, sequenced.past⟩
  · change ∀ exchange ∈ exchanged.2.exchanges, exchange.asker < _
    rw [record, List.forall_mem_cons]
    have more : batch.started ≤
        (batch.put place (.ready ticket (rest exchanged.1)) exchanged.2).started :=
      started_le_put begun
    exact ⟨Nat.lt_of_lt_of_le began more,
      fun exchange member => Nat.lt_of_lt_of_le (sequenced.askers exchange member) more⟩
  · intro other task asked time found asks
    change task.asks? exchanged.2.now = some (asked, time) at asks
    change ∀ exchange ∈ exchanged.2.exchanges, _
    rw [now] at asks
    rw [Batch.put, List.getElem?_set] at found
    split at found
    next same =>
      rw [if_pos place.isLt] at found
      obtain rfl := Option.some.inj found
      cases asks
    next apart =>
      rw [record, List.forall_mem_cons]
      refine ⟨fun precedes => ?_, sequenced.free other task asked time found asks⟩
      -- A program that would have to wait for this answer is not started yet.
      have late : batch.started ≤ other := by
        obtain same | behind := precedes
        · exact absurd same apart
        · change place.val + batch.limit ≤ other at behind
          omega
      rw [windowed.waiting other late] at found
      obtain ⟨program, -, rfl⟩ := Option.map_eq_some_iff.mp found
      cases asks
  · change exchanged.2.exchanges.Pairwise _
    rw [record, List.pairwise_cons]
    refine ⟨fun exchange member => ⟨?_, ?_⟩, sequenced.pairs⟩
    · have low := sequenced.askers exchange member
      change exchange.asker < place.val + batch.limit
      omega
    · exact sequenced.free place.val _ query _ known rfl exchange member

theorem Sequenced.advance (paced : peer.Paced cost Keeps) (sequenced : Sequenced cost Keeps batch)
    {ticket : Nat} {program : Program I α} :
    Sequenced cost Keeps (batch.advance peer place ticket program) := by
  have order : batch.surroundings.now ≤ batch.surroundings.now := Nat.le_refl _
  cases program with
  | done | write | look => exact sequenced.quiet rfl (fun _ => rfl) rfl rfl order
  | pause milliseconds next =>
      simp only [Batch.advance]
      split
      · exact sequenced.quiet rfl (fun _ => rfl) rfl rfl order
      · split <;> exact sequenced.quiet rfl (fun _ => rfl) rfl rfl order
  | ask query next =>
      have latency := paced.latency query sequenced.keeps
      have free (wake : Nat) (late : batch.surroundings.now + cost query ≤ wake) :
          ∀ exchange ∈ batch.surroundings.exchanges, exchange.Precedes batch.limit place →
            exchange.time + cost query ≤ wake := by
        intro exchange member _
        have past := sequenced.past exchange member
        omega
      simp only [Batch.advance]
      rw [latency]
      split
      next none =>
        refine sequenced.put rfl rfl rfl order fun asked time asks => ?_
        obtain ⟨rfl, rfl⟩ := Prod.mk.inj (Option.some.inj asks)
        exact free _ (by omega)
      next =>
        refine sequenced.put rfl rfl rfl order fun asked time asks => ?_
        obtain ⟨rfl, rfl⟩ := Prod.mk.inj (Option.some.inj asks)
        exact free _ (Nat.le_refl _)

theorem Sequenced.move (paced : peer.Paced cost Keeps) (sequenced : Sequenced cost Keeps batch)
    (windowed : Windowed programs batch) (moved : batch.move peer place = some next) :
    Sequenced cost Keeps next := by
  have onward (time : Nat) : batch.surroundings.now ≤ max batch.surroundings.now time :=
    Nat.le_max_left _ _
  unfold Batch.move at moved
  split at moved
  next program _ =>
    obtain rfl := Option.some.inj moved
    exact sequenced.quiet rfl (fun _ => rfl) rfl rfl (Nat.le_refl _)
  next ticket wake query rest task =>
    obtain rfl := Option.some.inj moved
    refine sequenced.put rfl rfl rfl (onward wake) fun asked time asks => ?_
    obtain ⟨rfl, rfl⟩ := Prod.mk.inj (Option.some.inj asks)
    intro exchange member precedes
    have known : batch.tasks[place.val]? = some (.waiting ticket wake query rest) := by
      rw [List.getElem?_eq_getElem place.isLt, ← task]
      rfl
    have due := sequenced.free place.val _ query wake known rfl exchange member precedes
    exact Nat.le_trans due (Nat.le_max_right _ _)
  next wake milliseconds rest _ =>
    split at moved
    · obtain rfl := Option.some.inj moved
      exact sequenced.quiet rfl (fun _ => rfl) rfl rfl (Nat.le_refl _)
    · obtain rfl := Option.some.inj moved
      exact sequenced.quiet rfl (fun _ => rfl) rfl rfl (onward _)
  next ticket query rest task =>
    obtain rfl := Option.some.inj moved
    exact sequenced.answer paced windowed task
  next ticket program _ =>
    obtain rfl := Option.some.inj moved
    exact sequenced.advance paced
  next => cases moved

theorem Sequenced.step (paced : peer.Paced cost Keeps) (sequenced : Sequenced cost Keeps batch)
    (windowed : Windowed programs batch) (stepped : batch.step peer = some next) :
    Sequenced cost Keeps next := by
  obtain ⟨place, moved⟩ | ⟨moment, later, -, rfl⟩ := step_cases stepped
  · exact sequenced.move paced windowed moved
  · exact sequenced.happen moment later

theorem Reaches.sequenced (paced : peer.Paced cost Keeps) (reaches : Reaches peer batch later)
    (windowed : Windowed programs batch) (sequenced : Sequenced cost Keeps batch) :
    Sequenced cost Keeps later := by
  induction reaches with
  | refl => exact sequenced
  | tail before stepped ih => exact ih.step paced (Reaches.windowed before windowed) stepped

theorem sequenced_start (limit : Nat) (keeps : Keeps surroundings.state)
    (fresh : surroundings.exchanges = []) :
    Sequenced cost Keeps (Batch.start surroundings limit programs) := by
  refine ⟨keeps, ?_, ?_, ?_, ?_⟩ <;> simp [Batch.start, fresh]

theorem silent_of_ended (room : 0 < batch.limit) {calls : List (Exchange I)} {asker : Nat}
    {result : α}
    (grown : (batch.run peer).surroundings.exchanges = calls ++ batch.surroundings.exchanges)
    (ended : batch.tasks[asker]? = some (.ended result)) : ∀ call ∈ calls, call.asker ≠ asker := by
  have known : batch.rests[asker]? = some (.done result) := by
    rw [rests, List.getElem?_map, ended]
    rfl
  have onward := reaches_run batch peer
  have low : asker < (batch.run peer).results.length := by
    have length := onward.record.1
    rw [rests_run peer room, List.length_map] at length
    rw [length]
    exact (List.getElem?_eq_some_iff.mp known).1
  have left : (batch.run peer).rests[asker]? =
      some (.done ((batch.run peer).results[asker])) := by
    rw [rests_run peer room, List.getElem?_map, List.getElem?_eq_getElem low]
    rfl
  obtain ⟨program, trail, same, goes⟩ := onward.leads.goes left
  obtain rfl := Option.some.inj (known.symm.trans same)
  have taken : Program.Yields (.done result) (trail ++ []) _ := goes.leaves.takes ⟨rfl, rfl⟩
  obtain ⟨silent, -⟩ := taken
  rw [List.append_nil] at silent
  have none := goes.recorded grown
  rw [silent, Exchange.repliesTo, Trail.answers, List.reverse_eq_nil_iff, List.map_eq_nil_iff,
    List.filter_eq_nil_iff] at none
  exact fun call member own => none call member (decide_eq_true own)

theorem Sequenced.calls (sequenced : Sequenced cost Keeps batch)
    (windowed : Windowed programs batch) (room : 0 < batch.limit) :
    ∃ calls, (batch.run peer).surroundings.exchanges = calls ++ batch.surroundings.exchanges ∧
      (∀ call ∈ batch.surroundings.exchanges,
        ∃ task, batch.tasks[call.asker]? = some task ∧ task.isUnstarted = false) ∧
      ∀ call ∈ calls, ∃ task, batch.tasks[call.asker]? = some task ∧ task.result? = none := by
  obtain ⟨-, calls, grown, askers⟩ := (reaches_run batch peer).record
  refine ⟨calls, grown, fun call member => ?_, fun call member => ?_⟩
  · have begun := sequenced.askers call member
    have low : call.asker < batch.tasks.length := Nat.lt_of_lt_of_le begun List.countP_le_length
    have known := List.getElem?_eq_getElem low
    exact ⟨_, known, windowed.begun _ _ known begun⟩
  · have low := askers call member
    rw [rests, List.length_map] at low
    have known := List.getElem?_eq_getElem low
    refine ⟨_, known, ?_⟩
    cases task : batch.tasks[call.asker] with
    | ended result =>
        rw [task] at known
        exact absurd rfl (silent_of_ended room grown known call member)
    | unstarted | ready | waiting | due | pausing => rfl

end Batch

end Tenancy
