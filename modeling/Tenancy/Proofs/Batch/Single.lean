import Tenancy.Proofs.Batch.Course

/-!
A batch of one program does what the program does by itself, with the same result and in the same
surroundings. So a program that runs alone has a course too.
-/

namespace Tenancy

variable {I : Interface} {σ α : Type}

def Task.finish (peer : Peer I σ) (surroundings : Surroundings I σ) :
    Task I α → α × Surroundings I σ
  | unstarted program => program.run peer 0 surroundings
  | ready _ program => program.run peer 0 surroundings
  | waiting _ wake query next =>
      let waited := surroundings.passTo wake surroundings.moments
      let (answer, answered) := waited.exchange peer 0 query
      (next answer).run peer 0 answered
  | due _ query next =>
      let (answer, answered) := surroundings.exchange peer 0 query
      (next answer).run peer 0 answered
  | pausing _ wake _ next =>
      let (requested, paused) :=
        if surroundings.requested then (true, surroundings)
        else surroundings.pauseTo wake surroundings.moments
      (next requested).run peer 0 paused
  | ended result => (result, surroundings)

namespace Surroundings

variable {surroundings : Surroundings I σ} {moment : Moment} {later : List Moment} {time : Nat}

theorem passTo_take (first : surroundings.moments = moment :: later) (early : moment.time < time) :
    (surroundings.take moment later).passTo time (surroundings.take moment later).moments =
      surroundings.passTo time surroundings.moments := by
  rw [first, passTo, if_pos early]
  rfl

theorem pauseTo_take (first : surroundings.moments = moment :: later) (early : moment.time < time) :
    (if (surroundings.take moment later).requested then
        (true, surroundings.take moment later)
      else (surroundings.take moment later).pauseTo time
        (surroundings.take moment later).moments) =
      surroundings.pauseTo time surroundings.moments := by
  rw [first, pauseTo, if_pos early]
  rfl

theorem passTo_of_none (none : ∀ moment ∈ surroundings.moments.head?, time ≤ moment.time) :
    surroundings.passTo time surroundings.moments = { surroundings with now := time } := by
  rcases found : surroundings.moments with _ | ⟨moment, later⟩
  · simp [passTo, ← found]
  · have late : ¬ moment.time < time := Nat.not_lt.mpr (none moment (by simp [found]))
    simp [passTo, late, ← found]

theorem pauseTo_of_none (none : ∀ moment ∈ surroundings.moments.head?, time ≤ moment.time) :
    surroundings.pauseTo time surroundings.moments = (false, { surroundings with now := time }) := by
  rcases found : surroundings.moments with _ | ⟨moment, later⟩
  · simp [pauseTo, ← found]
  · have late : ¬ moment.time < time := Nat.not_lt.mpr (none moment (by simp [found]))
    simp [pauseTo, late, ← found]

end Surroundings

namespace Batch

variable {peer : Peer I σ}

def single (surroundings : Surroundings I σ) (limit ticket : Nat) (task : Task I α) :
    Batch I σ α :=
  ⟨surroundings, limit, ticket, [task]⟩

def sole {surroundings : Surroundings I σ} {limit ticket : Nat} {task : Task I α} :
    Fin (single surroundings limit ticket task).tasks.length :=
  ⟨0, Nat.zero_lt_one⟩

theorem firstPlace?_singleton {τ κ : Type} (before : κ → κ → Bool) (key : τ → Option κ)
    (entry : τ) :
    firstPlace? before key [entry] = (key entry).map fun _ => ⟨0, Nat.zero_lt_one⟩ := by
  rw [firstPlace?]
  cases key entry <;> rfl

variable {surroundings : Surroundings I σ} {limit ticket : Nat} {task : Task I α}

theorem step_of_awake (room : 0 < limit)
    (awake : task.isUnstarted ∨
      (task.wakesNow? surroundings.now surroundings.requested).isSome ∨
      task.readyTicket?.isSome) :
    (single surroundings limit ticket task).step peer =
      (single surroundings limit ticket task).move peer sole := by
  have current : (single surroundings limit ticket task).current? = some sole := by
    simp only [current?, startPlace?, single, firstPlace?_singleton, handedOver]
    cases task with
    | ended => simp [Task.isUnstarted, Task.wakesNow?, Task.readyTicket?] at awake
    | unstarted =>
        simp only [List.findFinIdx?, List.findFinIdx?.go, Task.isUnstarted, Task.result?]
        simp [room]
        rfl
    | ready | due => rfl
    | waiting | pausing =>
        simp only [Task.isUnstarted, Task.readyTicket?, Bool.false_eq_true,
          Option.isSome_none, or_false, false_or] at awake
        obtain ⟨key, wakes⟩ := Option.isSome_iff_exists.mp awake
        rw [wakes]
        rfl
  rw [step, current]

theorem step_of_asleep {wake : Nat × Nat} {next : Batch I σ α} (sleeps : task.wake? = some wake)
    (asleep : task.wakesNow? surroundings.now surroundings.requested = none)
    (stepped : (single surroundings limit ticket task).step peer = some next) :
    (∃ moment later, surroundings.moments = moment :: later ∧ moment.time < wake.1 ∧
        next = (single surroundings limit ticket task).happen moment later) ∨
      (single surroundings limit ticket task).move peer sole = some next ∧
        ∀ moment ∈ surroundings.moments.head?, wake.1 ≤ moment.time := by
  have current : (single surroundings limit ticket task).current? = none := by
    simp only [current?, startPlace?, single, firstPlace?_singleton, handedOver, asleep]
    cases task with
    | waiting | pausing => rfl
    | ended | unstarted | ready | due => cases sleeps
  have found : firstPlace? earlier Task.wake? (single surroundings limit ticket task).tasks =
      some sole := by
    simp only [single, firstPlace?_singleton, sleeps]
    rfl
  have wakes : ((single surroundings limit ticket task).tasks.get sole).wake? = some wake := sleeps
  have moments : (single surroundings limit ticket task).surroundings.moments =
      surroundings.moments := rfl
  rw [step, current, found] at stepped
  simp only [wakes, moments, Option.any_some, decide_eq_true_eq] at stepped
  split at stepped
  next none => exact .inr ⟨stepped, by simp [none]⟩
  next moment later some =>
    split at stepped
    next early => exact .inl ⟨moment, later, some, early, (Option.some.inj stepped).symm⟩
    next late => exact .inr ⟨stepped, by simpa [some] using late⟩

structure Ends (peer : Peer I σ) (final : α × Surroundings I σ) (batch : Batch I σ α) : Prop where
  room : 0 < batch.limit
  shape : ∃ task, batch.tasks = [task] ∧ task.finish peer batch.surroundings = final ∧
    ∀ wake ∈ task.wake?, batch.surroundings.now < wake.1

variable {batch next : Batch I σ α} {final : α × Surroundings I σ}

theorem ends_put (room : 0 < batch.limit) (alone : batch.tasks.length = 1)
    (place : Fin batch.tasks.length) (finish : task.finish peer surroundings = final)
    (later : ∀ wake ∈ task.wake?, surroundings.now < wake.1) :
    Ends peer final (batch.put place task surroundings) := by
  refine ⟨room, task, ?_, finish, later⟩
  obtain ⟨old, only⟩ := List.length_eq_one_iff.mp alone
  have zero : place.val = 0 := by omega
  simp only [put, only, zero, List.set_cons_zero]

theorem ends_advance {own : Nat} {program : Program I α} (room : 0 < batch.limit)
    (alone : batch.tasks.length = 1) (place : Fin batch.tasks.length)
    (finish : program.run peer 0 batch.surroundings = final) :
    Ends peer final (batch.advance peer place own program) := by
  cases program with
  | done result => exact ends_put room alone place finish (by simp [Task.wake?])
  | write event next => exact ends_put room alone place finish (by simp [Task.wake?])
  | look next => exact ends_put room alone place finish (by simp [Task.wake?])
  | ask query next =>
      rw [Program.run] at finish
      rw [advance]
      split
      next none =>
        rw [none] at finish
        exact ends_put room alone place finish (by simp [Task.wake?])
      next some =>
        rw [Surroundings.wait, if_neg some] at finish
        refine ends_put room alone place finish ?_
        simp only [Task.wake?, Option.mem_def, Option.some.injEq, forall_eq']
        omega
  | pause milliseconds next =>
      rw [Program.run, Surroundings.pause] at finish
      rw [advance]
      split
      next raised =>
        rw [if_pos raised] at finish
        exact ends_put room alone place finish (by simp [Task.wake?])
      next calm =>
        rw [if_neg calm] at finish
        split
        next none =>
          rw [if_pos none] at finish
          exact ends_put room alone place finish (by simp [Task.wake?])
        next some =>
          rw [if_neg some] at finish
          refine ends_put room alone place ?_ ?_
          · rw [Task.finish, if_neg calm]
            exact finish
          · simp only [Task.wake?, Option.mem_def, Option.some.injEq, forall_eq']
            omega

theorem ends_happen {moment : Moment} {later : List Moment} {wake : Nat × Nat}
    (room : 0 < limit) (sleeps : task.wake? = some wake) (early : moment.time < wake.1)
    (asleep : surroundings.now < wake.1)
    (finish : task.finish peer (surroundings.take moment later) = final) :
    Ends peer final ((single surroundings limit ticket task).happen moment later) := by
  have anew (own round : Nat) :
      (task.queueAnew own round).finish peer (surroundings.take moment later) = final ∧
        ∀ other ∈ (task.queueAnew own round).wake?, max surroundings.now moment.time < other.1 := by
    cases task with
    | unstarted | ready | due | ended => cases sleeps
    | waiting | pausing =>
        obtain rfl := Option.some.inj sleeps
        refine ⟨finish, ?_⟩
        simp only [Task.queueAnew, Task.wake?, Option.mem_def, Option.some.injEq, forall_eq']
        omega
  have same : ∀ other ∈ task.wake?, max surroundings.now moment.time < other.1 := by
    rw [sleeps]
    simp only [Option.mem_def, Option.some.injEq, forall_eq']
    omega
  refine ⟨room, ?_⟩
  obtain kept | requeued := (single surroundings limit ticket task).requeue_cases moment 0 task
  · exact ⟨task, congrArg (fun task => [task]) kept, finish, same⟩
  · exact ⟨_, congrArg (fun task => [task]) requeued, anew _ _⟩

theorem Ends.step (ends : Ends peer final batch) (stepped : batch.step peer = some next) :
    Ends peer final next := by
  obtain ⟨room, task, only, finish, sleeps⟩ := ends
  obtain ⟨surroundings, limit, ticket, tasks⟩ := batch
  subst only
  have alone : (single surroundings limit ticket task).tasks.length = 1 := rfl
  change (single surroundings limit ticket task).step peer = some next at stepped
  cases task with
  | unstarted program =>
      rw [step_of_awake room (.inl rfl)] at stepped
      obtain rfl := Option.some.inj stepped
      exact ends_put room alone sole finish (by simp [Task.wake?])
  | ready own program =>
      rw [step_of_awake room (.inr (.inr rfl))] at stepped
      obtain rfl := Option.some.inj stepped
      exact ends_advance room alone sole finish
  | due own query rest =>
      rw [step_of_awake room (.inr (.inr rfl))] at stepped
      obtain rfl := Option.some.inj stepped
      exact ends_put room alone sole finish (by simp [Task.wake?])
  | ended result => cases stepped
  | waiting own wake query rest =>
      have asleep : surroundings.now < wake := sleeps _ rfl
      obtain ⟨moment, later, found, early, rfl⟩ | ⟨moved, none⟩ :=
        step_of_asleep rfl (by simp [Task.wakesNow?, asleep]) stepped
      · refine ends_happen room rfl early asleep ?_
        simp only [Task.finish, Surroundings.passTo_take found early]
        exact finish
      · obtain rfl := Option.some.inj moved
        simp only [Task.finish, Surroundings.passTo_of_none none] at finish
        have now : max surroundings.now wake = wake := by omega
        refine ends_put room alone sole ?_ (by simp [Task.wake?])
        simp only [single, now]
        exact finish
  | pausing own wake milliseconds rest =>
      have asleep : surroundings.now < wake := sleeps _ rfl
      by_cases raised : surroundings.requested
      · rw [step_of_awake room (.inr (.inl (by simp [Task.wakesNow?, raised])))] at stepped
        have moved : (single surroundings limit ticket (.pausing own wake milliseconds rest)).move
            peer sole = _ := if_pos raised
        rw [moved] at stepped
        obtain rfl := Option.some.inj stepped
        rw [Task.finish, if_pos raised] at finish
        exact ends_put room alone sole finish (by simp [Task.wake?])
      · rw [Task.finish, if_neg raised] at finish
        obtain ⟨moment, later, found, early, rfl⟩ | ⟨moved, none⟩ :=
          step_of_asleep rfl (by simp [Task.wakesNow?, asleep, raised]) stepped
        · refine ends_happen room rfl early asleep ?_
          rw [Task.finish, Surroundings.pauseTo_take found early]
          exact finish
        · have moves : (single surroundings limit ticket (.pausing own wake milliseconds rest)).move
              peer sole = _ := if_neg raised
          rw [moves] at moved
          obtain rfl := Option.some.inj moved
          rw [Surroundings.pauseTo_of_none none] at finish
          have now : max surroundings.now wake = wake := by omega
          refine ends_put room alone sole ?_ (by simp [Task.wake?])
          simp only [single, now]
          exact finish

theorem Ends.run (ends : Ends peer final batch) :
    (batch.run peer).results = [final.1] ∧ (batch.run peer).surroundings = final.2 := by
  fun_induction Batch.run batch peer with
  | case1 batch stuck =>
      obtain ⟨room, task, only, finish, -⟩ := ends
      have done := all_ended_of_step_eq_none room stuck
      rw [only, List.forall_mem_singleton] at done
      cases task with
      | unstarted | ready | waiting | due | pausing => cases done
      | ended result =>
          rw [← finish]
          simp [results, only, Task.result?, Task.finish]
  | case2 batch next stepped ih => exact ih (ends.step stepped)

/-- A program in a batch of its own does what it does alone. -/
theorem run_single (program : Program I α) (peer : Peer I σ) (surroundings : Surroundings I σ) :
    let batch := (Batch.start surroundings 1 [program]).run peer
    let alone := program.run peer 0 surroundings
    batch.results = [alone.1] ∧ batch.surroundings = alone.2 := by
  refine Ends.run ⟨Nat.zero_lt_one, .unstarted program, rfl, rfl, ?_⟩
  simp [Task.wake?]

end Batch

end Tenancy
