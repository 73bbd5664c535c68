import Tenancy.Proofs.Batch.Pace

/-!
Whose turn it is. Of the programs of a batch that can go on, each has a ticket of its own, and the
one with the lowest ticket goes on. So whoever has got an answer goes on until it asks, pauses or
ends, before anybody else writes anything or gets an answer.
-/

namespace Tenancy

variable {I : Interface} {σ α : Type}

inductive Program.Passes : Program I α → Program I α → Prop
  | stays (program) : Passes program program
  | pause (milliseconds next requested) : Passes (.pause milliseconds next) (next requested)
  | look (next requested) : Passes (.look next) (next requested)

namespace Batch

variable {batch next : Batch I σ α} {peer : Peer I σ}

def ticketAt (batch : Batch I σ α) (place : Nat) : Option Nat :=
  batch.tasks[place]?.bind Task.readyTicket?

theorem ticketAt_get (place : Fin batch.tasks.length) :
    batch.ticketAt place = (batch.tasks.get place).readyTicket? := by
  simp [ticketAt]

theorem ticketAt_eq_some_iff {place ticket : Nat} :
    batch.ticketAt place = some ticket ↔
      ∃ task, batch.tasks[place]? = some task ∧ task.readyTicket? = some ticket :=
  Option.bind_eq_some_iff

theorem ticketAt_put (place : Fin batch.tasks.length) (task : Task I α)
    (surroundings : Surroundings I σ) (other : Nat) :
    (batch.put place task surroundings).ticketAt other =
      if place.val = other then task.readyTicket? else batch.ticketAt other := by
  rw [ticketAt, put, List.getElem?_set]
  split
  next same =>
    subst same
    rw [if_pos place.isLt]
    rfl
  next => rfl

theorem ticketAt_happen (moment : Moment) (later : List Moment) (place : Nat) :
    (batch.happen moment later).ticketAt place = batch.ticketAt place := by
  have same (task : Task I α) : (batch.requeue moment place task).readyTicket? =
      task.readyTicket? := by
    obtain kept | anew := batch.requeue_cases moment place task
    · rw [kept]
    · rw [anew]
      cases task <;> rfl
  rw [ticketAt, ticketAt, happen, List.getElem?_mapIdx]
  cases batch.tasks[place]? with
  | none => rfl
  | some task => exact same task

inductive Moves (peer : Peer I σ) (batch : Batch I σ α) (place : Fin batch.tasks.length) :
    Batch I σ α → Prop
  | passes {task : Task I α} {surroundings : Surroundings I σ}
      (rest : Program.Passes (batch.tasks.get place).rest task.rest)
      (ticket : ∀ own, task.readyTicket? = some own →
        own = batch.ticket ∨ batch.ticketAt place = some own)
      (exchanges : surroundings.exchanges = batch.surroundings.exchanges)
      (events : surroundings.events = batch.surroundings.events) :
      Moves peer batch place (batch.put place task surroundings)
  | writes {ticket : Nat} {event : Event} {rest : Program I α}
      (task : batch.tasks.get place = .ready ticket (.write event rest)) :
      Moves peer batch place
        (batch.put place (.ready ticket rest) (batch.surroundings.write event))
  | asks {ticket : Nat} {query : I.Query} {rest : I.Answer query → Program I α}
      (task : batch.tasks.get place = .due ticket query rest) :
      Moves peer batch place
        (batch.put place (.ready ticket (rest (peer.respond query batch.surroundings.state).1))
          (batch.surroundings.exchange peer place query).2)

theorem advance_moves {place : Fin batch.tasks.length} {ticket : Nat} {program : Program I α}
    (task : batch.tasks.get place = .ready ticket program) :
    Moves peer batch place (batch.advance peer place ticket program) := by
  have passes (later : Task I α) (rest : Program.Passes program later.rest)
      (own : ∀ other, later.readyTicket? = some other → other = ticket) :
      Moves peer batch place (batch.put place later batch.surroundings) := by
    refine .passes (by rw [task]; exact rest) (fun other known => .inr ?_) rfl rfl
    rw [ticketAt_get, task, own other known]
    rfl
  have kept (other : Nat) (known : some ticket = some other) : other = ticket :=
    (Option.some.inj known).symm
  have gone (other : Nat) (known : none = some other) : other = ticket := by cases known
  cases program with
  | done result => exact passes _ (.stays _) gone
  | write event next => exact .writes task
  | look next => exact passes _ (.look next _) kept
  | ask query next =>
      rw [advance]
      split
      · exact passes _ (.stays _) kept
      · exact passes _ (.stays _) gone
  | pause milliseconds next =>
      rw [advance]
      split
      · exact passes _ (.pause milliseconds next _) kept
      · split
        · exact passes _ (.pause milliseconds next _) kept
        · exact passes _ (.stays _) gone

theorem move_moves {place : Fin batch.tasks.length} (moved : batch.move peer place = some next) :
    Moves peer batch place next := by
  have drawn {other : Nat} (known : some batch.ticket = some other) :
      other = batch.ticket ∨ batch.ticketAt place = some other :=
    .inl (Option.some.inj known).symm
  unfold move at moved
  split at moved
  next program task =>
    obtain rfl := Option.some.inj moved
    exact .passes (by rw [task]; exact .stays _) (fun _ => drawn) rfl rfl
  next wake query rest task =>
    obtain rfl := Option.some.inj moved
    exact .passes (by rw [task]; exact .stays _) (fun _ => drawn) rfl rfl
  next wake milliseconds rest task =>
    split at moved
    · obtain rfl := Option.some.inj moved
      exact .passes (by rw [task]; exact .pause milliseconds rest _) (fun _ => drawn) rfl rfl
    · obtain rfl := Option.some.inj moved
      exact .passes (by rw [task]; exact .pause milliseconds rest _) (fun _ => drawn) rfl rfl
  next ticket query rest task =>
    obtain rfl := Option.some.inj moved
    exact .asks task
  next ticket program task =>
    obtain rfl := Option.some.inj moved
    exact advance_moves task
  next => cases moved

structure Queued (batch : Batch I σ α) : Prop where
  drawn : ∀ place ticket, batch.ticketAt place = some ticket → ticket < batch.ticket
  distinct : ∀ place other ticket, batch.ticketAt place = some ticket →
    batch.ticketAt other = some ticket → place = other

theorem Queued.put (queued : batch.Queued) (place : Fin batch.tasks.length) (task : Task I α)
    (surroundings : Surroundings I σ)
    (ticket : ∀ own, task.readyTicket? = some own →
      own = batch.ticket ∨ batch.ticketAt place = some own) :
    (batch.put place task surroundings).Queued := by
  have apart {other own : Nat} (away : place.val ≠ other) (mine : task.readyTicket? = some own)
      (its : batch.ticketAt other = some own) : False := by
    obtain rfl | kept := ticket own mine
    · exact Nat.lt_irrefl _ (queued.drawn other _ its)
    · exact away (queued.distinct place other own kept its)
  constructor
  · intro other own known
    rw [ticketAt_put] at known
    refine Nat.lt_succ_of_le ?_
    split at known
    · obtain rfl | kept := ticket own known
      · exact Nat.le_refl _
      · exact Nat.le_of_lt (queued.drawn place own kept)
    · exact Nat.le_of_lt (queued.drawn other own known)
  · intro one other own known same
    rw [ticketAt_put] at known same
    split at known
    next here =>
      split at same
      next here' => exact here.symm.trans here'
      next away => exact (apart away known same).elim
    next away =>
      split at same
      next => exact (apart away same known).elim
      next => exact queued.distinct one other own known same

theorem Queued.happen (queued : batch.Queued) (moment : Moment) (later : List Moment) :
    (batch.happen moment later).Queued := by
  constructor
  · intro place ticket known
    rw [ticketAt_happen] at known
    have low := queued.drawn place ticket known
    have more : batch.ticket ≤ (batch.happen moment later).ticket :=
      Nat.le_mul_of_pos_left batch.ticket (Nat.succ_pos _)
    exact Nat.lt_of_lt_of_le low more
  · intro place other ticket known same
    rw [ticketAt_happen] at known same
    exact queued.distinct place other ticket known same

theorem Moves.queued {place : Fin batch.tasks.length} (moves : Moves peer batch place next)
    (queued : batch.Queued) : next.Queued := by
  cases moves with
  | passes _ ticket _ _ => exact queued.put place _ _ ticket
  | writes task =>
      refine queued.put place _ _ fun own known => .inr ?_
      rw [ticketAt_get, task]
      exact known
  | asks task =>
      refine queued.put place _ _ fun own known => .inr ?_
      rw [ticketAt_get, task]
      exact known

theorem queued_start (surroundings : Surroundings I σ) (limit : Nat)
    (programs : List (Program I α)) : (Batch.start surroundings limit programs).Queued := by
  have none (place : Nat) : (Batch.start surroundings limit programs).ticketAt place = none := by
    simp only [Batch.start, ticketAt, List.getElem?_map]
    cases programs[place]? <;> rfl
  constructor
  · intro place ticket known
    rw [none] at known
    cases known
  · intro place other ticket known
    rw [none] at known
    cases known

def Foremost (batch : Batch I σ α) (place : Nat) : Prop :=
  ∀ own, batch.ticketAt place = some own →
    ∀ other ticket, batch.ticketAt other = some ticket → own ≤ ticket

theorem Queued.behind (queued : batch.Queued) {place other own ticket : Nat}
    (foremost : batch.Foremost place) (mine : batch.ticketAt place = some own)
    (its : batch.ticketAt other = some ticket) (apart : other ≠ place) : own < ticket := by
  refine Nat.lt_of_le_of_ne (foremost own mine other ticket its) ?_
  rintro rfl
  exact apart (queued.distinct other place own its mine)

theorem foremost_of_unready {place : Fin batch.tasks.length}
    (unready : (batch.tasks.get place).readyTicket? = none) : batch.Foremost place := by
  intro own mine
  rw [ticketAt_get, unready] at mine
  cases mine

theorem step_turn (stepped : batch.step peer = some next) :
    (∃ place, batch.move peer place = some next ∧ batch.Foremost place) ∨
      batch.Idle ∧ ∃ moment later, next = batch.happen moment later := by
  cases step_picks stepped with
  | @starts place _ start moved =>
      refine .inl ⟨place, moved, foremost_of_unready ?_⟩
      obtain ⟨found, -⟩ := Option.filter_eq_some_iff.mp start
      have unstarted : (batch.tasks.get place).isUnstarted :=
        (List.findFinIdx?_eq_some_iff.mp found).1
      cases task : batch.tasks.get place with
      | unstarted | waiting | pausing | ended => rfl
      | ready | due =>
          rw [task] at unstarted
          cases unstarted
  | @wakes place _ _ found moved =>
      refine .inl ⟨place, moved, foremost_of_unready ?_⟩
      have asleep := firstPlace?_key found
      cases task : batch.tasks.get place with
      | unstarted | waiting | pausing | ended => rfl
      | ready | due =>
          rw [task] at asleep
          exact absurd rfl asleep
  | @goes place _ _ _ found moved =>
      refine .inl ⟨place, moved, fun own mine other ticket its => ?_⟩
      obtain ⟨first, known, least⟩ := firstPlace?_least id
        (fun left right before => Nat.le_of_lt (of_decide_eq_true before))
        (fun left right late => Nat.le_of_not_lt (of_decide_eq_false late)) found
      rw [ticketAt_get, known] at mine
      obtain rfl := Option.some.inj mine
      obtain ⟨task, here, its⟩ := ticketAt_eq_some_iff.mp its
      exact least task (List.mem_of_getElem? here) ticket its
  | @sleeps place _ idle _ _ moved =>
      exact .inl ⟨place, moved,
        foremost_of_unready (unready_of_idle idle _ (List.get_mem _ place))⟩
  | @happens _ moment later idle _ _ _ =>
      exact .inr ⟨unready_of_idle idle, moment, later, rfl⟩

end Batch

end Tenancy
