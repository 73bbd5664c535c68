import Tenancy.Proofs.Batch.Course

/-!
The pace of the programs of a batch. As long as shutdown is not requested, each of them gets its
answers when it would get them alone, counted from its own start, for the clock moves only while
nothing can go on and never beyond the earliest wake-up.
-/

namespace Tenancy

variable {I : Interface} {σ α : Type}

def Sight.lasts (cost : I.Query → Nat) : Sight I → Nat
  | .asked query _ => cost query
  | .paused milliseconds _ => milliseconds
  | .looked _ => 0

def Trail.lasts (cost : I.Query → Nat) : Trail I → Nat
  | [] => 0
  | sight :: later => sight.lasts cost + Trail.lasts cost later

def Trail.calls (cost : I.Query → Nat) (start : Nat) :
    Trail I → List (Nat × (query : I.Query) × I.Answer query)
  | [] => []
  | .asked query answer :: later =>
      (start + cost query, ⟨query, answer⟩) :: Trail.calls cost (start + cost query) later
  | .paused milliseconds _ :: later => Trail.calls cost (start + milliseconds) later
  | .looked _ :: later => Trail.calls cost start later

def Exchange.call (exchange : Exchange I) : Nat × (query : I.Query) × I.Answer query :=
  (exchange.time, exchange.reply)

def Exchange.callsOf (asker : Nat) (exchanges : List (Exchange I)) :
    List (Nat × (query : I.Query) × I.Answer query) :=
  ((exchanges.filter (·.asker = asker)).map call).reverse

variable {cost : I.Query → Nat}

@[simp] theorem Trail.lasts_append (first second : Trail I) :
    lasts cost (first ++ second) = first.lasts cost + second.lasts cost := by
  induction first with
  | nil => simp [lasts]
  | cons sight first ih => simp [lasts, ih, Nat.add_assoc]

theorem Trail.calls_append (start : Nat) (first second : Trail I) :
    calls cost start (first ++ second) =
      first.calls cost start ++ second.calls cost (start + first.lasts cost) := by
  induction first generalizing start with
  | nil => rfl
  | cons sight first ih =>
      cases sight with
      | asked query answer =>
          simp only [List.cons_append, calls, ih]
          simp [lasts, Sight.lasts, Nat.add_assoc]
      | paused milliseconds requested =>
          simp only [List.cons_append, calls, ih]
          simp [lasts, Sight.lasts, Nat.add_assoc]
      | looked requested =>
          simp only [List.cons_append, calls, ih]
          simp [lasts, Sight.lasts]

theorem Trail.calls_replies (start : Nat) (trail : Trail I) :
    (trail.calls cost start).map Prod.snd = trail.answers := by
  induction trail generalizing start with
  | nil => rfl
  | cons sight trail ih =>
      cases sight with
      | asked query answer => simp only [calls, List.map_cons, answers, ih]
      | paused milliseconds requested => simp only [calls, answers, ih]
      | looked requested => simp only [calls, answers, ih]

theorem Trail.calls_add (delay start : Nat) (trail : Trail I) :
    trail.calls cost (delay + start) =
      (trail.calls cost start).map fun call => (delay + call.1, call.2) := by
  induction trail generalizing start with
  | nil => rfl
  | cons sight trail ih =>
      cases sight with
      | asked query answer => simp only [calls, List.map_cons, Nat.add_assoc, ih]
      | paused milliseconds requested => simp only [calls, Nat.add_assoc, ih]
      | looked requested => simp only [calls, ih]

theorem Exchange.callsOf_cons (asker : Nat) (exchange : Exchange I)
    (exchanges : List (Exchange I)) :
    callsOf asker (exchange :: exchanges) =
      if exchange.asker = asker then callsOf asker exchanges ++ [exchange.call]
      else callsOf asker exchanges := by
  by_cases own : exchange.asker = asker
  · simp [callsOf, own]
  · simp [callsOf, own]

theorem Exchange.callsOf_replies (asker : Nat) (exchanges : List (Exchange I)) :
    (callsOf asker exchanges).map Prod.snd = repliesTo asker exchanges := by
  simp [callsOf, repliesTo, call, Function.comp_def]

structure Peer.Paced (peer : Peer I σ) (cost : I.Query → Nat) (Keeps : σ → Prop) : Prop where
  latency : ∀ {state} query, Keeps state → peer.latency state query = cost query
  respond : ∀ {state} query, Keeps state → Keeps (peer.respond query state).2

theorem Program.run_paced {peer : Peer I σ} {Keeps : σ → Prop} (paced : peer.Paced cost Keeps)
    {program : Program I α} {asker : Nat} {surroundings : Surroundings I σ}
    (keeps : Keeps surroundings.state)
    (calm : (program.run peer asker surroundings).2.requested = false) :
    (program.run peer asker surroundings).2.now =
        surroundings.now + (program.trail peer asker surroundings).lasts cost ∧
      Exchange.callsOf asker (program.run peer asker surroundings).2.exchanges =
        Exchange.callsOf asker surroundings.exchanges ++
          (program.trail peer asker surroundings).calls cost surroundings.now := by
  induction program generalizing surroundings with
  | done result => exact ⟨rfl, (List.append_nil _).symm⟩
  | write event next ih => exact ih keeps calm
  | look next ih =>
      rw [trail, Trail.lasts, Sight.lasts, Nat.zero_add]
      exact ih _ keeps calm
  | pause milliseconds next ih =>
      let paused := surroundings.pause milliseconds
      have unraised : paused.1 = false := by
        refine Bool.eq_false_iff.mpr fun told => ?_
        rw [run, requested_run (Surroundings.requested_pause told)] at calm
        cases calm
      have state : paused.2.state = surroundings.state := surroundings.pause_state milliseconds
      have rest := @ih paused.1 paused.2 (state ▸ keeps) calm
      rw [surroundings.pause_exchanges, surroundings.pause_now milliseconds unraised,
        Nat.add_assoc] at rest
      exact rest
  | ask query next ih =>
      let waited := surroundings.wait (peer.latency surroundings.state query)
      have state : waited.state = surroundings.state := surroundings.wait_state _
      have now : waited.now = surroundings.now + cost query :=
        (surroundings.wait_now _).trans (congrArg _ (paced.latency query keeps))
      let answered := waited.exchange peer asker query
      have onward : Keeps answered.2.state := paced.respond query (state ▸ keeps)
      obtain ⟨ended, calls⟩ := @ih answered.1 answered.2 onward calm
      rw [Surroundings.exchange_exchanges, Exchange.callsOf_cons, if_pos rfl,
        Surroundings.exchange_now, surroundings.wait_exchanges, List.append_assoc] at calls
      rw [Surroundings.exchange_now, now, Nat.add_assoc] at ended
      refine ⟨ended, calls.trans ?_⟩
      rw [trail, Trail.calls, ← now]
      rfl

theorem Program.run_calls {peer : Peer I σ} {Keeps : σ → Prop} (paced : peer.Paced cost Keeps)
    {program : Program I α} {asker : Nat} {surroundings : Surroundings I σ}
    (keeps : Keeps surroundings.state)
    (calm : (program.run peer asker surroundings).2.requested = false) :
    Exchange.callsOf asker (program.run peer asker surroundings).2.exchanges =
      Exchange.callsOf asker surroundings.exchanges ++
        (program.trail peer asker surroundings).calls cost surroundings.now :=
  (run_paced paced keeps calm).2

theorem Program.run_askers {peer : Peer I σ} {program : Program I α} {asker : Nat}
    {surroundings : Surroundings I σ}
    (own : ∀ exchange ∈ surroundings.exchanges, exchange.asker = asker) :
    ∀ exchange ∈ (program.run peer asker surroundings).2.exchanges, exchange.asker = asker := by
  induction program generalizing surroundings with
  | done result => exact own
  | write event next ih => exact ih own
  | look next ih => exact ih _ own
  | pause milliseconds next ih =>
      let paused := surroundings.pause milliseconds
      have same : paused.2.exchanges = surroundings.exchanges := surroundings.pause_exchanges _
      exact @ih paused.1 paused.2 (same ▸ own)
  | ask query next ih =>
      let waited := surroundings.wait (peer.latency surroundings.state query)
      have same : waited.exchanges = surroundings.exchanges := surroundings.wait_exchanges _
      let answered := waited.exchange peer asker query
      exact @ih answered.1 answered.2 (List.forall_mem_cons.mpr ⟨rfl, same ▸ own⟩)

namespace Task

def Timely (cost : I.Query → Nat) (now moment : Nat) : Task I α → Prop
  | unstarted _ => False
  | ready .. => now = moment
  | waiting _ wake query _ => wake = moment + cost query
  | due _ query _ => now = moment + cost query
  | pausing _ wake milliseconds _ => wake = moment + milliseconds
  | ended _ => True

inductive Paces (cost : I.Query → Nat) (program : Program I α) (now : Nat)
    (calls : List (Nat × (query : I.Query) × I.Answer query)) : Task I α → Prop
  | unstarted (fresh : calls = []) : Paces cost program now calls (.unstarted program)
  | started {task : Task I α} {start : Nat} {trail : Trail I}
      (made : calls = trail.calls cost start) (calm : trail.Tells false)
      (takes : ∀ more result, task.rest.Yields more result →
        program.Yields (trail ++ more) result)
      (timely : task.Timely cost now (start + trail.lasts cost)) :
      Paces cost program now calls task

variable {program : Program I α} {now later : Nat} {task next : Task I α}
  {calls more : List (Nat × (query : I.Query) × I.Answer query)}

theorem Paces.pass (paces : task.Paces cost program now calls) (idle : task.readyTicket? = none) :
    task.Paces cost program later calls := by
  cases paces with
  | unstarted fresh => exact .unstarted fresh
  | started made calm takes timely =>
      refine .started made calm takes ?_
      cases task with
      | unstarted => cases timely
      | ready | due => cases idle
      | waiting | pausing | ended => exact timely

theorem Paces.sees (paces : task.Paces cost program now calls) (started : task.isUnstarted = false)
    (seen : Trail I) (calm : seen.Tells false)
    (goes : ∀ more result, next.rest.Yields more result → task.rest.Yields (seen ++ more) result)
    (timely : ∀ moment, task.Timely cost now moment →
      next.Timely cost later (moment + seen.lasts cost) ∧ more = seen.calls cost moment) :
    next.Paces cost program later (calls ++ more) := by
  cases paces with
  | unstarted => cases started
  | @started _ start trail made told takes time =>
      obtain ⟨onward, added⟩ := timely _ time
      refine .started (?_ : _ = Trail.calls cost start (trail ++ seen)) ?_ ?_ ?_
      · rw [Trail.calls_append, made, added]
      · exact Trail.tells_append.mpr ⟨told, calm⟩
      · intro more result ends
        rw [List.append_assoc]
        exact takes _ _ (goes more result ends)
      · rw [Trail.lasts_append, ← Nat.add_assoc]
        exact onward

theorem Paces.waits (paces : task.Paces cost program now calls) (started : task.isUnstarted = false)
    (same : next.rest = task.rest)
    (timely : ∀ moment, task.Timely cost now moment → next.Timely cost later moment) :
    next.Paces cost program later calls := by
  have none : calls ++ [] = calls := List.append_nil calls
  rw [← none]
  refine paces.sees started [] (List.forall_mem_nil _) ?_ fun moment time =>
    ⟨timely moment time, rfl⟩
  rw [same]
  exact fun _ _ ends => ends

theorem Paces.queueAnew (paces : task.Paces cost program now calls) (ticket round : Nat) :
    (task.queueAnew ticket round).Paces cost program now calls := by
  cases task with
  | unstarted | ready | waiting | due | ended => exact paces
  | pausing => exact paces.waits rfl rfl fun _ => id

theorem wake?_queueAnew {ticket round : Nat} {wake : Nat × Nat}
    (sleeps : wake ∈ (task.queueAnew ticket round).wake?) : ∃ old ∈ task.wake?, old.1 = wake.1 := by
  cases task with
  | unstarted | ready | due | ended => cases sleeps
  | waiting | pausing =>
      obtain rfl := Option.some.inj sleeps
      exact ⟨_, rfl, rfl⟩

theorem wake_le_of_wakesNow {wake : Nat × Nat} (sleeps : wake ∈ task.wake?)
    (wakes : task.wakesNow? now false ≠ none) : wake.1 ≤ now := by
  cases task with
  | waiting | pausing =>
      obtain rfl := Option.some.inj sleeps
      simpa [wakesNow?] using wakes
  | unstarted | ready | due | ended => cases sleeps

theorem wake?_of_ready (ready : task.readyTicket? ≠ none) : task.wake? = none := by
  cases task with
  | ready | due | unstarted | ended => rfl
  | waiting | pausing => exact absurd rfl ready

theorem wake?_of_unstarted (unstarted : task.isUnstarted) : task.wake? = none := by
  cases task with
  | unstarted | ready | due | ended => rfl
  | waiting | pausing => cases unstarted

end Task

namespace Batch

theorem firstPlace?_least {τ κ : Type} {before : κ → κ → Bool} {key : τ → Option κ}
    (rank : κ → Nat) (low : ∀ left right, before left right = true → rank left ≤ rank right)
    (high : ∀ left right, before left right = false → rank right ≤ rank left)
    {entries : List τ} {place : Fin entries.length}
    (found : firstPlace? before key entries = some place) :
    ∃ own, key (entries.get place) = some own ∧
      ∀ entry ∈ entries, ∀ other ∈ key entry, rank own ≤ rank other := by
  induction entries with
  | nil => cases found
  | cons entry entries ih =>
      rw [firstPlace?] at found
      split at found
      next none =>
        obtain ⟨later, known, rfl⟩ := Option.map_eq_some_iff.mp found
        obtain ⟨own, ownKey, least⟩ := ih known
        refine ⟨own, ownKey, List.forall_mem_cons.mpr ⟨?_, least⟩⟩
        simp [none]
      next own ownKey rest =>
        obtain rfl := Option.some.inj found
        have keyless := firstPlace?_eq_none_iff.mp rest
        refine ⟨own, ownKey, List.forall_mem_cons.mpr ⟨?_, fun other member => ?_⟩⟩
        · simp [ownKey]
        · simp [keyless other member]
      next own later ownKey known =>
        obtain ⟨next, nextKey, least⟩ := ih known
        rw [nextKey, Option.any_some] at found
        split at found
        next earlier =>
          obtain rfl := Option.some.inj found
          refine ⟨next, nextKey, List.forall_mem_cons.mpr ⟨?_, least⟩⟩
          simpa [ownKey] using low next own earlier
        next late =>
          obtain rfl := Option.some.inj found
          have first := high next own (Bool.eq_false_iff.mpr late)
          refine ⟨own, ownKey, List.forall_mem_cons.mpr ⟨?_, fun entry member other otherKey => ?_⟩⟩
          · simp [ownKey]
          · exact Nat.le_trans first (least entry member other otherKey)

theorem earlier_least {κ : Type} {key : κ → Option (Nat × Nat)} {entries : List κ}
    {place : Fin entries.length} (found : firstPlace? earlier key entries = some place) :
    ∃ own, key (entries.get place) = some own ∧
      ∀ entry ∈ entries, ∀ other ∈ key entry, own.1 ≤ other.1 := by
  refine firstPlace?_least Prod.fst (fun left right before => ?_) (fun left right late => ?_) found
  · simp only [earlier, Bool.or_eq_true, Bool.and_eq_true, decide_eq_true_eq, beq_iff_eq] at before
    omega
  · simp only [earlier, Bool.or_eq_false_iff, decide_eq_false_iff_not] at late
    omega

variable {batch next : Batch I σ α} {peer : Peer I σ}

def Idle (batch : Batch I σ α) : Prop := ∀ task ∈ batch.tasks, task.readyTicket? = none

def Asleep (batch : Batch I σ α) (time : Nat) : Prop :=
  ∀ task ∈ batch.tasks, ∀ wake ∈ task.wake?, time ≤ wake.1

theorem asleep_of_early {place : Fin batch.tasks.length} {time : Nat}
    (found : firstPlace? earlier Task.wake? batch.tasks = some place)
    (early : (batch.tasks.get place).wake?.any (time < ·.1)) : batch.Asleep (time + 1) := by
  intro task member wake sleeps
  obtain ⟨own, same, least⟩ := earlier_least found
  rw [same, Option.any_some, decide_eq_true_eq] at early
  exact Nat.le_trans early (least task member wake sleeps)

theorem Asleep.happen {time : Nat} (asleep : batch.Asleep time) (moment : Moment)
    (later : List Moment) : (batch.happen moment later).Asleep time := by
  intro task member wake sleeps
  obtain ⟨place, low, rfl⟩ := List.mem_mapIdx.mp member
  obtain kept | anew := batch.requeue_cases moment place batch.tasks[place]
  · rw [kept] at sleeps
    exact asleep _ (List.getElem_mem low) wake sleeps
  · rw [anew] at sleeps
    obtain ⟨before, slumber, same⟩ := Task.wake?_queueAnew sleeps
    exact same ▸ asleep _ (List.getElem_mem low) before slumber

/-- What a step does to the clock: a task that sleeps is woken when its time has come, and the clock
moves only while nothing can go on. -/
theorem step_clock (stepped : batch.step peer = some next)
    (calm : batch.surroundings.requested = false) :
    (∃ place, batch.move peer place = some next ∧
      ∀ wake ∈ (batch.tasks.get place).wake?,
        wake.1 ≤ batch.surroundings.now ∨ batch.Idle ∧ batch.Asleep wake.1) ∨
      batch.Idle ∧ ∃ moment later, next = batch.happen moment later ∧ batch.Asleep moment.time := by
  cases step_picks stepped with
  | @starts place _ start moved =>
      refine .inl ⟨place, moved, fun wake sleeps => ?_⟩
      obtain ⟨found, -⟩ := Option.filter_eq_some_iff.mp start
      have unstarted : (batch.tasks.get place).isUnstarted :=
        (List.findFinIdx?_eq_some_iff.mp found).1
      rw [Task.wake?_of_unstarted unstarted] at sleeps
      cases sleeps
  | @wakes place _ _ found moved =>
      rw [calm] at found
      exact .inl ⟨place, moved, fun wake sleeps =>
        .inl (Task.wake_le_of_wakesNow sleeps (firstPlace?_key found))⟩
  | @goes place _ _ _ found moved =>
      refine .inl ⟨place, moved, fun wake sleeps => ?_⟩
      rw [Task.wake?_of_ready (firstPlace?_key found)] at sleeps
      cases sleeps
  | @sleeps place _ idle found _ moved =>
      refine .inl ⟨place, moved, fun wake sleeps => .inr ⟨unready_of_idle idle, ?_⟩⟩
      obtain ⟨own, same, least⟩ := earlier_least found
      rw [same] at sleeps
      obtain rfl := Option.some.inj sleeps
      exact least
  | @happens place moment later idle found _ early =>
      refine .inr ⟨unready_of_idle idle, moment, later, rfl, fun task member wake other => ?_⟩
      exact Nat.le_of_succ_le (asleep_of_early found early task member wake other)

structure Clocked (cost : I.Query → Nat) (Keeps : σ → Prop) (programs : List (Program I α))
    (batch : Batch I σ α) : Prop where
  keeps : Keeps batch.surroundings.state
  asleep : batch.Asleep batch.surroundings.now
  paces : ∀ (place : Nat) (program : Program I α) (task : Task I α),
    programs[place]? = some program → batch.tasks[place]? = some task →
      task.Paces cost program batch.surroundings.now
        (Exchange.callsOf place batch.surroundings.exchanges)

variable {Keeps : σ → Prop} {programs : List (Program I α)} {surroundings : Surroundings I σ}
  {task : Task I α}

theorem Clocked.put (clocked : Clocked cost Keeps programs batch)
    (place : Fin batch.tasks.length) (keeps : Keeps surroundings.state)
    (sleeps : ∀ wake ∈ task.wake?, surroundings.now ≤ wake.1)
    (clock : surroundings.now = batch.surroundings.now ∨
      batch.Idle ∧ batch.Asleep surroundings.now)
    (others : ∀ other ≠ place.val, Exchange.callsOf other surroundings.exchanges =
      Exchange.callsOf other batch.surroundings.exchanges)
    (own : ∀ program, programs[place.val]? = some program →
      (batch.tasks.get place).Paces cost program batch.surroundings.now
        (Exchange.callsOf place batch.surroundings.exchanges) →
      task.Paces cost program surroundings.now
        (Exchange.callsOf place surroundings.exchanges)) :
    Clocked cost Keeps programs (batch.put place task surroundings) := by
  have asleep : batch.Asleep surroundings.now := by
    obtain same | ⟨-, asleep⟩ := clock
    · exact same ▸ clocked.asleep
    · exact asleep
  refine ⟨keeps, fun other member => ?_, fun other program found known left => ?_⟩
  · obtain old | rfl := List.mem_or_eq_of_mem_set member
    · exact asleep other old
    · exact sleeps
  · change (batch.tasks.set place task)[other]? = some found at left
    rw [List.getElem?_set] at left
    split at left
    next same =>
      subst same
      rw [if_pos place.isLt] at left
      obtain rfl := Option.some.inj left
      have here : batch.tasks[place.val]? = some (batch.tasks.get place) := by simp
      exact own program known (clocked.paces _ _ _ known here)
    next apart =>
      have paces := clocked.paces other program found known left
      change found.Paces cost program surroundings.now
        (Exchange.callsOf other surroundings.exchanges)
      rw [others other (Ne.symm apart)]
      -- If the clock moves, then the other tasks could not go on, so they miss nothing.
      obtain same | ⟨idle, -⟩ := clock
      · exact same ▸ paces
      · exact paces.pass (idle found (List.mem_of_getElem? left))

section

variable {place : Fin batch.tasks.length} {ticket : Nat} {program later : Program I α}

theorem Clocked.sees (clocked : Clocked cost Keeps programs batch)
    (ready : batch.tasks.get place = .ready ticket program) (seen : Trail I)
    (quick : seen.lasts cost = 0) (silent : ∀ moment, seen.calls cost moment = [])
    (told : seen.Tells false)
    (goes : ∀ more result, later.Yields more result → program.Yields (seen ++ more) result)
    (state : surroundings.state = batch.surroundings.state)
    (now : surroundings.now = batch.surroundings.now)
    (exchanges : surroundings.exchanges = batch.surroundings.exchanges) :
    Clocked cost Keeps programs (batch.put place (.ready ticket later) surroundings) := by
  refine clocked.put place (state ▸ clocked.keeps) (by simp [Task.wake?]) (.inl now)
    (fun _ _ => by rw [exchanges]) fun _ _ paces => ?_
  rw [ready] at paces
  rw [now, exchanges, ← List.append_nil (Exchange.callsOf _ _)]
  refine paces.sees rfl seen told goes fun moment time => ⟨?_, (silent moment).symm⟩
  rw [quick]
  exact time

theorem Clocked.waits (clocked : Clocked cost Keeps programs batch)
    (ready : batch.tasks.get place = .ready ticket program) (same : task.rest = program)
    (wakes : ∀ wake ∈ task.wake?, batch.surroundings.now ≤ wake.1)
    (time : task.Timely cost batch.surroundings.now batch.surroundings.now) :
    Clocked cost Keeps programs (batch.put place task batch.surroundings) := by
  refine clocked.put place clocked.keeps wakes (.inl rfl) (fun _ _ => rfl) fun _ _ paces => ?_
  rw [ready] at paces
  refine paces.waits rfl same fun moment own => ?_
  have now : batch.surroundings.now = moment := own
  exact now ▸ time

theorem Clocked.advance (paced : peer.Paced cost Keeps)
    (clocked : Clocked cost Keeps programs batch) (calm : batch.surroundings.requested = false)
    (ready : batch.tasks.get place = .ready ticket program) :
    Clocked cost Keeps programs (batch.advance peer place ticket program) := by
  cases program with
  | done result => exact clocked.waits ready rfl (by simp [Task.wake?]) trivial
  | write event next =>
      exact clocked.sees ready [] rfl (fun _ => rfl) (List.forall_mem_nil _) (fun _ _ ends => ends)
        rfl rfl rfl
  | look next =>
      exact clocked.sees ready [.looked batch.surroundings.requested] rfl (fun _ => rfl)
        (by simp [Trail.Tells, Sight.told?, calm]) (fun _ _ ends => ⟨_, _, rfl, ends⟩) rfl rfl rfl
  | ask query next =>
      have latency := paced.latency query clocked.keeps
      rw [Batch.advance]
      split
      next none =>
        exact clocked.waits ready rfl (by simp [Task.wake?])
          (by simp [Task.Timely, ← latency, none])
      next some =>
        exact clocked.waits ready rfl (by simp [Task.wake?]) (by simp [Task.Timely, latency])
  | pause milliseconds next =>
      rw [Batch.advance, if_neg (by simp [calm])]
      split
      next none =>
        exact clocked.sees ready [.paused milliseconds false]
          (by simp [Trail.lasts, Sight.lasts, none]) (fun _ => rfl)
          (by simp [Trail.Tells, Sight.told?]) (fun _ _ ends => ⟨_, _, rfl, ends⟩) rfl rfl rfl
      next some => exact clocked.waits ready rfl (by simp [Task.wake?]) rfl

theorem Clocked.begin (clocked : Clocked cost Keeps programs batch)
    (unstarted : batch.tasks.get place = .unstarted program) :
    Clocked cost Keeps programs
      (batch.put place (.ready ticket program) batch.surroundings) := by
  refine clocked.put place clocked.keeps (by simp [Task.wake?]) (.inl rfl) (fun _ _ => rfl)
    fun program known paces => ?_
  rw [unstarted] at paces
  cases paces with
  | unstarted fresh =>
      have made : Exchange.callsOf place batch.surroundings.exchanges =
          Trail.calls cost batch.surroundings.now [] := fresh
      exact .started made (List.forall_mem_nil _) (fun _ _ ends => ends) rfl
  | started made calm takes timely => cases timely

theorem Clocked.answer (paced : peer.Paced cost Keeps)
    (clocked : Clocked cost Keeps programs batch) {query : I.Query}
    {next : I.Answer query → Program I α}
    (due : batch.tasks.get place = .due ticket query next) :
    Clocked cost Keeps programs
      (batch.put place
        (.ready ticket (next (batch.surroundings.exchange peer place query).1))
        (batch.surroundings.exchange peer place query).2) := by
  refine clocked.put place ?_ (by simp [Task.wake?]) (.inl (by simp)) (fun other apart => ?_)
    fun _ _ paces => ?_
  · exact paced.respond query clocked.keeps
  · rw [Surroundings.exchange_exchanges, Exchange.callsOf_cons, if_neg (Ne.symm apart)]
  · rw [Surroundings.exchange_exchanges, Exchange.callsOf_cons, if_pos rfl]
    rw [due] at paces
    refine paces.sees rfl
      [.asked query (peer.respond query batch.surroundings.state).1] ?_ ?_ fun moment time => ?_
    · simp [Trail.Tells, Sight.told?]
    · exact fun _ _ ends => ⟨_, _, rfl, ends⟩
    · have now : batch.surroundings.now = moment + cost query := time
      refine ⟨?_, by rw [Exchange.call, now]; rfl⟩
      rw [Surroundings.exchange_now]
      exact now

def Wakes (batch : Batch I σ α) (wake : Nat) : Prop :=
  batch.surroundings.now ≤ wake ∧
    (wake = batch.surroundings.now ∨ batch.Idle ∧ batch.Asleep wake)

theorem Clocked.wake (clocked : Clocked cost Keeps programs batch) {wake : Nat} {query : I.Query}
    {next : I.Answer query → Program I α} (wakes : batch.Wakes wake)
    (waiting : batch.tasks.get place = .waiting ticket wake query next) (drawn : Nat) :
    Clocked cost Keeps programs (batch.putAt place (.due drawn query next) wake) := by
  obtain ⟨low, clock⟩ := wakes
  rw [putAt, Nat.max_eq_right low]
  refine clocked.put place clocked.keeps (by simp [Task.wake?]) clock (fun _ _ => rfl)
    fun _ _ paces => ?_
  rw [waiting] at paces
  exact paces.waits rfl rfl fun _ => id

theorem Clocked.resume (clocked : Clocked cost Keeps programs batch) {wake milliseconds : Nat}
    {next : Bool → Program I α} (wakes : batch.Wakes wake)
    (pausing : batch.tasks.get place = .pausing ticket wake milliseconds next) (drawn : Nat) :
    Clocked cost Keeps programs (batch.putAt place (.ready drawn (next false)) wake) := by
  obtain ⟨low, clock⟩ := wakes
  rw [putAt, Nat.max_eq_right low]
  refine clocked.put place clocked.keeps (by simp [Task.wake?]) clock (fun _ _ => rfl)
    fun _ _ paces => ?_
  rw [pausing] at paces
  rw [← List.append_nil (Exchange.callsOf _ _)]
  refine paces.sees rfl [.paused milliseconds false] ?_ ?_ fun moment time => ⟨time, rfl⟩
  · simp [Trail.Tells, Sight.told?]
  · exact fun _ _ ends => ⟨_, _, rfl, ends⟩

end

theorem Clocked.move (paced : peer.Paced cost Keeps)
    (clocked : Clocked cost Keeps programs batch) (calm : batch.surroundings.requested = false)
    {place : Fin batch.tasks.length} (moved : batch.move peer place = some next)
    (time : ∀ wake ∈ (batch.tasks.get place).wake?,
      wake.1 ≤ batch.surroundings.now ∨ batch.Idle ∧ batch.Asleep wake.1) :
    Clocked cost Keeps programs next := by
  have wakes {ticket wake : Nat} (sleeps : (batch.tasks.get place).wake? = some (wake, ticket)) :
      batch.Wakes wake := by
    have low : batch.surroundings.now ≤ wake :=
      clocked.asleep _ (List.get_mem batch.tasks place) _ sleeps
    exact ⟨low, (time _ sleeps).imp_left fun high => Nat.le_antisymm high low⟩
  unfold Batch.move at moved
  split at moved
  next program unstarted =>
    obtain rfl := Option.some.inj moved
    exact clocked.begin unstarted
  next ticket wake query rest waiting =>
    obtain rfl := Option.some.inj moved
    exact clocked.wake (wakes (by rw [waiting]; rfl)) waiting batch.ticket
  next ticket wake milliseconds rest pausing =>
    rw [if_neg (by simp [calm])] at moved
    obtain rfl := Option.some.inj moved
    exact clocked.resume (wakes (by rw [pausing]; rfl)) pausing batch.ticket
  next ticket query rest due =>
    obtain rfl := Option.some.inj moved
    exact clocked.answer paced due
  next ticket program ready =>
    obtain rfl := Option.some.inj moved
    exact clocked.advance paced calm ready
  next => cases moved

theorem Clocked.happen (clocked : Clocked cost Keeps programs batch) (idle : batch.Idle)
    (moment : Moment) (later : List Moment) (asleep : batch.Asleep moment.time) :
    Clocked cost Keeps programs (batch.happen moment later) := by
  have slept : batch.Asleep (max batch.surroundings.now moment.time) := by
    intro task member wake sleeps
    exact Nat.max_le.mpr ⟨clocked.asleep task member wake sleeps, asleep task member wake sleeps⟩
  have passed (place : Nat) (program : Program I α) (task : Task I α)
      (known : programs[place]? = some program) (here : batch.tasks[place]? = some task) :
      task.Paces cost program (max batch.surroundings.now moment.time)
        (Exchange.callsOf place batch.surroundings.exchanges) :=
    (clocked.paces place program task known here).pass (idle task (List.mem_of_getElem? here))
  refine ⟨clocked.keeps, slept.happen moment later, fun place program task known here => ?_⟩
  rw [Batch.happen, List.getElem?_mapIdx, Option.map_eq_some_iff] at here
  obtain ⟨old, found, rfl⟩ := here
  have onward := passed place program old known found
  obtain kept | anew := batch.requeue_cases moment place old
  · rw [kept]
    exact onward
  · rw [anew]
    exact onward.queueAnew batch.ticket _

theorem Clocked.step (paced : peer.Paced cost Keeps)
    (clocked : Clocked cost Keeps programs batch) (stepped : batch.step peer = some next)
    (calm : batch.surroundings.requested = false) : Clocked cost Keeps programs next := by
  obtain ⟨place, moved, time⟩ | ⟨idle, moment, later, rfl, asleep⟩ := step_clock stepped calm
  · exact clocked.move paced calm moved time
  · exact clocked.happen idle moment later asleep

theorem Clocked.run (paced : peer.Paced cost Keeps)
    (clocked : Clocked cost Keeps programs batch)
    (calm : (batch.run peer).surroundings.requested = false) :
    Clocked cost Keeps programs (batch.run peer) := by
  fun_induction Batch.run batch peer with
  | case1 batch stuck => exact clocked
  | case2 batch next stepped ih =>
      refine ih (clocked.step paced stepped ?_) calm
      refine Bool.eq_false_iff.mpr fun raised => ?_
      have still := (reaches_run next peer).leads.signal (step_requested stepped raised)
      rw [calm] at still
      cases still

theorem clocked_start (limit : Nat) (keeps : Keeps surroundings.state)
    (fresh : surroundings.exchanges = []) :
    Clocked cost Keeps programs (Batch.start surroundings limit programs) := by
  refine ⟨keeps, fun task member wake sleeps => ?_, fun place program task known here => ?_⟩
  · obtain ⟨program, -, rfl⟩ := List.mem_map.mp member
    cases sleeps
  · have started : task = .unstarted program := by
      simpa [Batch.start, known, eq_comm] using here
    rw [started]
    exact .unstarted (by simp [Batch.start, fresh, Exchange.callsOf])

/-- As long as shutdown is not requested, each program of a batch is through at some time with a
trail of its own, and has got its answers at the times of this trail. -/
theorem run_timed (paced : peer.Paced cost Keeps) {limit : Nat} (room : 0 < limit)
    (keeps : Keeps surroundings.state) (fresh : surroundings.exchanges = [])
    (calm : ((Batch.start surroundings limit programs).run peer).surroundings.requested = false)
    {place : Nat} {program : Program I α} (known : programs[place]? = some program) :
    let ended := (Batch.start surroundings limit programs).run peer
    ∃ result start trail, ended.results[place]? = some result ∧ program.Yields trail result ∧
      trail.Tells false ∧
      Exchange.callsOf place ended.surroundings.exchanges = trail.calls cost start := by
  intro ended
  have clocked : Clocked cost Keeps programs ended :=
    (clocked_start limit keeps fresh).run paced calm
  have length : ended.tasks.length = programs.length := by
    have same : ended.rests.length = (Batch.start surroundings limit programs).rests.length :=
      (reaches_run _ peer).record.1
    rw [rests, List.length_map] at same
    rw [same, Batch.start, rests, List.length_map, List.length_map]
  have low : place < ended.tasks.length := length ▸ (List.getElem?_eq_some_iff.mp known).1
  have here := List.getElem?_eq_getElem low
  have finished : ended.tasks[place].result?.isSome :=
    all_ended_run peer room _ (List.getElem_mem low)
  cases task : ended.tasks[place] with
  | unstarted | ready | waiting | due | pausing =>
      rw [task] at finished
      cases finished
  | ended result =>
      rw [task] at here
      have left : ended.rests[place]? = some (.done result) := by simp [rests, here, Task.rest]
      rw [rests_run peer room, List.getElem?_map, Option.map_eq_some_iff] at left
      obtain ⟨own, found, same⟩ := left
      cases same
      cases clocked.paces place program _ known here with
      | started made told takes timely =>
          have taken := takes [] result ⟨rfl, rfl⟩
          rw [List.append_nil] at taken
          exact ⟨result, _, _, found, taken, told, made⟩

end Batch

end Tenancy
