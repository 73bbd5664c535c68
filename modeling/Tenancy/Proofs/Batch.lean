import Tenancy.Batch
import Tenancy.Proofs.Record

/-!
What programs do that run side by side: each of them takes a trail of its own, whatever the others
do meanwhile, and a batch with room for one program ends only when all programs have ended.
-/

namespace Tenancy.Batch

variable {I : Interface} {σ α : Type} {batch next : Batch I σ α} {peer : Peer I σ}

/-- A step as the programs see it: none of them goes on, or one goes on unasked, or one has its
query answered. -/
inductive Advances (peer : Peer I σ) (batch next : Batch I σ α) : Prop
  | rests (same : next.rests = batch.rests)
      (state : next.surroundings.state = batch.surroundings.state)
      (exchanges : next.surroundings.exchanges = batch.surroundings.exchanges)
  | sees {place : Nat} {program rest : Program I α} {seen : Trail I}
      (found : batch.rests[place]? = some program) (set : next.rests = batch.rests.set place rest)
      (silent : seen.answers = []) (told : seen.Tells batch.surroundings.requested)
      (leaves : program.Leaves seen rest)
      (state : next.surroundings.state = batch.surroundings.state)
      (exchanges : next.surroundings.exchanges = batch.surroundings.exchanges)
  | asks {place : Nat} {query : I.Query} {rest : I.Answer query → Program I α}
      (found : batch.rests[place]? = some (.ask query rest))
      (set : next.rests =
        batch.rests.set place (rest (peer.respond query batch.surroundings.state).1))
      (answered : next.surroundings = (batch.surroundings.exchange peer place query).2)

theorem rests_put (place : Fin batch.tasks.length) (task : Task I α)
    (surroundings : Surroundings I σ) :
    (batch.put place task surroundings).rests = batch.rests.set place task.rest := by
  simp only [rests, put, List.map_set]

theorem getElem?_rests (place : Fin batch.tasks.length) :
    batch.rests[place.val]? = some (batch.tasks.get place).rest := by
  simp [rests]

theorem put_advances (place : Fin batch.tasks.length) {task : Task I α}
    {surroundings : Surroundings I σ} (same : task.rest = (batch.tasks.get place).rest)
    (state : surroundings.state = batch.surroundings.state)
    (exchanges : surroundings.exchanges = batch.surroundings.exchanges) :
    Advances peer batch (batch.put place task surroundings) := by
  refine .rests ?_ state exchanges
  obtain ⟨low, known⟩ := List.getElem?_eq_some_iff.mp (getElem?_rests place)
  rw [rests_put, same, ← known]
  exact List.set_getElem_self low

theorem put_sees (place : Fin batch.tasks.length) (seen : Trail I) {program : Program I α}
    {task : Task I α} {surroundings : Surroundings I σ}
    (found : (batch.tasks.get place).rest = program) (silent : seen.answers = [])
    (told : seen.Tells batch.surroundings.requested)
    (leaves : program.Leaves seen task.rest)
    (state : surroundings.state = batch.surroundings.state)
    (exchanges : surroundings.exchanges = batch.surroundings.exchanges) :
    Advances peer batch (batch.put place task surroundings) :=
  .sees (by rw [getElem?_rests, found]) (rests_put place task surroundings) silent told leaves state
    exchanges

theorem advance_advances {place : Fin batch.tasks.length} {ticket : Nat} {program : Program I α}
    (task : batch.tasks.get place = .ready ticket program) :
    Advances peer batch (batch.advance peer place ticket program) := by
  have rest : (batch.tasks.get place).rest = program := by rw [task]; rfl
  cases program with
  | done result => exact put_advances place rest.symm rfl rfl
  | write event next =>
      exact put_sees place [] rest rfl (by simp [Trail.Tells]) (.write event (.all next)) rfl rfl
  | look next =>
      exact put_sees place [.looked _] rest rfl (by simp [Trail.Tells, Sight.told?])
        (.look (.all _)) rfl rfl
  | ask query next =>
      simp only [advance]
      split
      · exact put_advances place rest.symm rfl rfl
      · exact put_advances place rest.symm rfl rfl
  | pause milliseconds next =>
      have paused (requested : Bool) (told : requested = batch.surroundings.requested) :
          Advances peer batch
            (batch.put place (.ready ticket (next requested)) batch.surroundings) :=
        put_sees place [.paused milliseconds requested] rest rfl
          (by simp [Trail.Tells, Sight.told?, told]) (.pause milliseconds (.all _)) rfl rfl
      simp only [advance]
      split
      next raised => exact paused true raised.symm
      next calm =>
        split
        · exact paused false (Bool.eq_false_iff.mpr calm).symm
        · exact put_advances place rest.symm rfl rfl

theorem move_advances {place : Fin batch.tasks.length}
    (moved : batch.move peer place = some next) : Advances peer batch next := by
  unfold move at moved
  split at moved
  next program task =>
    obtain rfl := Option.some.inj moved
    exact put_advances place (by rw [task]; rfl) rfl rfl
  next wake query rest task =>
    obtain rfl := Option.some.inj moved
    exact put_advances place (by rw [task]; rfl) rfl rfl
  next wake milliseconds rest task =>
    have paused (requested : Bool) (told : requested = batch.surroundings.requested)
        (surroundings : Surroundings I σ)
        (state : surroundings.state = batch.surroundings.state)
        (exchanges : surroundings.exchanges = batch.surroundings.exchanges) :
        Advances peer batch
          (batch.put place (.ready batch.ticket (rest requested)) surroundings) := by
      have found : (batch.tasks.get place).rest = .pause milliseconds rest := by rw [task]; rfl
      exact put_sees place [.paused milliseconds requested] found rfl
        (by simp [Trail.Tells, Sight.told?, told]) (.pause milliseconds (.all _)) state exchanges
    split at moved
    next raised =>
      obtain rfl := Option.some.inj moved
      exact paused true raised.symm _ rfl rfl
    next calm =>
      obtain rfl := Option.some.inj moved
      exact paused false (Bool.eq_false_iff.mpr calm).symm _ rfl rfl
  next ticket query rest task =>
    obtain rfl := Option.some.inj moved
    exact .asks (by rw [getElem?_rests, task]; rfl) (rests_put place _ _) rfl
  next ticket program task =>
    obtain rfl := Option.some.inj moved
    exact advance_advances task
  next => cases moved

theorem happen_advances (moment : Moment) (later : List Moment) :
    Advances peer batch (batch.happen moment later) :=
  .rests (rests_happen batch moment later) rfl rfl

theorem step_advances (stepped : batch.step peer = some next) : Advances peer batch next := by
  obtain ⟨place, moved⟩ | ⟨moment, later, -, rfl⟩ := step_cases stepped
  · exact move_advances moved
  · exact happen_advances moment later

/-- What one program sees in a step, and how the record of its replies grows by that. -/
theorem Advances.goes (advances : Advances peer batch next) {place : Nat} {later : Program I α}
    (left : next.rests[place]? = some later) :
    ∃ (program : Program I α) (seen : Trail I), batch.rests[place]? = some program ∧
      Exchange.repliesTo place next.surroundings.exchanges =
        Exchange.repliesTo place batch.surroundings.exchanges ++ seen.answers ∧
      seen.Tells batch.surroundings.requested ∧ program.Leaves seen later := by
  have still (found : batch.rests[place]? = some later)
      (replies : Exchange.repliesTo place next.surroundings.exchanges =
        Exchange.repliesTo place batch.surroundings.exchanges) :
      ∃ (program : Program I α) (seen : Trail I), batch.rests[place]? = some program ∧
        Exchange.repliesTo place next.surroundings.exchanges =
          Exchange.repliesTo place batch.surroundings.exchanges ++ seen.answers ∧
        seen.Tells batch.surroundings.requested ∧ program.Leaves seen later :=
    ⟨later, [], found, by simp [replies, Trail.answers], by simp [Trail.Tells], .all later⟩
  cases advances with
  | rests same state exchanges => exact still (same ▸ left) (by rw [exchanges])
  | @sees moved old gone seen found set silent told leaves state exchanges =>
      rw [set, List.getElem?_set] at left
      split at left
      next same =>
        subst same
        have low := (List.getElem?_eq_some_iff.mp found).1
        obtain rfl : gone = later := by simpa [low] using left
        exact ⟨old, seen, found, by rw [exchanges, silent, List.append_nil], told, leaves⟩
      next => exact still left (by rw [exchanges])
  | @asks moved query ahead found set answered =>
      rw [set, List.getElem?_set] at left
      split at left
      next same =>
        subst same
        let answer := (peer.respond query batch.surroundings.state).1
        have low := (List.getElem?_eq_some_iff.mp found).1
        obtain rfl : ahead answer = later := by simpa [low] using left
        refine ⟨_, [.asked query answer], found, ?_, by simp [Trail.Tells, Sight.told?],
          .ask (.all _)⟩
        simp [answered, Exchange.repliesTo, Trail.answers, Exchange.reply, answer]
      next other =>
        -- The reply is on the record of the one that asked, and on no other's.
        refine still left ?_
        simp [answered, Exchange.repliesTo, other]

structure Tracks (programs : List (Program I α)) (peer : Peer I σ) (origin : σ)
    (batch : Batch I σ α) : Prop where
  since : batch.surroundings.Since peer origin
  length : batch.rests.length = programs.length
  askers : ∀ exchange ∈ batch.surroundings.exchanges, exchange.asker < programs.length
  trails : ∀ place program rest, programs[place]? = some program →
    batch.rests[place]? = some rest → ∃ trail : Trail I,
      trail.answers = Exchange.repliesTo place batch.surroundings.exchanges ∧
        program.Leaves trail rest

variable {programs : List (Program I α)} {origin : σ}

theorem Tracks.after (tracks : Tracks programs peer origin batch)
    (advances : Advances peer batch next) : Tracks programs peer origin next := by
  have trails : ∀ place program rest, programs[place]? = some program →
      next.rests[place]? = some rest → ∃ trail : Trail I,
        trail.answers = Exchange.repliesTo place next.surroundings.exchanges ∧
          program.Leaves trail rest := by
    intro place program rest known left
    obtain ⟨old, seen, found, replies, -, onward⟩ := advances.goes left
    obtain ⟨trail, answers, leaves⟩ := tracks.trails place program old known found
    refine ⟨trail ++ seen, ?_, leaves.append onward⟩
    rw [Trail.answers_append, answers, replies]
  cases advances with
  | rests same state exchanges =>
      exact ⟨tracks.since.of_same state exchanges, same ▸ tracks.length,
        exchanges ▸ tracks.askers, trails⟩
  | sees found set silent told leaves state exchanges =>
      refine ⟨tracks.since.of_same state exchanges, ?_, exchanges ▸ tracks.askers, trails⟩
      rw [set, List.length_set]
      exact tracks.length
  | @asks moved query ahead found set answered =>
      have low := (List.getElem?_eq_some_iff.mp found).1
      refine ⟨?_, ?_, ?_, trails⟩
      · rw [answered]
        exact tracks.since.exchange moved query
      · rw [set, List.length_set]
        exact tracks.length
      · rw [answered, Surroundings.exchange_exchanges, List.forall_mem_cons]
        exact ⟨tracks.length ▸ low, tracks.askers⟩

theorem firstPlace?_eq_none_iff {τ κ : Type} {before : κ → κ → Bool} {key : τ → Option κ}
    {entries : List τ} :
    firstPlace? before key entries = none ↔ ∀ entry ∈ entries, key entry = none := by
  induction entries with
  | nil => simp [firstPlace?]
  | cons entry entries ih =>
      rw [firstPlace?, List.forall_mem_cons, ← ih]
      cases key entry <;> cases firstPlace? before key entries <;> simp
      split <;> simp

theorem firstPlace?_key {τ κ : Type} {before : κ → κ → Bool} {key : τ → Option κ}
    {entries : List τ} {place : Fin entries.length}
    (found : firstPlace? before key entries = some place) : key (entries.get place) ≠ none := by
  induction entries with
  | nil => cases found
  | cons entry entries ih =>
      rw [firstPlace?] at found
      split at found
      next none =>
        obtain ⟨later, known, rfl⟩ := Option.map_eq_some_iff.mp found
        exact ih known
      next own _ =>
        obtain rfl := Option.some.inj found
        simp [*]
      next own later ownKey known =>
        split at found
        · obtain rfl := Option.some.inj found
          exact ih known
        · obtain rfl := Option.some.inj found
          simp [*]

theorem current?_eq_none_iff :
    batch.current? = none ↔
      batch.startPlace? = none ∧
      firstPlace? earlier
        (Task.wakesNow? batch.surroundings.now batch.surroundings.requested) batch.tasks = none ∧
      firstPlace? (fun left right => left < right) Task.readyTicket? batch.tasks = none := by
  simp only [current?, Option.orElse_eq_orElse, Option.orElse_eq_or, Option.or_eq_none_iff]

theorem current?_eq_some_iff {place : Fin batch.tasks.length} :
    batch.current? = some place ↔
      batch.startPlace? = some place ∨
      batch.startPlace? = none ∧
        (firstPlace? earlier (Task.wakesNow? batch.surroundings.now batch.surroundings.requested)
            batch.tasks = some place ∨
          firstPlace? earlier (Task.wakesNow? batch.surroundings.now batch.surroundings.requested)
              batch.tasks = none ∧
            firstPlace? (fun left right => left < right) Task.readyTicket? batch.tasks =
              some place) := by
  simp only [current?, Option.orElse_eq_orElse, Option.orElse_eq_or, Option.or_eq_some_iff]

inductive Picks (peer : Peer I σ) (batch : Batch I σ α) : Batch I σ α → Prop
  | starts {place next} (found : batch.startPlace? = some place)
      (moved : batch.move peer place = some next) : Picks peer batch next
  | wakes {place next} (full : batch.startPlace? = none)
      (found : firstPlace? earlier
        (Task.wakesNow? batch.surroundings.now batch.surroundings.requested) batch.tasks =
          some place)
      (moved : batch.move peer place = some next) : Picks peer batch next
  | goes {place next} (full : batch.startPlace? = none)
      (asleep : firstPlace? earlier
        (Task.wakesNow? batch.surroundings.now batch.surroundings.requested) batch.tasks = none)
      (found : firstPlace? (fun left right => left < right) Task.readyTicket? batch.tasks =
        some place)
      (moved : batch.move peer place = some next) : Picks peer batch next
  | sleeps {place next} (idle : batch.current? = none)
      (found : firstPlace? earlier Task.wake? batch.tasks = some place)
      (first : ∀ moment ∈ batch.surroundings.moments.head?,
        ¬ (batch.tasks.get place).wake?.any (moment.time < ·.1))
      (moved : batch.move peer place = some next) : Picks peer batch next
  | happens {place moment later} (idle : batch.current? = none)
      (found : firstPlace? earlier Task.wake? batch.tasks = some place)
      (some : batch.surroundings.moments = moment :: later)
      (early : (batch.tasks.get place).wake?.any (moment.time < ·.1)) :
      Picks peer batch (batch.happen moment later)

theorem step_picks (stepped : batch.step peer = some next) : Picks peer batch next := by
  unfold step at stepped
  split at stepped
  next place current =>
    obtain start | ⟨full, wakes | ⟨asleep, goes⟩⟩ := current?_eq_some_iff.mp current
    · exact .starts start stepped
    · exact .wakes full wakes stepped
    · exact .goes full asleep goes stepped
  next idle =>
    split at stepped
    next => cases stepped
    next place found =>
      split at stepped
      next none => exact .sleeps idle found (by simp [none]) stepped
      next moment later some =>
        split at stepped
        next early =>
          obtain rfl := Option.some.inj stepped
          exact .happens idle found some early
        next late => exact .sleeps idle found (by simpa [some] using late) stepped

theorem unready_of_idle (idle : batch.current? = none) :
    ∀ task ∈ batch.tasks, task.readyTicket? = none :=
  firstPlace?_eq_none_iff.mp (current?_eq_none_iff.mp idle).2.2

theorem ended_of_move_eq_none {place : Fin batch.tasks.length}
    (stuck : batch.move peer place = none) : ∃ result, batch.tasks.get place = .ended result := by
  unfold move at stuck
  split at stuck
  case h_3 => split at stuck <;> cases stuck
  case h_6 result task => exact ⟨result, task⟩
  all_goals cases stuck

theorem current?_moves {place : Fin batch.tasks.length} (current : batch.current? = some place) :
    batch.move peer place ≠ none := by
  intro stuck
  obtain ⟨result, ended⟩ := ended_of_move_eq_none stuck
  obtain start | ⟨-, wakes | ⟨-, goes⟩⟩ := current?_eq_some_iff.mp current
  · obtain ⟨found, -⟩ := Option.filter_eq_some_iff.mp start
    have unstarted := (List.findFinIdx?_eq_some_iff.mp found).1
    rw [List.get_eq_getElem] at ended
    simp [ended, Task.isUnstarted] at unstarted
  · exact firstPlace?_key wakes (by rw [ended]; rfl)
  · exact firstPlace?_key goes (by rw [ended]; rfl)

theorem idle_of_step_eq_none (stuck : batch.step peer = none) :
    batch.startPlace? = none ∧
      ∀ task ∈ batch.tasks, task.isUnstarted ∨ task.result?.isSome := by
  unfold step at stuck
  split at stuck
  next place current => exact absurd stuck (current?_moves current)
  next current =>
    split at stuck
    next asleep =>
      obtain ⟨unstarted, -, unready⟩ := current?_eq_none_iff.mp current
      refine ⟨unstarted, fun task member => ?_⟩
      have wake := firstPlace?_eq_none_iff.mp asleep task member
      have ready := firstPlace?_eq_none_iff.mp unready task member
      cases task with
      | unstarted => exact .inl rfl
      | ended => exact .inr rfl
      | ready | due => cases ready
      | waiting | pausing => cases wake
    next place found =>
      have moves : batch.move peer place ≠ none := by
        intro none
        obtain ⟨result, ended⟩ := ended_of_move_eq_none none
        exact firstPlace?_key found (by rw [ended]; rfl)
      split at stuck
      · exact absurd stuck moves
      · split at stuck
        · cases stuck
        · exact absurd stuck moves

theorem all_ended_of_step_eq_none (room : 0 < batch.limit) (stuck : batch.step peer = none) :
    ∀ task ∈ batch.tasks, task.result?.isSome := by
  obtain ⟨full, idle⟩ := idle_of_step_eq_none stuck
  intro task member
  cases first : batch.tasks.findFinIdx? (·.isUnstarted) with
  | none =>
      have started := List.findFinIdx?_eq_none_iff.mp first task member
      exact (idle task member).resolve_left started
  | some place =>
      obtain ⟨-, before⟩ := List.findFinIdx?_eq_some_iff.mp first
      have reached : place.val ≤ batch.handedOver := by
        have ended : ∀ earlier ∈ batch.tasks.take place, earlier.result?.isSome := by
          intro earlier found
          obtain ⟨position, low, rfl⟩ := List.mem_take_iff_getElem.mp found
          have bound : position < batch.tasks.length := by omega
          have started := before ⟨position, bound⟩ (show position < place.val by omega)
          exact (idle _ (List.getElem_mem bound)).resolve_left started
        have cut : (batch.tasks.take place ++ batch.tasks.drop place).takeWhile _ = _ :=
          List.takeWhile_append_of_pos ended
        rw [List.take_append_drop] at cut
        rw [handedOver, cut, List.length_append, List.length_take]
        omega
      simp only [startPlace?, first, Option.filter_some] at full
      have low : place.val < batch.handedOver + batch.limit := by omega
      simp [low] at full

theorem results_of_all_ended (ended : ∀ task ∈ batch.tasks, task.result?.isSome) :
    batch.rests = batch.results.map .done := by
  have shape (tasks : List (Task I α)) (ended : ∀ task ∈ tasks, task.result?.isSome) :
      tasks.map Task.rest = (tasks.filterMap Task.result?).map .done := by
    induction tasks with
    | nil => rfl
    | cons task tasks ih =>
        rw [List.forall_mem_cons] at ended
        cases task with
        | ended result => simpa [Task.rest, Task.result?] using ih ended.2
        | unstarted | ready | waiting | due | pausing => cases ended.1
  exact shape batch.tasks ended

theorem advance_puts (place : Fin batch.tasks.length) (ticket : Nat) (program : Program I α) :
    ∃ task surroundings, batch.advance peer place ticket program =
        batch.put place task surroundings ∧
      task.isUnstarted = false ∧
      (batch.surroundings.requested → surroundings.requested) ∧
      (batch.surroundings.signal = none → surroundings.signal = none) := by
  cases program with
  | done | write | look => exact ⟨_, _, rfl, rfl, id, id⟩
  | ask query next =>
      simp only [advance]
      split <;> exact ⟨_, _, rfl, rfl, id, id⟩
  | pause milliseconds next =>
      simp only [advance]
      split
      · exact ⟨_, _, rfl, rfl, id, id⟩
      · split <;> exact ⟨_, _, rfl, rfl, id, id⟩

theorem move_puts {place : Fin batch.tasks.length} (moved : batch.move peer place = some next) :
    ∃ task surroundings, next = batch.put place task surroundings ∧
      task.isUnstarted = false ∧
      (batch.surroundings.requested → surroundings.requested) ∧
      (batch.surroundings.signal = none → surroundings.signal = none) := by
  unfold move at moved
  split at moved
  case h_1 | h_2 => exact ⟨_, _, (Option.some.inj moved).symm, rfl, id, id⟩
  case h_3 => split at moved <;> exact ⟨_, _, (Option.some.inj moved).symm, rfl, id, id⟩
  case h_4 =>
    exact ⟨_, _, (Option.some.inj moved).symm, rfl, Surroundings.requested_exchange,
      Surroundings.signal_exchange_of_none⟩
  case h_5 ticket program _ =>
    obtain rfl := Option.some.inj moved
    exact advance_puts place ticket program
  case h_6 => cases moved

theorem step_limit (stepped : batch.step peer = some next) : next.limit = batch.limit := by
  obtain ⟨place, moved⟩ | ⟨moment, later, -, rfl⟩ := step_cases stepped
  · obtain ⟨task, surroundings, rfl, -⟩ := move_puts moved
    rfl
  · rfl

theorem step_requested (stepped : batch.step peer = some next)
    (raised : batch.surroundings.requested) : next.surroundings.requested := by
  obtain ⟨place, moved⟩ | ⟨moment, later, -, rfl⟩ := step_cases stepped
  · obtain ⟨task, surroundings, rfl, -, kept, -⟩ := move_puts moved
    exact kept raised
  · exact Surroundings.requested_take raised

theorem signal_run_of_none (absent : batch.surroundings.signal = none) :
    (batch.run peer).surroundings.signal = none := by
  fun_induction Batch.run batch peer with
  | case1 batch stuck => exact absent
  | case2 batch next stepped ih =>
      obtain ⟨place, moved⟩ | ⟨moment, later, -, rfl⟩ := step_cases stepped
      · obtain ⟨task, surroundings, rfl, -, -, kept⟩ := move_puts moved
        exact ih (kept absent)
      · exact ih (Option.map_eq_none_iff.mpr absent)

theorem all_ended_run (peer : Peer I σ) (room : 0 < batch.limit) :
    ∀ task ∈ (batch.run peer).tasks, task.result?.isSome := by
  fun_induction Batch.run batch peer with
  | case1 batch stuck => exact all_ended_of_step_eq_none room stuck
  | case2 batch next stepped ih => exact ih (step_limit stepped ▸ room)

theorem rests_run (peer : Peer I σ) (room : 0 < batch.limit) :
    (batch.run peer).rests = (batch.run peer).results.map .done :=
  results_of_all_ended (all_ended_run peer room)

theorem Tracks.run (tracks : Tracks programs peer origin batch) :
    Tracks programs peer origin (batch.run peer) := by
  fun_induction Batch.run batch peer with
  | case1 batch stuck => exact tracks
  | case2 batch next stepped ih => exact ih (tracks.after (step_advances stepped))

theorem Tracks.length_results (tracks : Tracks programs peer origin batch)
    (ended : batch.rests = batch.results.map .done) : batch.results.length = programs.length := by
  rw [← tracks.length, ended, List.length_map]

theorem Tracks.yields (tracks : Tracks programs peer origin batch)
    (ended : batch.rests = batch.results.map .done) {place : Nat} {program : Program I α}
    {result : α} (known : programs[place]? = some program)
    (found : batch.results[place]? = some result) :
    ∃ trail : Trail I, program.Yields trail result ∧
      trail.answers = Exchange.repliesTo place batch.surroundings.exchanges := by
  have left : batch.rests[place]? = some (.done result) := by simp [ended, found]
  obtain ⟨trail, answers, leaves⟩ := tracks.trails place program _ known left
  have whole : program.Yields (trail ++ []) result := leaves.takes ⟨rfl, rfl⟩
  rw [List.append_nil] at whole
  exact ⟨trail, whole, answers⟩

theorem Tracks.makes (tracks : Tracks programs peer origin batch)
    (ended : batch.rests = batch.results.map .done) {later earlier : List (Exchange I)}
    {exchange : Exchange I}
    (cut : batch.surroundings.exchanges = later ++ exchange :: earlier) :
    ∃ (place : Nat) (program : Program I α) (result : α), programs[place]? = some program ∧
      batch.results[place]? = some result ∧ program.Makes result later exchange earlier := by
  have low := tracks.askers exchange (by simp [cut])
  have inside : exchange.asker < batch.results.length := by
    rw [tracks.length_results ended]
    exact low
  have known := List.getElem?_eq_getElem low
  have found := List.getElem?_eq_getElem inside
  obtain ⟨trail, taken, answers⟩ := tracks.yields ended known found
  rw [cut] at answers
  exact ⟨exchange.asker, _, _, known, found, taken.makes _ answers (by simp)⟩

theorem tracks_start (surroundings : Surroundings I σ) (limit : Nat)
    (fresh : surroundings.exchanges = []) :
    Tracks programs peer surroundings.state (Batch.start surroundings limit programs) := by
  refine ⟨⟨?_, ?_⟩, ?_, ?_, ?_⟩
  · simp [Batch.start, fresh, Peer.replay]
  · simp [Batch.start, fresh, Peer.Answered]
  · simp [Batch.start, rests]
  · simp [Batch.start, fresh]
  · intro place program rest known left
    obtain rfl : program = rest := by simpa [Batch.start, rests, Task.rest, known] using left
    refine ⟨[], ?_, .all program⟩
    simp [Trail.answers, Exchange.repliesTo, Batch.start, fresh]

end Tenancy.Batch
