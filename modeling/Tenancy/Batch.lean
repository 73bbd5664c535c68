import Tenancy.Surroundings

/-!
Programs that run side by side. They are started in order; at most `limit` of them are started and
not yet handed over, and results are handed over in order, so a program that ended behind a slower
earlier one still takes a place. Everything that can go on does so, in the order in which it became
able to, before the clock moves; the clock then jumps to the next wake-up.

A batch is run by small steps. Each step takes one program further or leaves all programs as they
are and brings one of them closer to its next step, which is why a batch always ends.
-/

namespace Tenancy

/-- Where one program of a batch stands. Tickets are drawn from one counter: of the programs that
can go on, and of those that wake at one time, the one with the lowest ticket comes first. -/
inductive Task (I : Interface) (α : Type)
  | unstarted (program : Program I α)
  | ready (ticket : Nat) (program : Program I α)
  /-- Waits to have its query taken in. -/
  | waiting (ticket wake : Nat) (query : I.Query) (next : I.Answer query → Program I α)
  /-- Can have its query answered. -/
  | due (ticket : Nat) (query : I.Query) (next : I.Answer query → Program I α)
  | pausing (ticket wake milliseconds : Nat) (next : Bool → Program I α)
  | ended (result : α)

namespace Task

variable {I : Interface} {α : Type}

def rest : Task I α → Program I α
  | unstarted program => program
  | ready _ program => program
  | waiting _ _ query next => .ask query next
  | due _ query next => .ask query next
  | pausing _ _ milliseconds next => .pause milliseconds next
  | ended result => .done result

/-- More than the number of steps that the task can take while its program stays as it is. -/
def weight : Task I α → Nat
  | unstarted _ => 4
  | ready .. => 3
  | waiting .. => 2
  | due .. => 1
  | pausing .. => 1
  | ended _ => 0

def isUnstarted : Task I α → Bool
  | unstarted _ => true
  | _ => false

def result? : Task I α → Option α
  | ended result => some result
  | _ => none

def readyTicket? : Task I α → Option Nat
  | ready ticket _ => some ticket
  | due ticket .. => some ticket
  | _ => none

/-- When a task wakes by itself, and its ticket. -/
def wake? : Task I α → Option (Nat × Nat)
  | waiting ticket wake .. => some (wake, ticket)
  | pausing ticket wake .. => some (wake, ticket)
  | _ => none

/-- The same for a task that wakes now: its time has come, or shutdown ends its pause. -/
def wakesNow? (now : Nat) (requested : Bool) : Task I α → Option (Nat × Nat)
  | waiting ticket wake .. => if wake ≤ now then some (wake, ticket) else none
  | pausing ticket wake .. => if wake ≤ now || requested then some (wake, ticket) else none
  | _ => none

/-- A pause draws a later ticket. Those of one round stay in their order. -/
def queueAnew (ticket round : Nat) : Task I α → Task I α
  | pausing own wake milliseconds next =>
      pausing ((round + 1) * ticket + own) wake milliseconds next
  | other => other

end Task

/-- The place of the entry whose key comes before all others, the first of several. -/
def firstPlace? {τ κ : Type} (before : κ → κ → Bool) (key : τ → Option κ) :
    (entries : List τ) → Option (Fin entries.length)
  | [] => none
  | entry :: rest =>
      match key entry, firstPlace? before key rest with
      | none, later => later.map Fin.succ
      | some _, none => some ⟨0, Nat.zero_lt_succ _⟩
      | some own, some later =>
          if (key (rest.get later)).any (before · own) then some later.succ
          else some ⟨0, Nat.zero_lt_succ _⟩

def earlier (left right : Nat × Nat) : Bool :=
  left.1 < right.1 || left.1 == right.1 && left.2 < right.2

structure Batch (I : Interface) (σ α : Type) where
  surroundings : Surroundings I σ
  limit : Nat
  ticket : Nat
  tasks : List (Task I α)

namespace Batch

variable {I : Interface} {σ α : Type}

def start (surroundings : Surroundings I σ) (limit : Nat) (programs : List (Program I α)) :
    Batch I σ α :=
  ⟨surroundings, limit, 0, programs.map .unstarted⟩

def handedOver (batch : Batch I σ α) : Nat :=
  (batch.tasks.takeWhile (·.result?.isSome)).length

/-- The place of the next program to start, if there is room for it. -/
def startPlace? (batch : Batch I σ α) : Option (Fin batch.tasks.length) :=
  (batch.tasks.findFinIdx? (·.isUnstarted)).filter fun place =>
    place.val < batch.handedOver + batch.limit

def put (batch : Batch I σ α) (place : Fin batch.tasks.length) (task : Task I α)
    (surroundings : Surroundings I σ) : Batch I σ α :=
  { batch with
    surroundings := surroundings
    ticket := batch.ticket + 1
    tasks := batch.tasks.set place task }

def putAt (batch : Batch I σ α) (place : Fin batch.tasks.length) (task : Task I α)
    (time : Nat) : Batch I σ α :=
  batch.put place task { batch.surroundings with now := max batch.surroundings.now time }

def advance (batch : Batch I σ α) (peer : Peer I σ) (place : Fin batch.tasks.length)
    (ticket : Nat) : Program I α → Batch I σ α
  | .done result => batch.put place (.ended result) batch.surroundings
  | .write event next => batch.put place (.ready ticket next) (batch.surroundings.write event)
  | .ask query next =>
      if peer.latency batch.surroundings.state query = 0 then
        batch.put place (.due ticket query next) batch.surroundings
      else
        batch.put place
          (.waiting batch.ticket
            (batch.surroundings.now + peer.latency batch.surroundings.state query) query next)
          batch.surroundings
  | .pause milliseconds next =>
      if batch.surroundings.requested then
        batch.put place (.ready ticket (next true)) batch.surroundings
      else if milliseconds = 0 then
        batch.put place (.ready ticket (next false)) batch.surroundings
      else
        batch.put place
          (.pausing batch.ticket (batch.surroundings.now + milliseconds) milliseconds next)
          batch.surroundings
  | .look next =>
      batch.put place (.ready ticket (next batch.surroundings.requested)) batch.surroundings

/-- Starts an unstarted task, wakes a sleeping one, or takes a ready one a step further. -/
def move (batch : Batch I σ α) (peer : Peer I σ) (place : Fin batch.tasks.length) :
    Option (Batch I σ α) :=
  match batch.tasks.get place with
  | .unstarted program =>
      some (batch.put place (.ready batch.ticket program) batch.surroundings)
  | .waiting _ wake query next => some (batch.putAt place (.due batch.ticket query next) wake)
  | .pausing _ wake _ next =>
      if batch.surroundings.requested then
        some (batch.put place (.ready batch.ticket (next true)) batch.surroundings)
      else
        some (batch.putAt place (.ready batch.ticket (next false)) wake)
  | .due ticket query next =>
      some (batch.put place
        (.ready ticket (next (batch.surroundings.exchange peer place query).1))
        (batch.surroundings.exchange peer place query).2)
  | .ready ticket program => some (batch.advance peer place ticket program)
  | .ended _ => none

/-- What something that happens to the signal makes of a task. When the last one who could request
shutdown goes, every pause is queued anew, round by round. -/
def requeue (batch : Batch I σ α) (moment : Moment) (place : Nat) (task : Task I α) : Task I α :=
  if batch.surroundings.signal.any (·.live) && moment.change.isDrop then
    task.queueAnew batch.ticket (moment.change.round place)
  else task

def happen (batch : Batch I σ α) (moment : Moment) (later : List Moment) : Batch I σ α :=
  { batch with
    surroundings := batch.surroundings.take moment later
    ticket := (moment.change.lastRound + 2) * batch.ticket
    tasks := batch.tasks.mapIdx (batch.requeue moment) }

/-- The task that is to move without time passing: one to start, if there is room for it; else
one that wakes now; else one that can go on. -/
def current? (batch : Batch I σ α) : Option (Fin batch.tasks.length) :=
  batch.startPlace?
    <|> firstPlace? earlier
      (Task.wakesNow? batch.surroundings.now batch.surroundings.requested) batch.tasks
    <|> firstPlace? (fun left right => left < right) Task.readyTicket? batch.tasks

/-- The next step: what can happen now; else the next moment or the next wake-up, whichever is
earlier, the wake-up if they are at one time. -/
def step (batch : Batch I σ α) (peer : Peer I σ) : Option (Batch I σ α) :=
  match batch.current? with
  | some place => batch.move peer place
  | none =>
  match firstPlace? earlier Task.wake? batch.tasks with
  | none => none
  | some place =>
  match batch.surroundings.moments with
  | [] => batch.move peer place
  | moment :: later =>
      if (batch.tasks.get place).wake?.any (moment.time < ·.1) then
        some (batch.happen moment later)
      else batch.move peer place

/-- One of several programs has taken a step, the others none. -/
inductive OneFollows : List (Program I α) → List (Program I α) → Prop
  | head {next program} (rest) (step : Program.Follows next program) :
      OneFollows (next :: rest) (program :: rest)
  | tail {later programs} (program) (step : OneFollows later programs) :
      OneFollows (program :: later) (program :: programs)

theorem oneFollows_wellFounded : WellFounded (@OneFollows I α) := by
  refine ⟨fun programs => ?_⟩
  induction programs with
  | nil => exact ⟨_, fun _ step => nomatch step⟩
  | cons program programs ih =>
      induction Program.follows_wellFounded.apply program generalizing programs with
      | intro program _ ihProgram =>
      induction ih with
      | intro programs accessible ihPrograms =>
          refine ⟨_, fun _ step => ?_⟩
          cases step with
          | head _ step => exact ihProgram _ step _ ⟨_, accessible⟩
          | tail _ step => exact ihPrograms _ step

theorem OneFollows.set {programs : List (Program I α)} {place : Nat}
    (bound : place < programs.length) {next : Program I α}
    (step : Program.Follows next programs[place]) :
    OneFollows (programs.set place next) programs := by
  induction programs generalizing place with
  | nil => simp at bound
  | cons program rest ih =>
      cases place with
      | zero => exact .head rest step
      | succ place => exact .tail program (ih (by simpa using bound) step)

instance : WellFoundedRelation (List (Program I α)) := ⟨OneFollows, oneFollows_wellFounded⟩

def rests (batch : Batch I σ α) : List (Program I α) :=
  batch.tasks.map Task.rest

def totalWeight : List (Task I α) → Nat
  | [] => 0
  | task :: tasks => task.weight + totalWeight tasks

/-- More than the number of steps that leave all programs as they are. -/
def weight (batch : Batch I σ α) : Nat :=
  totalWeight batch.tasks + batch.surroundings.moments.length

/-- A batch comes after another when one program took a step, or none did and less is left to do
before one does. -/
def Below (next batch : Batch I σ α) : Prop :=
  Prod.Lex OneFollows (· < ·) (next.rests, next.weight) (batch.rests, batch.weight)

theorem totalWeight_set (tasks : List (Task I α)) (place : Nat) (bound : place < tasks.length)
    (task : Task I α) :
    totalWeight (tasks.set place task) + tasks[place].weight = totalWeight tasks + task.weight := by
  induction tasks generalizing place with
  | nil => simp at bound
  | cons first rest ih =>
      cases place with
      | zero => simp only [List.set_cons_zero, totalWeight, List.getElem_cons_zero]; omega
      | succ place =>
          have := ih place (by simpa using bound)
          simp only [List.set_cons_succ, totalWeight, List.getElem_cons_succ]
          omega

theorem put_below_of_follows (batch : Batch I σ α) (place : Fin batch.tasks.length)
    (task : Task I α) (surroundings : Surroundings I σ)
    (step : Program.Follows task.rest (batch.tasks.get place).rest) :
    (batch.put place task surroundings).Below batch := by
  refine Prod.Lex.left _ _ ?_
  simp only [rests, put, List.map_set]
  exact OneFollows.set (by simp) (by simpa using step)

theorem put_below_of_weight (batch : Batch I σ α) (place : Fin batch.tasks.length)
    (task : Task I α) (surroundings : Surroundings I σ)
    (same : task.rest = (batch.tasks.get place).rest)
    (lighter : task.weight < (batch.tasks.get place).weight)
    (moments : surroundings.moments = batch.surroundings.moments) :
    (batch.put place task surroundings).Below batch := by
  have rests : (batch.put place task surroundings).rests = batch.rests := by
    have kept : (batch.tasks.map Task.rest).set place batch.tasks[place.val].rest =
        batch.tasks.map Task.rest := by
      rw [← List.getElem_map Task.rest]
      exact List.set_getElem_self (by simp)
    simp only [Batch.rests, put, List.map_set, same, List.get_eq_getElem, kept]
  have total := totalWeight_set batch.tasks place place.isLt task
  simp only [Below, rests]
  refine Prod.Lex.right _ ?_
  simp only [weight, put, moments]
  simp only [List.get_eq_getElem] at lighter
  omega

theorem advance_below (batch : Batch I σ α) (peer : Peer I σ) (place : Fin batch.tasks.length)
    (ticket : Nat) (program : Program I α) (task : batch.tasks.get place = .ready ticket program) :
    (batch.advance peer place ticket program).Below batch := by
  have stays (later : Task I α) (same : later.rest = program) (light : later.weight < 3) :
      (batch.put place later batch.surroundings).Below batch :=
    put_below_of_weight _ _ _ _ (by rw [task]; exact same) (by rw [task]; exact light) rfl
  have follows (later : Task I α) (surroundings : Surroundings I σ)
      (step : Program.Follows later.rest program) :
      (batch.put place later surroundings).Below batch :=
    put_below_of_follows _ _ _ _ (by rw [task]; exact step)
  cases program with
  | done result => exact stays _ rfl (Nat.succ_pos 2)
  | write event next => exact follows _ _ (.write event next)
  | look next => exact follows _ _ (.look next _)
  | ask query next =>
      simp only [advance]
      split
      · exact stays _ rfl (Nat.lt_of_sub_pos (Nat.succ_pos 1))
      · exact stays _ rfl (Nat.lt_succ_self 2)
  | pause milliseconds next =>
      simp only [advance]
      split
      · exact follows _ _ (.pause milliseconds next _)
      · split
        · exact follows _ _ (.pause milliseconds next _)
        · exact stays _ rfl (Nat.lt_of_sub_pos (Nat.succ_pos 1))

theorem move_below {batch next : Batch I σ α} {peer : Peer I σ} {place : Fin batch.tasks.length}
    (moved : batch.move peer place = some next) : next.Below batch := by
  unfold move at moved
  split at moved
  next program task =>
    obtain rfl := Option.some.inj moved
    exact put_below_of_weight _ _ _ _ (by rw [task]; rfl)
      (by rw [task]; exact Nat.lt_succ_self 3) rfl
  next wake query rest task =>
    obtain rfl := Option.some.inj moved
    exact put_below_of_weight _ _ _ _ (by rw [task]; rfl)
      (by rw [task]; exact Nat.lt_succ_self 1) rfl
  next wake milliseconds rest task =>
    split at moved <;> obtain rfl := Option.some.inj moved <;>
      exact put_below_of_follows _ _ _ _ (by rw [task]; exact .pause milliseconds rest _)
  next ticket query rest task =>
    obtain rfl := Option.some.inj moved
    exact put_below_of_follows _ _ _ _ (by rw [task]; exact .ask query rest _)
  next ticket program task =>
    obtain rfl := Option.some.inj moved
    exact advance_below _ _ _ _ _ task
  next => cases moved

theorem requeue_cases (batch : Batch I σ α) (moment : Moment) (place : Nat) (task : Task I α) :
    batch.requeue moment place task = task ∨
      batch.requeue moment place task =
        task.queueAnew batch.ticket (moment.change.round place) := by
  rw [requeue]
  split
  · exact .inr rfl
  · exact .inl rfl

/-- What does not depend on the ticket of a pause stays as it is when something happens. -/
theorem map_requeue {κ : Type} {key : Task I α → κ}
    (same : ∀ (task : Task I α) (ticket round : Nat), key (task.queueAnew ticket round) = key task)
    (batch : Batch I σ α) (moment : Moment) :
    (batch.tasks.mapIdx (batch.requeue moment)).map key = batch.tasks.map key := by
  refine List.ext_getElem? fun place => ?_
  rw [List.getElem?_map, List.getElem?_mapIdx, List.getElem?_map, Option.map_map]
  refine congrArg (Option.map · batch.tasks[place]?) (funext fun task => ?_)
  obtain kept | anew := batch.requeue_cases moment place task
  · exact congrArg key kept
  · exact (congrArg key anew).trans (same task _ _)

theorem totalWeight_congr {tasks others : List (Task I α)}
    (same : tasks.map Task.weight = others.map Task.weight) :
    totalWeight tasks = totalWeight others := by
  induction tasks generalizing others with
  | nil =>
      cases others with
      | nil => rfl
      | cons => cases same
  | cons task tasks ih =>
      cases others with
      | nil => cases same
      | cons other others =>
          obtain ⟨own, rest⟩ := List.cons.inj same
          rw [totalWeight, totalWeight, own, ih rest]

theorem rests_happen (batch : Batch I σ α) (moment : Moment) (later : List Moment) :
    (batch.happen moment later).rests = batch.rests :=
  map_requeue (fun task _ _ => by cases task <;> rfl) batch moment

theorem happen_below (batch : Batch I σ α) (moment : Moment) (later : List Moment)
    (first : batch.surroundings.moments = moment :: later) :
    (batch.happen moment later).Below batch := by
  have total : totalWeight (batch.happen moment later).tasks = totalWeight batch.tasks :=
    totalWeight_congr (map_requeue (fun task _ _ => by cases task <;> rfl) batch moment)
  simp only [Below, rests_happen]
  refine Prod.Lex.right _ ?_
  simp only [Batch.weight, total, first, List.length_cons]
  simp only [happen, Surroundings.take]
  omega

/-- All that a step can be: a move of one task, or the first moment that is still to come. -/
theorem step_cases {batch next : Batch I σ α} {peer : Peer I σ}
    (stepped : batch.step peer = some next) :
    (∃ place, batch.move peer place = some next) ∨
      ∃ moment later, batch.surroundings.moments = moment :: later ∧
        next = batch.happen moment later := by
  unfold step at stepped
  split at stepped
  next place _ => exact .inl ⟨place, stepped⟩
  next =>
    split at stepped
    next => cases stepped
    next place _ =>
      split at stepped
      next => exact .inl ⟨place, stepped⟩
      next moment later first =>
        split at stepped
        · exact .inr ⟨moment, later, first, (Option.some.inj stepped).symm⟩
        · exact .inl ⟨place, stepped⟩

theorem step_below {batch next : Batch I σ α} {peer : Peer I σ}
    (stepped : batch.step peer = some next) : next.Below batch := by
  obtain ⟨place, moved⟩ | ⟨moment, later, first, rfl⟩ := step_cases stepped
  · exact move_below moved
  · exact happen_below batch moment later first

def run (batch : Batch I σ α) (peer : Peer I σ) : Batch I σ α :=
  match _ : batch.step peer with
  | none => batch
  | some next => next.run peer
termination_by (batch.rests, batch.weight)
decreasing_by exact step_below ‹_›

def results (batch : Batch I σ α) : List α :=
  batch.tasks.filterMap Task.result?

end Batch

end Tenancy
