import Tenancy.Proofs.Batch.Lockstep
import Tenancy.Proofs.Batch.Window
import Tenancy.Proofs.Batch.Pace
import Tenancy.Proofs.Program.Unsignalled

/-!
A shutdown signal on which shutdown is never requested, as programs side by side see it. What happens
to it while all of them sleep moves only the clock. But when the last one goes who could request
shutdown, the pauses are queued anew, in an order of their own, and then a wait that ends together
with a pause comes first even if it was begun later. As long as no such wait is there, and no two
pauses end together, nothing is different without the signal.
-/

namespace Tenancy

variable {I : Interface} {σ α : Type}

namespace Task

/-- If a wait ends together with a pause, it was begun before the pause. -/
def endsFirst : Task I α → Task I α → Bool
  | waiting early wake .., pausing late time .. => wake != time || early < late
  | _, _ => true

def endsApart : Task I α → Task I α → Bool
  | pausing _ one .., pausing _ other .. => one != other
  | _, _ => true

/-- The same task but for its ticket. Tickets belong together in the queue where they count: among
the tasks that can go on, or among those that wake at one time. -/
inductive Matches (tickets : Option Nat → Nat → Nat → Prop) : Task I α → Task I α → Prop
  | unstarted (program) : Matches tickets (.unstarted program) (.unstarted program)
  | ready {left right} (program) (pair : tickets none left right) :
      Matches tickets (.ready left program) (.ready right program)
  | waiting {left right} (wake query next) (pair : tickets (some wake) left right) :
      Matches tickets (.waiting left wake query next) (.waiting right wake query next)
  | due {left right} (query next) (pair : tickets none left right) :
      Matches tickets (.due left query next) (.due right query next)
  | pausing {left right} (wake milliseconds next) (pair : tickets (some wake) left right) :
      Matches tickets (.pausing left wake milliseconds next)
        (.pausing right wake milliseconds next)
  | ended (result) : Matches tickets (.ended result) (.ended result)

variable {tickets more : Option Nat → Nat → Nat → Prop} {left right : Task I α}

theorem Matches.mono (same : Matches tickets left right)
    (within : ∀ {queue one other}, tickets queue one other → more queue one other) :
    Matches more left right := by
  cases same with
  | unstarted program => exact .unstarted program
  | ready program pair => exact .ready program (within pair)
  | waiting wake query next pair => exact .waiting wake query next (within pair)
  | due query next pair => exact .due query next (within pair)
  | pausing wake milliseconds next pair => exact .pausing wake milliseconds next (within pair)
  | ended result => exact .ended result

theorem Matches.isUnstarted (same : Matches tickets left right) :
    left.isUnstarted = right.isUnstarted := by
  cases same <;> rfl

theorem Matches.result? (same : Matches tickets left right) : left.result? = right.result? := by
  cases same <;> rfl

theorem Matches.readyTicket? (same : Matches tickets left right) :
    Option.Rel (tickets none) left.readyTicket? right.readyTicket? := by
  cases same with
  | ready _ pair | due _ _ pair => exact .some pair
  | unstarted | waiting | pausing | ended => exact .none

def SameSleep (tickets : Option Nat → Nat → Nat → Prop) (left right : Nat × Nat) : Prop :=
  left.1 = right.1 ∧ tickets (some left.1) left.2 right.2

theorem Matches.wake? (same : Matches tickets left right) :
    Option.Rel (SameSleep tickets) left.wake? right.wake? := by
  cases same with
  | waiting _ _ _ pair | pausing _ _ _ pair => exact .some ⟨rfl, pair⟩
  | unstarted | ready | due | ended => exact .none

theorem Matches.wakesNow? (same : Matches tickets left right) (now : Nat) :
    Option.Rel (SameSleep tickets) (left.wakesNow? now false) (right.wakesNow? now false) := by
  cases same with
  | waiting _ _ _ pair | pausing _ _ _ pair =>
      simp only [Task.wakesNow?]
      split
      · exact .some ⟨rfl, pair⟩
      · exact .none
  | unstarted | ready | due | ended => exact .none

theorem wakesNow?_eq_none_iff {task : Task I α} {now : Nat} :
    task.wakesNow? now false = none ↔ ∀ wake ∈ task.wake?, now < wake.1 := by
  cases task with
  | waiting | pausing => simp [wakesNow?, wake?]
  | unstarted | ready | due | ended => simp [wakesNow?, wake?]

end Task

namespace Batch

/-- Every wait that ends together with a pause was begun before it, and no two pauses end
together. -/
structure Untied (batch : Batch I σ α) : Prop where
  waits : ∀ wait ∈ batch.tasks, ∀ pause ∈ batch.tasks, wait.endsFirst pause = true
  pauses : batch.tasks.Pairwise fun pause other => pause.endsApart other = true

def UntiedWhenLeft (peer : Peer I σ) (batch : Batch I σ α) : Prop :=
  ∀ middle next, Reaches peer batch middle → middle.step peer = some next →
    middle.surroundings.watched → next.surroundings.watched = false → middle.Untied

instance (batch : Batch I σ α) : Decidable batch.Untied :=
  decidable_of_iff
    ((∀ wait ∈ batch.tasks, ∀ pause ∈ batch.tasks, wait.endsFirst pause = true) ∧
      batch.tasks.Pairwise fun pause other => pause.endsApart other = true)
    ⟨fun both => ⟨both.1, both.2⟩, fun untied => ⟨untied.waits, untied.pauses⟩⟩

def staysUntied (peer : Peer I σ) : Nat → Batch I σ α → Bool
  | 0, batch => (batch.step peer).isNone
  | steps + 1, batch =>
      match batch.step peer with
      | none => true
      | some next =>
          (!batch.surroundings.watched || next.surroundings.watched || decide batch.Untied) &&
            staysUntied peer steps next

theorem mapIdx_self {ε : Type} (entries : List ε) :
    entries.mapIdx (fun _ entry => entry) = entries := by
  refine List.ext_getElem? fun place => ?_
  rw [List.getElem?_mapIdx, Option.map_id']

structure Dozes (batch : Batch I σ α) (time : Nat) : Prop where
  late : batch.surroundings.now ≤ time
  idle : batch.current? = none
  sleeps : firstPlace? earlier Task.wake? batch.tasks ≠ none

/-- The right batch is the left one without its signal. While all programs sleep, the clock on the
left may have come further. -/
structure Matches (tickets : Option Nat → Nat → Nat → Prop) (left right : Batch I σ α) : Prop where
  surroundings : { left.surroundings.unsignalled with now := right.surroundings.now } =
    right.surroundings
  limit : left.limit = right.limit
  tasks : List.Forall₂ (Task.Matches tickets) left.tasks right.tasks
  order : ∀ queue, SameOrder (tickets queue) left.ticket right.ticket
  clock : left.surroundings.now = right.surroundings.now ∨
    right.Dozes left.surroundings.now ∧ left.Asleep (left.surroundings.now + 1)

variable {tickets : Option Nat → Nat → Nat → Prop} {left right next : Batch I σ α}
  {peer : Peer I σ}

theorem untiedWhenLeft_of_stuck (stuck : left.step peer = none) : left.UntiedWhenLeft peer := by
  intro middle next reaches stepped
  obtain rfl | ⟨first, other, -⟩ := Relation.ReflTransGen.cases_head reaches
  · rw [stuck] at stepped
    cases stepped
  · rw [stuck] at other
    cases other

theorem untiedWhenLeft_of_step (stepped : left.step peer = some next)
    (here : left.surroundings.watched → next.surroundings.watched = false → left.Untied)
    (later : next.UntiedWhenLeft peer) : left.UntiedWhenLeft peer := by
  intro middle last reaches further
  obtain rfl | ⟨first, other, rest⟩ := Relation.ReflTransGen.cases_head reaches
  · rw [stepped] at further
    obtain rfl := Option.some.inj further
    exact here
  · rw [stepped] at other
    obtain rfl := Option.some.inj other
    exact later middle last rest further

theorem untiedWhenLeft_of_stays {steps : Nat} (stays : left.staysUntied peer steps) :
    left.UntiedWhenLeft peer ∧ left.run peer = left.walk peer steps := by
  induction steps generalizing left with
  | zero =>
      have stuck : left.step peer = none := Option.isNone_iff_eq_none.mp stays
      exact ⟨untiedWhenLeft_of_stuck stuck, run_of_step_eq_none stuck⟩
  | succ steps ih =>
      rw [staysUntied] at stays
      rw [walk]
      cases stepped : left.step peer with
      | none => exact ⟨untiedWhenLeft_of_stuck stepped, run_of_step_eq_none stepped⟩
      | some next =>
          simp only [stepped, Bool.and_eq_true, Bool.or_eq_true, decide_eq_true_eq] at stays
          obtain ⟨here, later⟩ := stays
          obtain ⟨untied, walks⟩ := ih later
          refine ⟨untiedWhenLeft_of_step stepped (fun watched unwatched => ?_) untied, ?_⟩
          · simpa [watched, unwatched] using here
          · exact (Reaches.run_eq (.single stepped)).symm.trans walks

theorem Untied.place_eq (untied : left.Untied) {place other own own' wake : Nat}
    {milliseconds milliseconds' : Nat} {next next' : Bool → Program I α}
    (found : left.tasks[place]? = some (.pausing own wake milliseconds next))
    (found' : left.tasks[other]? = some (.pausing own' wake milliseconds' next')) :
    place = other := by
  obtain ⟨low, known⟩ := List.getElem?_eq_some_iff.mp found
  obtain ⟨low', known'⟩ := List.getElem?_eq_some_iff.mp found'
  have apart := List.pairwise_iff_getElem.mp untied.pauses
  obtain before | same | behind := Nat.lt_trichotomy place other
  · have clash := apart place other low low' before
    rw [known, known'] at clash
    simp [Task.endsApart] at clash
  · exact same
  · have clash := apart other place low' low behind
    rw [known, known'] at clash
    simp [Task.endsApart] at clash

namespace Matches

theorem moments (same : Matches tickets left right) : right.surroundings.moments = [] := by
  rw [← same.surroundings]
  rfl

theorem calm (same : Matches tickets left right) : right.surroundings.requested = false := by
  rw [← same.surroundings]
  rfl

theorem startPlace? (same : Matches tickets left right) :
    left.startPlace?.map Fin.val = right.startPlace?.map Fin.val :=
  startPlace?_alike same.tasks same.limit (fun _ _ task => task.isUnstarted)
    fun _ _ task => congrArg Option.isSome task.result?

theorem wakesBefore (same : Matches tickets left right) (one its one' its' : Nat × Nat)
    (pair : Task.SameSleep tickets one its) (pair' : Task.SameSleep tickets one' its') :
    earlier one one' = earlier its its' := by
  obtain ⟨wake, ticket⟩ := pair
  obtain ⟨wake', ticket'⟩ := pair'
  by_cases together : one.1 = one'.1
  · rw [← together] at ticket'
    simp only [earlier, ← wake, ← wake', (same.order _).order ticket ticket']
  · have apart : (one.1 == one'.1) = false := beq_eq_false_iff_ne.mpr together
    simp only [earlier, ← wake, ← wake', apart, Bool.false_and]

theorem readyPlace? (same : Matches tickets left right) :
    (firstPlace? (fun one other => one < other) Task.readyTicket? left.tasks).map Fin.val =
      (firstPlace? (fun one other => one < other) Task.readyTicket? right.tasks).map Fin.val :=
  firstPlace?_alike _ (same.tasks.imp fun _ _ task => task.readyTicket?)
    fun _ _ _ _ pair pair' => decide_eq_decide.mpr ((same.order none).order pair pair')

theorem wakePlace? (same : Matches tickets left right) :
    (firstPlace? earlier Task.wake? left.tasks).map Fin.val =
      (firstPlace? earlier Task.wake? right.tasks).map Fin.val :=
  firstPlace?_alike earlier (same.tasks.imp fun _ _ task => task.wake?) same.wakesBefore

theorem current? (same : Matches tickets left right) (calm : left.surroundings.requested = false) :
    left.current?.map Fin.val = right.current?.map Fin.val := by
  obtain together | ⟨dozes, asleep⟩ := same.clock
  · have wakes := firstPlace?_alike earlier
      (same.tasks.imp fun _ _ task => task.wakesNow? left.surroundings.now) same.wakesBefore
    simp only [Batch.current?, Option.orElse_eq_orElse, Option.orElse_eq_or, Option.map_or, calm,
      same.calm]
    rw [same.startPlace?, same.readyPlace?, wakes, together]
  · obtain ⟨full, -, unready⟩ := current?_eq_none_iff.mp dozes.idle
    have idle : left.current? = none := by
      refine current?_eq_none_iff.mpr ⟨eq_none_alike same.startPlace?.symm full, ?_,
        eq_none_alike same.readyPlace?.symm unready⟩
      rw [calm]
      exact firstPlace?_eq_none_iff.mpr fun task member =>
        Task.wakesNow?_eq_none_iff.mpr (asleep task member)
    rw [dozes.idle, idle]
    rfl

theorem together (same : Matches tickets left right)
    (clock : left.surroundings.now = right.surroundings.now) :
    left.surroundings.unsignalled = right.surroundings := by
  rw [← same.surroundings, ← clock]
  rfl

def drawn (tickets : Option Nat → Nat → Nat → Prop) (next other : Nat) :
    Option Nat → Nat → Nat → Prop :=
  fun queue => SameOrder.draw (tickets queue) next other

theorem put (same : Matches tickets left right) {place : Fin left.tasks.length}
    {other : Fin right.tasks.length} (here : place.val = other.val) {task its : Task I α}
    (tasks : Task.Matches (drawn tickets left.ticket right.ticket) task its)
    {after after' : Surroundings I σ} (surroundings : after.unsignalled = after') :
    Matches (drawn tickets left.ticket right.ticket) (left.put place task after)
      (right.put other its after') := by
  subst surroundings
  refine ⟨rfl, same.limit, ?_, fun queue => (same.order queue).afterDraw, .inl rfl⟩
  simp only [Batch.put, here]
  exact forall₂_set (same.tasks.imp fun _ _ task => task.mono .inl) tasks other

theorem advance (same : Matches tickets left right) (calm : left.surroundings.requested = false)
    (clock : left.surroundings.now = right.surroundings.now) {place : Fin left.tasks.length}
    {other : Fin right.tasks.length} (here : place.val = other.val) {own its : Nat}
    (pair : tickets none own its) (program : Program I α) :
    Matches (drawn tickets left.ticket right.ticket) (left.advance peer place own program)
      (right.advance peer other its program) := by
  have together := same.together clock
  have goes (later : Program I α) {after after' : Surroundings I σ}
      (surroundings : after.unsignalled = after') :
      Matches (drawn tickets left.ticket right.ticket) (left.put place (.ready own later) after)
        (right.put other (.ready its later) after') :=
    same.put here (.ready later (.inl pair)) surroundings
  cases program with
  | done result => exact same.put here (.ended result) together
  | write event next => exact goes next (congrArg (·.write event) together)
  | look next =>
      simp only [Batch.advance, calm, same.calm]
      exact goes (next false) together
  | ask query next =>
      have state : right.surroundings.state = left.surroundings.state := by rw [← together]; rfl
      simp only [Batch.advance, state, ← clock]
      split
      · exact same.put here (.due query next (.inl pair)) together
      · exact same.put here (.waiting _ query next (.inr ⟨rfl, rfl⟩)) together
  | pause milliseconds next =>
      simp only [Batch.advance, calm, same.calm, ← clock, Bool.false_eq_true, if_false]
      split
      · exact goes (next false) together
      · exact same.put here (.pausing _ milliseconds next (.inr ⟨rfl, rfl⟩)) together

theorem move (same : Matches tickets left right) (calm : left.surroundings.requested = false)
    {place : Fin left.tasks.length} {other : Fin right.tasks.length} (here : place.val = other.val)
    (moved : left.move peer place = some next) (calmAfter : next.surroundings.requested = false)
    (late : right.surroundings.now ≤ left.surroundings.now)
    (clock : left.surroundings.now = right.surroundings.now ∨
      ∃ wake ∈ (left.tasks.get place).wake?, left.surroundings.now < wake.1) :
    ∃ further, right.move peer other = some further ∧
      Matches (drawn tickets left.ticket right.ticket) next further := by
  have tasks := forall₂_get same.tasks here
  have passes (wake : Nat)
      (clock : left.surroundings.now = right.surroundings.now ∨ left.surroundings.now < wake) :
      ({ left.surroundings with now := max left.surroundings.now wake } :
          Surroundings I σ).unsignalled =
        { right.surroundings with now := max right.surroundings.now wake } := by
    have now : max left.surroundings.now wake = max right.surroundings.now wake := by omega
    rw [now, ← same.surroundings]
    rfl
  unfold Batch.move at moved ⊢
  generalize task : left.tasks.get place = own, task' : right.tasks.get other = its at tasks
  rw [task] at clock moved
  cases tasks with
  | unstarted program =>
      have together := same.together (clock.resolve_right (by simp [Task.wake?]))
      obtain rfl := Option.some.inj moved
      exact ⟨_, rfl, same.put here (.ready program (.inr ⟨rfl, rfl⟩)) together⟩
  | ready program pair =>
      have together := clock.resolve_right (by simp [Task.wake?])
      obtain rfl := Option.some.inj moved
      exact ⟨_, rfl, same.advance calm together here pair program⟩
  | waiting wake query rest pair =>
      obtain rfl := Option.some.inj moved
      exact ⟨_, rfl, same.put here (.due query rest (.inr ⟨rfl, rfl⟩))
        (passes wake (by simpa [Task.wake?] using clock))⟩
  | due query rest pair =>
      have together := same.together (clock.resolve_right (by simp [Task.wake?]))
      obtain rfl := Option.some.inj moved
      have exchange := Surroundings.exchange_unsignalled calmAfter
      simp only [← together, ← here, exchange]
      exact ⟨_, rfl, same.put here (.ready _ (.inl pair)) rfl⟩
  | pausing wake milliseconds rest pair =>
      simp only [calm, same.calm, Bool.false_eq_true, if_false] at moved ⊢
      obtain rfl := Option.some.inj moved
      exact ⟨_, rfl, same.put here (.ready _ (.inr ⟨rfl, rfl⟩))
        (passes wake (by simpa [Task.wake?] using clock))⟩
  | ended result => cases moved

def requeued (tickets : Option Nat → Nat → Nat → Prop) (batch : Batch I σ α) (moment : Moment) :
    Option Nat → Nat → Nat → Prop
  | none, left, right => tickets none left right
  | some wake, left, right =>
      (∃ query next, Task.waiting left wake query next ∈ batch.tasks) ∧
          tickets (some wake) left right ∨
        ∃ place own milliseconds next,
          batch.tasks[place]? = some (.pausing own wake milliseconds next) ∧
          left = (moment.change.round place + 1) * batch.ticket + own ∧
          tickets (some wake) own right

theorem order_requeued (same : Matches tickets left right) (untied : left.Untied) (moment : Moment)
    (queue : Option Nat) :
    SameOrder (requeued tickets left moment queue) ((moment.change.lastRound + 2) * left.ticket)
      right.ticket := by
  have more : left.ticket ≤ (moment.change.lastRound + 2) * left.ticket :=
    Nat.le_mul_of_pos_left left.ticket (Nat.succ_pos _)
  cases queue with
  | none => exact (same.order none).mono more (Nat.le_refl _)
  | some wake =>
      have order := same.order (some wake)
      have anew {own other : Nat} (place : Nat) (pair : tickets (some wake) own other) :=
        SameOrder.requeued_bounds (order.drawn pair).1 (moment.change.round_le_lastRound place)
      have first {early late query next milliseconds rest} {place : Nat}
          (wait : Task.waiting early wake query next ∈ left.tasks)
          (pause : left.tasks[place]? = some (Task.pausing late wake milliseconds rest)) :
          early < late := by
        simpa [Task.endsFirst] using untied.waits _ wait _ (List.mem_of_getElem? pause)
      constructor
      · rintro one other (⟨-, pair⟩ | ⟨place, own, _, _, -, rfl, pair⟩)
        · obtain ⟨low, low'⟩ := order.drawn pair
          exact ⟨Nat.lt_of_lt_of_le low more, low'⟩
        · exact ⟨(anew place pair).2, (order.drawn pair).2⟩
      · rintro one other one' other' (⟨⟨_, _, wait⟩, pair⟩ | ⟨place, own, _, _, pause, rfl, pair⟩)
          (⟨⟨_, _, wait'⟩, pair'⟩ | ⟨place', own', _, _, pause', rfl, pair'⟩)
        · exact order.order pair pair'
        -- A pause now stands behind every wait, and there it was before: that is what `untied` says.
        · have := order.drawn pair
          have := anew place' pair'
          have := (order.order pair pair').mp (first wait pause')
          omega
        · have := order.drawn pair'
          have := anew place pair
          have := (order.order pair' pair).mp (first wait' pause)
          omega
        · obtain rfl := untied.place_eq pause pause'
          have known := pause.symm.trans pause'
          simp only [Option.some.injEq, Task.pausing.injEq] at known
          obtain ⟨rfl, -⟩ := known
          have := order.order pair pair'
          omega

theorem tasks_requeued (same : Matches tickets left right) (moment : Moment) :
    List.Forall₂ (Task.Matches (requeued tickets left moment))
      (left.tasks.mapIdx fun place => Task.queueAnew left.ticket (moment.change.round place))
      right.tasks := by
  rw [← mapIdx_self right.tasks]
  refine forall₂_mapIdx same.tasks fun place task its found tasks => ?_
  cases tasks with
  | unstarted program => exact .unstarted program
  | ready program pair => exact .ready program pair
  | waiting wake query next pair =>
      exact .waiting wake query next (.inl ⟨⟨query, next, List.mem_of_getElem? found⟩, pair⟩)
  | due query next pair => exact .due query next pair
  | pausing wake milliseconds next pair =>
      exact .pausing wake milliseconds next
        (.inr ⟨place, _, milliseconds, next, found, rfl, pair⟩)
  | ended result => exact .ended result

theorem late (same : Matches tickets left right) :
    right.surroundings.now ≤ left.surroundings.now := by
  obtain together | ⟨dozes, -⟩ := same.clock
  · omega
  · exact dozes.late

theorem asleep_of_idle (calm : left.surroundings.requested = false) (idle : left.current? = none) :
    left.Asleep (left.surroundings.now + 1) := by
  obtain ⟨-, asleep, -⟩ := current?_eq_none_iff.mp idle
  rw [calm] at asleep
  exact fun task member =>
    Task.wakesNow?_eq_none_iff.mp (firstPlace?_eq_none_iff.mp asleep task member)

theorem happen (same : Matches tickets left right) (calm : left.surroundings.requested = false)
    (idle : left.current? = none) {place : Fin left.tasks.length}
    (found : firstPlace? earlier Task.wake? left.tasks = some place) {moment : Moment}
    {later : List Moment} (early : (left.tasks.get place).wake?.any (moment.time < ·.1))
    (untied : left.surroundings.watched →
      (left.happen moment later).surroundings.watched = false → left.Untied) :
    ∃ tickets, Matches tickets (left.happen moment later) right := by
  have dozes : right.Dozes (max left.surroundings.now moment.time) := by
    refine ⟨?_, eq_none_alike (same.current? calm) idle, fun none => ?_⟩
    · exact Nat.le_trans same.late (Nat.le_max_left _ _)
    · have nobody := eq_none_alike same.wakePlace?.symm none
      rw [found] at nobody
      cases nobody
  have slept : left.Asleep (max left.surroundings.now moment.time + 1) := by
    intro task member wake sleeps
    have own := asleep_of_idle calm idle task member wake sleeps
    have behind := asleep_of_early found early task member wake sleeps
    omega
  have asleep : (left.happen moment later).Asleep (max left.surroundings.now moment.time + 1) :=
    slept.happen moment later
  by_cases anew : left.surroundings.signal.any (·.live) && moment.change.isDrop
  · obtain ⟨live, drop⟩ := Bool.and_eq_true_iff.mp anew
    have unwatched : (left.happen moment later).surroundings.watched = false := by
      rw [Batch.happen, Surroundings.watched_take, drop, Bool.not_true, Bool.and_false]
    refine ⟨requeued tickets left moment, same.surroundings, same.limit, ?_,
      same.order_requeued (untied live unwatched) moment, .inr ⟨dozes, asleep⟩⟩
    have tasks : (left.happen moment later).tasks = left.tasks.mapIdx fun place =>
        Task.queueAnew left.ticket (moment.change.round place) :=
      congrArg left.tasks.mapIdx (funext fun place => funext fun task => if_pos anew)
    rw [tasks]
    exact same.tasks_requeued moment
  · have kept : left.requeue moment = fun _ task => task :=
      funext fun place => funext fun task => if_neg anew
    have tasks : (left.happen moment later).tasks = left.tasks := by
      rw [Batch.happen, kept, mapIdx_self]
    exact ⟨tickets, same.surroundings, same.limit, tasks ▸ same.tasks,
      fun queue => (same.order queue).mono (Nat.le_mul_of_pos_left left.ticket (Nat.succ_pos _))
        (Nat.le_refl _), .inr ⟨dozes, asleep⟩⟩

theorem step_current (same : Matches tickets left right)
    (calm : left.surroundings.requested = false) {place : Fin left.tasks.length}
    (current : left.current? = some place) (moved : left.move peer place = some next)
    (calmAfter : next.surroundings.requested = false) :
    ∃ further, right.step peer = some further ∧
      Matches (drawn tickets left.ticket right.ticket) next further := by
  obtain ⟨other, found, here⟩ := eq_some_alike (same.current? calm) current
  have together : left.surroundings.now = right.surroundings.now := by
    refine same.clock.resolve_right fun ⟨dozes, _⟩ => ?_
    rw [dozes.idle] at found
    cases found
  rw [Batch.step, found]
  exact same.move calm here moved calmAfter same.late (.inl together)

theorem step_sleeper (same : Matches tickets left right)
    (calm : left.surroundings.requested = false) (idle : left.current? = none)
    {place : Fin left.tasks.length}
    (sleeper : firstPlace? earlier Task.wake? left.tasks = some place)
    (moved : left.move peer place = some next) (calmAfter : next.surroundings.requested = false) :
    ∃ further, right.step peer = some further ∧
      Matches (drawn tickets left.ticket right.ticket) next further := by
  obtain ⟨other, found, here⟩ := eq_some_alike same.wakePlace? sleeper
  obtain ⟨wake, sleeps, -⟩ := earlier_least sleeper
  have ahead := asleep_of_idle calm idle _ (List.get_mem _ place) wake sleeps
  rw [Batch.step, eq_none_alike (same.current? calm) idle, found, same.moments]
  exact same.move calm here moved calmAfter same.late (.inr ⟨wake, sleeps, ahead⟩)

/-- A step of the left batch is not seen on the right, or it is done there too. -/
theorem step (same : Matches tickets left right) (calm : left.surroundings.requested = false)
    (stepped : left.step peer = some next) (calmAfter : next.surroundings.requested = false)
    (untied : left.surroundings.watched → next.surroundings.watched = false → left.Untied) :
    ∃ tickets, Matches tickets next right ∨
      ∃ further, right.step peer = some further ∧ Matches tickets next further := by
  have onward {place : Fin left.tasks.length} (current : left.current? = some place)
      (moved : left.move peer place = some next) :
      ∃ tickets, Matches tickets next right ∨
        ∃ further, right.step peer = some further ∧ Matches tickets next further :=
    ⟨_, .inr (same.step_current calm current moved calmAfter)⟩
  cases step_picks stepped with
  | starts found moved => exact onward (current?_eq_some_iff.mpr (.inl found)) moved
  | wakes full found moved => exact onward (current?_eq_some_iff.mpr (.inr ⟨full, .inl found⟩)) moved
  | goes full asleep found moved =>
      exact onward (current?_eq_some_iff.mpr (.inr ⟨full, .inr ⟨asleep, found⟩⟩)) moved
  | sleeps idle found _ moved =>
      exact ⟨_, .inr (same.step_sleeper calm idle found moved calmAfter)⟩
  | happens idle found _ early =>
      obtain ⟨tickets, after⟩ := same.happen calm idle found early untied
      exact ⟨tickets, .inl after⟩

theorem stop (same : Matches tickets left right) (calm : left.surroundings.requested = false)
    (stuck : left.step peer = none) :
    right.step peer = none ∧ left.surroundings.now = right.surroundings.now := by
  have idle : left.current? = none := by
    cases current : left.current? with
    | none => rfl
    | some place =>
        rw [Batch.step, current] at stuck
        exact absurd stuck (current?_moves current)
  have asleep : firstPlace? earlier Task.wake? left.tasks = none := by
    refine firstPlace?_eq_none_iff.mpr fun task member => ?_
    obtain unstarted | ended := (idle_of_step_eq_none stuck).2 task member
    · exact Task.wake?_of_unstarted unstarted
    · cases task with
      | ended => rfl
      | unstarted | ready | waiting | due | pausing => cases ended
  have sleeper := eq_none_alike same.wakePlace? asleep
  refine ⟨?_, same.clock.resolve_right fun apart => apart.1.sleeps sleeper⟩
  rw [Batch.step, eq_none_alike (same.current? calm) idle, sleeper]

theorem run (same : Matches tickets left right)
    (calm : (left.run peer).surroundings.requested = false) (untied : left.UntiedWhenLeft peer) :
    ∃ tickets, Matches tickets (left.run peer) (right.run peer) ∧
      (left.run peer).surroundings.now = (right.run peer).surroundings.now := by
  fun_induction Batch.run left peer generalizing right tickets with
  | case1 left stuck =>
      obtain ⟨stuck', together⟩ := same.stop calm stuck
      rw [run_of_step_eq_none stuck']
      exact ⟨tickets, same, together⟩
  | case2 left next stepped ih =>
      have calmAfter : next.surroundings.requested = false :=
        Surroundings.calm_of_grows (reaches_run next peer).leads.signal calm
      have calmBefore : left.surroundings.requested = false :=
        Surroundings.calm_of_grows (step_requested stepped) calmAfter
      have onward : next.UntiedWhenLeft peer := fun middle further reaches =>
        untied middle further (.head stepped reaches)
      obtain ⟨tickets, after | ⟨further, stepped', after⟩⟩ :=
        same.step calmBefore stepped calmAfter (untied left next .refl stepped)
      · exact ih after calm onward
      · have same : further.run peer = right.run peer := Reaches.run_eq (.single stepped')
        rw [← same]
        exact ih after calm onward

theorem results (same : Matches tickets left right) : left.results = right.results := by
  have all : left.tasks.map Task.result? = right.tasks.map Task.result? := by
    rw [← List.forall₂_eq_eq_eq, List.forall₂_map_left_iff, List.forall₂_map_right_iff]
    exact same.tasks.imp fun _ _ task => task.result?
  have read (tasks : List (Task I α)) :
      tasks.filterMap Task.result? = (tasks.map Task.result?).filterMap id := by
    rw [List.filterMap_map]
    rfl
  rw [Batch.results, Batch.results, read, read, all]

end Matches

variable {surroundings : Surroundings I σ} {limit : Nat} {programs : List (Program I α)}

theorem matches_start (surroundings : Surroundings I σ) (limit : Nat)
    (programs : List (Program I α)) :
    Matches (fun _ _ _ => False) (start surroundings limit programs)
      (start surroundings.unsignalled limit programs) := by
  refine ⟨rfl, rfl, ?_, fun queue => ⟨nofun, nofun⟩, .inl rfl⟩
  rw [start, start, List.forall₂_map_left_iff, List.forall₂_map_right_iff, List.forall₂_same]
  exact fun program _ => .unstarted program

/-- Side by side, programs do the same without the signal. -/
theorem run_unsignalled
    (calm : ((start surroundings limit programs).run peer).surroundings.requested = false)
    (untied : (start surroundings limit programs).UntiedWhenLeft peer) :
    ((start surroundings.unsignalled limit programs).run peer).surroundings =
        ((start surroundings limit programs).run peer).surroundings.unsignalled ∧
      ((start surroundings.unsignalled limit programs).run peer).results =
        ((start surroundings limit programs).run peer).results := by
  obtain ⟨tickets, same, clock⟩ := (matches_start surroundings limit programs).run calm untied
  exact ⟨(same.together clock).symm, same.results.symm⟩

theorem move_keeps {place : Fin left.tasks.length} (moved : left.move peer place = some next) :
    next.surroundings.moments = left.surroundings.moments ∧
      next.surroundings.watched = left.surroundings.watched := by
  unfold move at moved
  split at moved
  case h_1 | h_2 => obtain rfl := Option.some.inj moved; exact ⟨rfl, rfl⟩
  case h_3 => split at moved <;> obtain rfl := Option.some.inj moved <;> exact ⟨rfl, rfl⟩
  case h_4 => obtain rfl := Option.some.inj moved; exact Surroundings.exchange_keeps
  case h_5 ticket program _ =>
    obtain rfl := Option.some.inj moved
    cases program with
    | done | write | look => exact ⟨rfl, rfl⟩
    | ask query rest =>
        simp only [advance]
        split <;> exact ⟨rfl, rfl⟩
    | pause milliseconds rest =>
        simp only [advance]
        split
        · exact ⟨rfl, rfl⟩
        · split <;> exact ⟨rfl, rfl⟩
  case h_6 => cases moved

theorem step_steady (stepped : left.step peer = some next) (steady : left.surroundings.Steady) :
    next.surroundings.Steady ∧
      (left.surroundings.watched → next.surroundings.watched) := by
  obtain ⟨place, moved⟩ | ⟨moment, later, first, rfl⟩ := step_cases stepped
  · obtain ⟨moments, watched⟩ := move_keeps moved
    rw [Surroundings.Steady, moments, watched]
    exact ⟨steady, id⟩
  · exact steady.take first

theorem Reaches.steady {later : Batch I σ α} (reaches : Reaches peer left later)
    (steady : left.surroundings.Steady) : later.surroundings.Steady := by
  induction reaches with
  | refl => exact steady
  | tail _ stepped ih => exact (step_steady stepped ih).1

theorem untiedWhenLeft_of_steady (steady : left.surroundings.Steady) :
    left.UntiedWhenLeft peer := by
  intro middle next reaches stepped watched unwatched
  have still := (step_steady stepped (reaches.steady steady)).2 watched
  rw [unwatched] at still
  cases still

end Batch

/-- As far as the work is done side by side. -/
def Undertaking.UntiedWhenLeft {β : Type} (undertaking : Undertaking I β α) (peer : Peer I σ)
    (surroundings : Surroundings I σ) : Prop :=
  match undertaking with
  | alone _ => True
  | together limit programs _ => (Batch.start surroundings limit programs).UntiedWhenLeft peer

theorem Undertaking.run_walk {β : Type} {limit : Nat} {programs : List (Program I β)}
    {conclude : List β → Program I α} {peer : Peer I σ} {surroundings : Surroundings I σ}
    (steps : Nat) (ended : (((Batch.start surroundings limit programs).walk peer steps).step
      peer).isNone) :
    (together limit programs conclude).run peer surroundings =
      let batch := (Batch.start surroundings limit programs).walk peer steps
      (conclude batch.results).run peer 0 batch.surroundings := by
  rw [run, Batch.run_eq_walk steps ended]

theorem Undertaking.requested_run {β : Type} {undertaking : Undertaking I β α}
    {peer : Peer I σ} {surroundings : Surroundings I σ} (raised : surroundings.requested) :
    (undertaking.run peer surroundings).2.requested := by
  cases undertaking with
  | alone program => exact Program.requested_run raised
  | together limit programs conclude =>
      exact Program.requested_run ((Batch.reaches_run _ peer).leads.signal raised)

theorem Program.run_steady {program : Program I α} {peer : Peer I σ}
    {surroundings : Surroundings I σ} (steady : surroundings.Steady) :
    (program.run peer 0 surroundings).2.Steady := by
  obtain ⟨-, same⟩ := Batch.run_single program peer surroundings
  have start : (Batch.start surroundings 1 [program]).surroundings.Steady := steady
  exact same ▸ (Batch.reaches_run _ peer).steady start

theorem Undertaking.run_steady {β : Type} {undertaking : Undertaking I β α} {peer : Peer I σ}
    {surroundings : Surroundings I σ} (steady : surroundings.Steady) :
    undertaking.UntiedWhenLeft peer surroundings ∧ (undertaking.run peer surroundings).2.Steady := by
  cases undertaking with
  | alone program => exact ⟨trivial, Program.run_steady steady⟩
  | together limit programs conclude =>
      have start : (Batch.start surroundings limit programs).surroundings.Steady := steady
      exact ⟨Batch.untiedWhenLeft_of_steady start,
        Program.run_steady ((Batch.reaches_run _ peer).steady start)⟩

theorem Undertaking.run_unsignalled {β : Type} {undertaking : Undertaking I β α}
    {peer : Peer I σ} {surroundings : Surroundings I σ}
    (calm : (undertaking.run peer surroundings).2.requested = false)
    (untied : undertaking.UntiedWhenLeft peer surroundings) :
    undertaking.run peer surroundings.unsignalled =
      ((undertaking.run peer surroundings).1,
        (undertaking.run peer surroundings).2.unsignalled) := by
  cases undertaking with
  | alone program => exact Program.run_unsignalled calm
  | together limit programs conclude =>
      let batch := (Batch.start surroundings limit programs).run peer
      have before : batch.surroundings.requested = false :=
        Surroundings.calm_of_grows Program.requested_run calm
      obtain ⟨same, results⟩ := Batch.run_unsignalled before untied
      rw [run, same, results]
      exact Program.run_unsignalled calm

end Tenancy
