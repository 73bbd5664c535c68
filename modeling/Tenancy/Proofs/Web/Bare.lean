import Tenancy.Proofs.Batch.Course
import Tenancy.Proofs.Batch.Lockstep
import Tenancy.Web.Script

/-!
What is left of requests, of programs and of records if the accounts are taken out. To a peer that does
not look at accounts, work whose accounts are taken out is the same work: it ends with the same results
at the same times, and all that is written is the same.
-/

namespace Tenancy

open Web (Http HttpRequest)

variable {σ α β : Type} {view : σ → σ} {peer : Peer Http σ}

def Web.HttpRequest.bare (request : HttpRequest) : HttpRequest := { request with credentials := [] }

namespace Program

def bare : Program Http α → Program Http α
  | done result => done result
  | write event next => write event next.bare
  | ask (query : HttpRequest) next => ask query.bare fun answer => (next answer).bare
  | pause milliseconds next => pause milliseconds fun requested => (next requested).bare
  | look next => look fun requested => (next requested).bare

theorem bare_bind (program : Program Http α) (rest : α → Program Http β) :
    (program.bind rest).bare = program.bare.bind fun result => (rest result).bare := by
  induction program with
  | done result => rfl
  | write event next ih => simp only [bind, bare, ih]
  | ask query next ih | pause milliseconds next ih | look next ih => simp only [bind, bare, ih]

theorem bare_via {I : Interface} {client : (query : I.Query) → Program Http (I.Answer query)}
    (program : Program I α) :
    (program.via client).bare = program.via fun query => (client query).bare := by
  induction program with
  | done result => rfl
  | write event next ih => simp only [via, bare, ih]
  | ask query next ih => simp only [via, bare_bind, ih]
  | pause milliseconds next ih | look next ih => simp only [via, bare, ih]

end Program

def Exchange.bare (exchange : Exchange Http) : Exchange Http :=
  { exchange with query := HttpRequest.bare exchange.query }

def Surroundings.bare (view : σ → σ) (surroundings : Surroundings Http σ) : Surroundings Http σ :=
  { surroundings with
    state := view surroundings.state
    exchanges := surroundings.exchanges.map Exchange.bare }

/-- A peer that does the same whatever accounts it is told, but for what `view` takes out of its
state. -/
structure Peer.Blind (peer : Peer Http σ) (view : σ → σ) : Prop where
  latency : ∀ state (query : HttpRequest),
    peer.latency (view state) query.bare = peer.latency state query
  raises : ∀ earlier state (query : HttpRequest),
    peer.raises earlier (view state) query.bare = peer.raises earlier state query
  respond : ∀ (query : HttpRequest) state,
    peer.respond query.bare (view state) =
      ((peer.respond query state).1, view (peer.respond query state).2)

theorem Surroundings.raise_bare (surroundings : Surroundings Http σ) (notice : List Event) :
    (surroundings.bare view).raise notice = (surroundings.raise notice).bare view := by
  obtain ⟨state, now, signal, moments, exchanges, events⟩ := surroundings
  rcases signal with _ | ⟨raised, live⟩
  · rfl
  · cases raised <;> cases live <;> rfl

theorem Peer.Blind.exchange (blind : peer.Blind view) (surroundings : Surroundings Http σ)
    (asker : Nat) (query : HttpRequest) :
    (surroundings.bare view).exchange peer asker query.bare =
      ((surroundings.exchange peer asker query).1,
        (surroundings.exchange peer asker query).2.bare view) := by
  have raises : peer.raises (surroundings.bare view).exchanges.length (surroundings.bare view).state
      query.bare = peer.raises surroundings.exchanges.length surroundings.state query := by
    simp only [Surroundings.bare, List.length_map, blind.raises]
  have responds : peer.respond query.bare (surroundings.bare view).state = _ :=
    blind.respond query surroundings.state
  simp only [Surroundings.exchange, raises, responds, Surroundings.raise_bare]
  split
  · rfl
  · rfl

namespace Task

def bare : Task Http α → Task Http α
  | unstarted program => unstarted program.bare
  | ready ticket program => ready ticket program.bare
  | waiting ticket wake (query : HttpRequest) next =>
      waiting ticket wake query.bare fun answer => (next answer).bare
  | due ticket (query : HttpRequest) next => due ticket query.bare fun answer => (next answer).bare
  | pausing ticket wake milliseconds next =>
      pausing ticket wake milliseconds fun requested => (next requested).bare
  | ended result => ended result

variable (task : Task Http α)

theorem isUnstarted_bare : task.bare.isUnstarted = task.isUnstarted := by
  cases task <;> rfl

theorem result?_bare : task.bare.result? = task.result? := by
  cases task <;> rfl

theorem readyTicket?_bare : task.bare.readyTicket? = task.readyTicket? := by
  cases task <;> rfl

theorem wake?_bare : task.bare.wake? = task.wake? := by
  cases task <;> rfl

theorem wakesNow?_bare (now : Nat) (requested : Bool) :
    task.bare.wakesNow? now requested = task.wakesNow? now requested := by
  cases task <;> rfl

theorem queueAnew_bare (ticket round : Nat) :
    task.bare.queueAnew ticket round = (task.queueAnew ticket round).bare := by
  cases task <;> rfl

end Task

theorem firstPlace?_map {ε ζ κ : Type} (before : κ → κ → Bool) {key : ε → Option κ}
    {other : ζ → Option κ} {change : ε → ζ} (same : ∀ entry, other (change entry) = key entry)
    (entries : List ε) :
    (firstPlace? before key entries).map Fin.val =
      (firstPlace? before other (entries.map change)).map Fin.val := by
  refine @firstPlace?_alike ε ζ κ Eq before key other _ _ ?_ ?_
  · rw [List.forall₂_map_right_iff, List.forall₂_same]
    intro entry _
    rw [same]
    cases key entry with
    | none => exact .none
    | some own => exact .some rfl
  · rintro one _ one' _ rfl rfl
    rfl

namespace Batch

def bare (view : σ → σ) (batch : Batch Http σ α) : Batch Http σ α :=
  { batch with surroundings := batch.surroundings.bare view, tasks := batch.tasks.map Task.bare }

variable {batch next : Batch Http σ α}

theorem tasks_bare :
    List.Forall₂ (fun task other => other = task.bare) batch.tasks (batch.bare view).tasks := by
  rw [bare, List.forall₂_map_right_iff, List.forall₂_same]
  exact fun _ _ => rfl

theorem current?_bare :
    batch.current?.map Fin.val = (batch.bare view).current?.map Fin.val := by
  have wakes := firstPlace?_map earlier
    (fun task => Task.wakesNow?_bare task batch.surroundings.now batch.surroundings.requested)
    batch.tasks
  have goes := firstPlace?_map (fun one its => decide (one < its)) Task.readyTicket?_bare batch.tasks
  have starts : batch.startPlace?.map Fin.val = (batch.bare view).startPlace?.map Fin.val := by
    refine startPlace?_alike tasks_bare rfl ?_ ?_
    · rintro task _ rfl
      exact task.isUnstarted_bare.symm
    · rintro task _ rfl
      rw [task.result?_bare]
  simp only [Batch.current?, Option.orElse_eq_orElse, Option.orElse_eq_or, Option.map_or]
  rw [starts, wakes, goes]
  rfl

section

variable {place : Fin batch.tasks.length} {other : Fin (batch.bare view).tasks.length}

theorem get_bare (same : place.val = other.val) :
    (batch.bare view).tasks.get other = (batch.tasks.get place).bare :=
  forall₂_get tasks_bare same

theorem put_bare (same : place.val = other.val) (task : Task Http α)
    (surroundings : Surroundings Http σ) :
    (batch.bare view).put other task.bare (surroundings.bare view) =
      (batch.put place task surroundings).bare view := by
  simp only [put, bare, ← same, List.map_set]

theorem advance_bare (blind : peer.Blind view) (same : place.val = other.val) (ticket : Nat)
    (program : Program Http α) :
    (batch.bare view).advance peer other ticket program.bare =
      (batch.advance peer place ticket program).bare view := by
  cases program with
  | done result => exact put_bare same (.ended result) batch.surroundings
  | write event next => exact put_bare same (.ready ticket next) (batch.surroundings.write event)
  | look next =>
      exact put_bare same (.ready ticket (next batch.surroundings.requested)) batch.surroundings
  | ask query next =>
      have latency : peer.latency (batch.bare view).surroundings.state (HttpRequest.bare query) =
          peer.latency batch.surroundings.state query := blind.latency _ query
      simp only [Program.bare, advance, latency]
      split
      · exact put_bare same (.due ticket query next) batch.surroundings
      · exact put_bare same (.waiting batch.ticket _ query next) batch.surroundings
  | pause milliseconds next =>
      simp only [Program.bare, advance]
      change (if batch.surroundings.requested then _ else _) = _
      split
      · exact put_bare same (.ready ticket (next true)) batch.surroundings
      · split
        · exact put_bare same (.ready ticket (next false)) batch.surroundings
        · exact put_bare same (.pausing batch.ticket _ milliseconds next) batch.surroundings

theorem move_bare (blind : peer.Blind view) (same : place.val = other.val) :
    (batch.bare view).move peer other = (batch.move peer place).map (bare view) := by
  rw [move, move, get_bare same]
  cases batch.tasks.get place with
  | unstarted program =>
      exact congrArg some (put_bare same (.ready batch.ticket program) batch.surroundings)
  | waiting ticket wake query next =>
      exact congrArg some (put_bare same (.due batch.ticket query next)
        { batch.surroundings with now := max batch.surroundings.now wake })
  | pausing ticket wake milliseconds next =>
      simp only [Task.bare]
      change (if batch.surroundings.requested then _ else _) = _
      split
      · exact congrArg some
          (put_bare same (.ready batch.ticket (next true)) batch.surroundings)
      · exact congrArg some (put_bare same (.ready batch.ticket (next false))
          { batch.surroundings with now := max batch.surroundings.now wake })
  | due ticket query next =>
      have answered : (batch.bare view).surroundings.exchange peer other (HttpRequest.bare query) =
          ((batch.surroundings.exchange peer place query).1,
            (batch.surroundings.exchange peer place query).2.bare view) := by
        rw [← same]
        exact blind.exchange batch.surroundings place query
      simp only [Task.bare, answered]
      exact congrArg some (put_bare same
        (.ready ticket (next (batch.surroundings.exchange peer place query).1)) _)
  | ready ticket program => exact congrArg some (advance_bare blind same ticket program)
  | ended result => rfl

end

theorem happen_bare (moment : Moment) (later : List Moment) :
    (batch.bare view).happen moment later = (batch.happen moment later).bare view := by
  have requeue (place : Nat) (task : Task Http α) :
      (batch.bare view).requeue moment place task.bare =
        (batch.requeue moment place task).bare := by
    rw [Batch.requeue, Batch.requeue, apply_ite Task.bare, Task.queueAnew_bare]
    rfl
  have requeued : (batch.tasks.map Task.bare).mapIdx ((batch.bare view).requeue moment) =
      (batch.tasks.mapIdx (batch.requeue moment)).map Task.bare := by
    refine List.ext_getElem? fun place => ?_
    simp only [List.getElem?_mapIdx, List.getElem?_map, Option.map_map, Function.comp_def, requeue]
  simp only [happen, bare] at requeued ⊢
  rw [requeued]
  rfl

theorem step_bare (blind : peer.Blind view) :
    (batch.bare view).step peer = (batch.step peer).map (bare view) := by
  unfold step
  cases current : batch.current? with
  | some place =>
      obtain ⟨other, found, same⟩ := eq_some_alike current?_bare current
      rw [found]
      exact move_bare blind same
  | none =>
      rw [eq_none_alike current?_bare current]
      have wakes : (firstPlace? earlier Task.wake? batch.tasks).map Fin.val =
          (firstPlace? earlier Task.wake? (batch.bare view).tasks).map Fin.val :=
        firstPlace?_map earlier Task.wake?_bare batch.tasks
      cases sleeper : firstPlace? earlier Task.wake? batch.tasks with
      | none =>
          rw [eq_none_alike wakes sleeper]
          rfl
      | some place =>
          obtain ⟨other, found, same⟩ := eq_some_alike wakes sleeper
          have moments : (batch.bare view).surroundings.moments = batch.surroundings.moments := rfl
          simp only [found, moments]
          cases batch.surroundings.moments with
          | nil => exact move_bare blind same
          | cons moment later =>
              simp only [get_bare same, Task.wake?_bare, move_bare blind same, happen_bare]
              split
              · rfl
              · rfl

theorem run_bare (blind : peer.Blind view) :
    (batch.bare view).run peer = (batch.run peer).bare view := by
  fun_induction Batch.run batch peer with
  | case1 batch stuck =>
      have stopped : (batch.bare view).step peer = none := by rw [step_bare blind, stuck]; rfl
      exact run_of_step_eq_none stopped
  | case2 batch next stepped ih =>
      have onward : (batch.bare view).step peer = some (next.bare view) := by
        rw [step_bare blind, stepped]
        rfl
      have reaches : Reaches peer (batch.bare view) (next.bare view) := .single onward
      rw [← reaches.run_eq, ih]

theorem results_bare : (batch.bare view).results = batch.results := by
  rw [results, bare, List.filterMap_map]
  exact congrArg (List.filterMap · batch.tasks) (funext Task.result?_bare)

end Batch

theorem Program.run_bare (blind : peer.Blind view) (program : Program Http α)
    (surroundings : Surroundings Http σ) :
    program.bare.run peer 0 (surroundings.bare view) =
      ((program.run peer 0 surroundings).1, (program.run peer 0 surroundings).2.bare view) := by
  obtain ⟨results, after⟩ := Batch.run_single program peer surroundings
  obtain ⟨results', after'⟩ := Batch.run_single program.bare peer (surroundings.bare view)
  have same : ((Batch.start surroundings 1 [program]).bare view).run peer = _ := Batch.run_bare blind
  have started : (Batch.start surroundings 1 [program]).bare view =
      Batch.start (surroundings.bare view) 1 [program.bare] := rfl
  rw [← started, same, Batch.results_bare, results, List.singleton_inj] at results'
  rw [← started, same, Batch.bare, after] at after'
  exact Prod.ext results'.symm after'.symm

namespace Undertaking

def bare : Undertaking Http β α → Undertaking Http β α
  | alone program => alone program.bare
  | together limit programs conclude =>
      together limit (programs.map Program.bare) fun results => (conclude results).bare

theorem bare_via {I : Interface} {client : (query : I.Query) → Program Http (I.Answer query)}
    (undertaking : Undertaking I β α) :
    (undertaking.via client).bare = undertaking.via fun query => (client query).bare := by
  cases undertaking with
  | alone program => exact congrArg alone program.bare_via
  | together limit programs conclude =>
      simp only [via, bare, List.map_map, Function.comp_def, Program.bare_via]

theorem run_bare (blind : peer.Blind view) (undertaking : Undertaking Http β α)
    (surroundings : Surroundings Http σ) :
    undertaking.bare.run peer (surroundings.bare view) =
      ((undertaking.run peer surroundings).1, (undertaking.run peer surroundings).2.bare view) := by
  cases undertaking with
  | alone program => exact program.run_bare blind surroundings
  | together limit programs conclude =>
      have started : Batch.start (surroundings.bare view) limit (programs.map Program.bare) =
          (Batch.start surroundings limit programs).bare view := by
        simp only [Batch.start, Batch.bare, List.map_map]
        rfl
      simp only [bare, run, started, Batch.run_bare blind, Batch.results_bare]
      exact (conclude _).run_bare blind _

end Undertaking

end Tenancy
