import Tenancy.Proofs.Batch.Course

/-!
The window of a batch. Programs are started one by one in their order, and at most as many of them
are started and not yet handed over as the limit allows.
-/

namespace Tenancy

variable {I : Interface} {σ α : Type}

theorem Task.isUnstarted_queueAnew (ticket round : Nat) (task : Task I α) :
    (task.queueAnew ticket round).isUnstarted = task.isUnstarted := by
  cases task <;> rfl

theorem Task.result?_queueAnew (ticket round : Nat) (task : Task I α) :
    (task.queueAnew ticket round).result? = task.result? := by
  cases task <;> rfl

theorem le_length_takeWhile_iff {τ : Type} {holds : τ → Bool} {entries : List τ} {count : Nat} :
    count ≤ (entries.takeWhile holds).length ↔
      ∀ place < count, ∃ entry, entries[place]? = some entry ∧ holds entry := by
  induction entries generalizing count with
  | nil =>
      cases count with
      | zero => simp
      | succ count =>
          simp only [List.takeWhile_nil, List.length_nil]
          constructor
          · omega
          · intro all
            obtain ⟨entry, found, -⟩ := all 0 (Nat.zero_lt_succ count)
            cases found
  | cons entry entries ih =>
      cases count with
      | zero => simp
      | succ count =>
          rw [List.takeWhile_cons]
          split
          next first =>
            rw [List.length_cons, Nat.add_le_add_iff_right, ih]
            constructor
            · intro rest place low
              cases place with
              | zero => exact ⟨entry, rfl, first⟩
              | succ place => exact rest place (by omega)
            · exact fun all place low => all (place + 1) (by omega)
          next first =>
            simp only [List.length_nil]
            constructor
            · omega
            · intro all
              obtain ⟨found, same, holds⟩ := all 0 (Nat.zero_lt_succ count)
              obtain rfl := Option.some.inj same
              exact absurd holds first

namespace Batch

def started (batch : Batch I σ α) : Nat :=
  batch.tasks.countP (!·.isUnstarted)

def underWay (batch : Batch I σ α) : Nat :=
  batch.tasks.countP fun task => !task.isUnstarted && task.result?.isNone

structure Windowed (programs : List (Program I α)) (batch : Batch I σ α) : Prop where
  begun : ∀ (place : Nat) (task : Task I α), batch.tasks[place]? = some task →
    place < batch.started → task.isUnstarted = false
  waiting : ∀ place : Nat, batch.started ≤ place →
    batch.tasks[place]? = programs[place]?.map .unstarted
  room : batch.started ≤ batch.handedOver + batch.limit

variable {batch next later : Batch I σ α} {peer : Peer I σ} {programs : List (Program I α)}

theorem le_handedOver_iff {count : Nat} :
    count ≤ batch.handedOver ↔
      ∀ place < count, ∃ task, batch.tasks[place]? = some task ∧ task.result?.isSome :=
  le_length_takeWhile_iff

theorem Windowed.underWay_le (windowed : Windowed programs batch) : batch.underWay ≤ batch.limit := by
  have behind : batch.handedOver ≤ batch.tasks.countP fun task => task.result?.isSome := by
    rw [handedOver, ← List.countP_eq_length.mpr (List.all_eq_true.mp List.all_takeWhile)]
    exact (List.takeWhile_sublist _).countP_le
  have parts : batch.started = batch.underWay +
      batch.tasks.countP fun task => task.result?.isSome := by
    rw [started, List.countP_eq_countP_filter_add _ _ (fun task => task.result?.isNone),
      List.countP_filter, List.countP_filter]
    refine congrArg (batch.underWay + ·) (List.countP_congr fun task _ => ?_)
    cases task <;> simp [Task.isUnstarted, Task.result?]
  have room := windowed.room
  omega

theorem all_handedOver (ended : ∀ task ∈ batch.tasks, task.result?.isSome) :
    batch.started = batch.tasks.length ∧ batch.handedOver = batch.tasks.length := by
  constructor
  · refine List.countP_eq_length.mpr fun task member => ?_
    have finished := ended task member
    cases task with
    | unstarted program => cases finished
    | ready | waiting | due | pausing | ended => rfl
  · refine Nat.le_antisymm (List.takeWhile_sublist _).length_le (le_handedOver_iff.mpr ?_)
    exact fun place low => ⟨_, List.getElem?_eq_getElem low, ended _ (List.getElem_mem low)⟩

theorem started_put (place : Fin batch.tasks.length) {task : Task I α}
    {surroundings : Surroundings I σ} (begun : task.isUnstarted = false) :
    (batch.put place task surroundings).started =
      batch.started + if (batch.tasks.get place).isUnstarted then 1 else 0 := by
  have counted := List.boole_getElem_le_countP (p := fun task : Task I α => !task.isUnstarted)
    place.isLt
  rw [started, put, List.countP_set place.isLt]
  rw [List.get_eq_getElem]
  cases old : batch.tasks[place.val].isUnstarted with
  | true => simp [begun, started]
  | false =>
      simp only [old, Bool.not_false, if_true] at counted
      simp only [begun, started, Bool.not_false, if_true, Bool.false_eq_true, if_false]
      omega

theorem handedOver_put (place : Fin batch.tasks.length) {task : Task I α}
    {surroundings : Surroundings I σ} (running : (batch.tasks.get place).result? = none) :
    batch.handedOver ≤ (batch.put place task surroundings).handedOver := by
  rw [le_handedOver_iff]
  intro other low
  obtain ⟨ended, found, result⟩ := le_handedOver_iff.mp (Nat.le_refl batch.handedOver) other low
  have apart : place.val ≠ other := by
    rintro rfl
    rw [List.getElem?_eq_getElem place.isLt] at found
    obtain rfl := Option.some.inj found
    rw [List.get_eq_getElem] at running
    rw [running] at result
    cases result
  refine ⟨ended, ?_, result⟩
  rw [put, List.getElem?_set_ne apart]
  exact found

theorem running_of_move {place : Fin batch.tasks.length}
    (moved : batch.move peer place = some next) : (batch.tasks.get place).result? = none := by
  cases task : batch.tasks.get place with
  | ended result =>
      rw [move, task] at moved
      cases moved
  | unstarted | ready | waiting | due | pausing => rfl

theorem isUnstarted_requeue (moment : Moment) (place : Nat) (task : Task I α) :
    (batch.requeue moment place task).isUnstarted = task.isUnstarted := by
  obtain same | same := batch.requeue_cases moment place task
  · rw [same]
  · rw [same, Task.isUnstarted_queueAnew]

theorem started_happen (moment : Moment) (later : List Moment) :
    (batch.happen moment later).started = batch.started := by
  have same : (batch.happen moment later).tasks.map Task.isUnstarted =
      batch.tasks.map Task.isUnstarted :=
    map_requeue (fun task ticket round => task.isUnstarted_queueAnew ticket round) batch moment
  have count (tasks : List (Task I α)) : tasks.countP (!·.isUnstarted) =
      (tasks.map Task.isUnstarted).countP (!·) := by
    rw [List.countP_map]
    rfl
  rw [started, started, count, count, same]

theorem handedOver_happen (moment : Moment) (later : List Moment) :
    (batch.happen moment later).handedOver = batch.handedOver := by
  have same : (batch.happen moment later).tasks.map Task.result? = batch.tasks.map Task.result? :=
    map_requeue (fun task ticket round => task.result?_queueAnew ticket round) batch moment
  have length (tasks : List (Task I α)) : (tasks.takeWhile (·.result?.isSome)).length =
      ((tasks.map Task.result?).takeWhile Option.isSome).length := by
    rw [List.takeWhile_map, List.length_map]
    rfl
  rw [handedOver, handedOver, length, length, same]

theorem Windowed.startPlace (windowed : Windowed programs batch)
    {place : Fin batch.tasks.length} (start : batch.startPlace? = some place) :
    place.val = batch.started ∧ (batch.tasks.get place).isUnstarted ∧
      batch.started < batch.handedOver + batch.limit := by
  obtain ⟨found, room⟩ := Option.filter_eq_some_iff.mp start
  obtain ⟨unstarted, first⟩ := List.findFinIdx?_eq_some_iff.mp found
  have same : place.val = batch.started := by
    refine Nat.le_antisymm (Nat.le_of_not_lt fun before => ?_) (Nat.le_of_not_lt fun before => ?_)
    · have low := Nat.lt_trans before place.isLt
      have waits := windowed.waiting batch.started (Nat.le_refl _)
      rw [List.getElem?_eq_getElem low] at waits
      obtain ⟨program, -, same⟩ := Option.map_eq_some_iff.mp waits.symm
      refine first ⟨batch.started, low⟩ before ?_
      rw [Fin.getElem_fin, ← same]
      rfl
    · have begun := windowed.begun place _ (List.getElem?_eq_getElem place.isLt) before
      exact Bool.false_ne_true (begun.symm.trans unstarted)
  exact ⟨same, unstarted, same ▸ of_decide_eq_true room⟩

theorem Windowed.lt_started (windowed : Windowed programs batch) {place : Nat} {task : Task I α}
    (found : batch.tasks[place]? = some task) (begun : task.isUnstarted = false) :
    place < batch.started := by
  refine Nat.lt_of_not_le fun late => ?_
  rw [windowed.waiting place late] at found
  obtain ⟨program, -, rfl⟩ := Option.map_eq_some_iff.mp found
  cases begun

theorem step_moves (stepped : batch.step peer = some next) :
    (∃ place, batch.move peer place = some next ∧
        (batch.startPlace? = some place ∨ (batch.tasks.get place).isUnstarted = false)) ∨
      ∃ moment later, next = batch.happen moment later := by
  have begun {κ : Type} {before : κ → κ → Bool} {key : Task I α → Option κ}
      {place : Fin batch.tasks.length}
      (found : firstPlace? before key batch.tasks = some place)
      (keyless : ∀ program, key (.unstarted program) = none) :
      (batch.tasks.get place).isUnstarted = false := by
    have keyed := firstPlace?_key found
    cases task : batch.tasks.get place with
    | unstarted program => exact absurd (keyless program) (task ▸ keyed)
    | ready | waiting | due | pausing | ended => rfl
  cases step_picks stepped with
  | starts found moved => exact .inl ⟨_, moved, .inl found⟩
  | wakes _ found moved | goes _ _ found moved | sleeps _ found _ moved =>
      exact .inl ⟨_, moved, .inr (begun found fun _ => rfl)⟩
  | happens => exact .inr ⟨_, _, rfl⟩

theorem Windowed.put (windowed : Windowed programs batch) {place : Fin batch.tasks.length}
    {task : Task I α} {surroundings : Surroundings I σ} {count : Nat}
    (running : (batch.tasks.get place).result? = none) (begun : task.isUnstarted = false)
    (counted : (batch.put place task surroundings).started = count) (own : place.val < count)
    (others : ∀ other < count, other ≠ place.val → other < batch.started)
    (low : batch.started ≤ count) (room : count ≤ batch.handedOver + batch.limit) :
    Windowed programs (batch.put place task surroundings) := by
  refine ⟨fun other found known before => ?_, fun other late => ?_, ?_⟩
  · rw [Batch.put, List.getElem?_set] at known
    split at known
    · rw [if_pos place.isLt] at known
      obtain rfl := Option.some.inj known
      exact begun
    · exact windowed.begun other found known (others other (counted ▸ before) (by omega))
  · rw [counted] at late
    rw [Batch.put, List.getElem?_set_ne (by omega)]
    exact windowed.waiting other (by omega)
  · rw [counted]
    exact Nat.le_trans room (Nat.add_le_add_right (handedOver_put place running) _)

/-- A step starts one program at most, the next one in their order. -/
theorem Windowed.step (windowed : Windowed programs batch)
    (stepped : batch.step peer = some next) :
    Windowed programs next ∧ (next.started = batch.started ∨ next.started = batch.started + 1) := by
  obtain ⟨place, moved, origin⟩ | ⟨moment, later, rfl⟩ := step_moves stepped
  · have running := running_of_move moved
    obtain ⟨task, surroundings, rfl, begun, -⟩ := move_puts moved
    have counted : (batch.put place task surroundings).started = _ := started_put place begun
    obtain start | old := origin
    · obtain ⟨same, unstarted, room⟩ := windowed.startPlace start
      rw [if_pos unstarted] at counted
      exact ⟨windowed.put running begun counted (by omega) (by omega) (by omega) room, .inr counted⟩
    · have low := windowed.lt_started (List.getElem?_eq_getElem place.isLt) old
      rw [old, if_neg Bool.false_ne_true, Nat.add_zero] at counted
      exact ⟨windowed.put running begun counted low (by omega) (by omega) windowed.room,
        .inl counted⟩
  · refine ⟨⟨?_, ?_, ?_⟩, .inl (started_happen moment later)⟩
    · intro place task found low
      rw [started_happen] at low
      rw [happen, List.getElem?_mapIdx, Option.map_eq_some_iff] at found
      obtain ⟨old, found, rfl⟩ := found
      rw [isUnstarted_requeue]
      exact windowed.begun place old found low
    · intro place late
      rw [started_happen] at late
      rw [happen, List.getElem?_mapIdx, windowed.waiting place late, Option.map_map]
      have same (program : Program I α) :
          batch.requeue moment place (.unstarted program) = .unstarted program := by
        obtain same | same := batch.requeue_cases moment place (.unstarted program) <;> exact same
      exact congrArg (Option.map · programs[place]?) (funext same)
    · rw [started_happen, handedOver_happen]
      exact windowed.room

theorem started_start (surroundings : Surroundings I σ) (limit : Nat)
    (programs : List (Program I α)) : (Batch.start surroundings limit programs).started = 0 := by
  refine List.countP_eq_zero.mpr fun task member => ?_
  obtain ⟨program, -, rfl⟩ := List.mem_map.mp member
  simp [Task.isUnstarted]

theorem windowed_start (surroundings : Surroundings I σ) (limit : Nat) :
    Windowed programs (Batch.start surroundings limit programs) := by
  have none := started_start surroundings limit programs
  refine ⟨fun place task found low => ?_, fun place _ => List.getElem?_map, ?_⟩
  · rw [none] at low
    exact absurd low (Nat.not_lt_zero place)
  · rw [none]
    exact Nat.zero_le _

theorem Reaches.windowed (reaches : Reaches peer batch later)
    (windowed : Windowed programs batch) : Windowed programs later := by
  induction reaches with
  | refl => exact windowed
  | tail _ stepped ih => exact (ih.step stepped).1

end Batch

end Tenancy
