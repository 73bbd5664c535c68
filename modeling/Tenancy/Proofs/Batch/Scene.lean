import Tenancy.Proofs.Batch.Single

/-!
Programs that share a peer and go on in any order: at each step one of them, whichever it is, does
its next atomic thing. There is no clock, nobody requests shutdown, and a pause may end at any time.
Every batch to which nobody requests shutdown is one of these orders.
-/

namespace Tenancy

variable {I : Interface} {σ α : Type}

/-- What is left of each program, the peer's state, and the record of queries, latest first. -/
structure Scene (I : Interface) (σ α : Type) where
  rests : List (Program I α)
  state : σ
  exchanges : List (Exchange I)

namespace Scene

def start (programs : List (Program I α)) (state : σ) : Scene I σ α := ⟨programs, state, []⟩

inductive Step (peer : Peer I σ) : Scene I σ α → Scene I σ α → Prop
  | write {rests state exchanges} {place : Nat} {event next}
      (found : rests[place]? = some (.write event next)) :
      Step peer ⟨rests, state, exchanges⟩ ⟨rests.set place next, state, exchanges⟩
  | ask {rests state exchanges} {place : Nat} {query next} (time : Nat)
      (found : rests[place]? = some (.ask query next)) :
      Step peer ⟨rests, state, exchanges⟩
        ⟨rests.set place (next (peer.respond query state).1), (peer.respond query state).2,
          ⟨time, place, query, (peer.respond query state).1⟩ :: exchanges⟩
  | pause {rests state exchanges} {place : Nat} {milliseconds next}
      (found : rests[place]? = some (.pause milliseconds next)) :
      Step peer ⟨rests, state, exchanges⟩ ⟨rests.set place (next false), state, exchanges⟩
  | look {rests state exchanges} {place : Nat} {next} (found : rests[place]? = some (.look next)) :
      Step peer ⟨rests, state, exchanges⟩ ⟨rests.set place (next false), state, exchanges⟩

def Reaches (peer : Peer I σ) : Scene I σ α → Scene I σ α → Prop :=
  Relation.ReflTransGen (Step peer)

def Ended (scene : Scene I σ α) : Prop := ∀ rest ∈ scene.rests, ∃ result, rest = .done result

variable {peer : Peer I σ} {origin : σ} {programs : List (Program I α)}
  {scene next later : Scene I σ α}

theorem Step.follows (step : Step peer scene next) :
    Batch.OneFollows next.rests scene.rests := by
  cases step with
  | write found =>
      obtain ⟨low, same⟩ := List.getElem?_eq_some_iff.mp found
      exact .set low (same ▸ .write _ _)
  | ask time found =>
      obtain ⟨low, same⟩ := List.getElem?_eq_some_iff.mp found
      exact .set low (same ▸ .ask _ _ _)
  | pause found =>
      obtain ⟨low, same⟩ := List.getElem?_eq_some_iff.mp found
      exact .set low (same ▸ .pause _ _ _)
  | look found =>
      obtain ⟨low, same⟩ := List.getElem?_eq_some_iff.mp found
      exact .set low (same ▸ .look _ _)

/-- Whatever the order, the programs cannot go on for ever. -/
theorem steps_wellFounded :
    WellFounded fun next scene : Scene I σ α => Step peer scene next :=
  Subrelation.wf Step.follows (InvImage.wf Scene.rests Batch.oneFollows_wellFounded)

theorem exists_step {place : Nat} {program : Program I α} (peer : Peer I σ)
    (found : scene.rests[place]? = some program) (left : ∀ result, program ≠ .done result) :
    ∃ next, Step peer scene next := by
  cases program with
  | done result => exact absurd rfl (left result)
  | write event next => exact ⟨_, .write found⟩
  | ask query next => exact ⟨_, .ask 0 found⟩
  | pause milliseconds next => exact ⟨_, .pause found⟩
  | look next => exact ⟨_, .look found⟩

theorem exists_ended (peer : Peer I σ) (scene : Scene I σ α) :
    ∃ later, Reaches peer scene later ∧ later.Ended := by
  induction scene using steps_wellFounded.induction (r := fun next scene => Step peer scene next) with
  | _ scene ih =>
      by_cases ended : scene.Ended
      · exact ⟨scene, .refl, ended⟩
      · obtain ⟨rest, member, left⟩ : ∃ rest ∈ scene.rests, ∀ result, rest ≠ .done result := by
          simpa [Ended] using ended
        obtain ⟨place, found⟩ := List.mem_iff_getElem?.mp member
        obtain ⟨next, step⟩ := exists_step peer found left
        obtain ⟨later, reaches, ended⟩ := ih next step
        exact ⟨later, .head step reaches, ended⟩

theorem Step.ended_kept (step : Step peer scene next) {place : Nat} {result : α}
    (ended : scene.rests[place]? = some (.done result)) :
    next.rests[place]? = some (.done result) := by
  have kept {other : Nat} {rest program : Program I α} (found : scene.rests[other]? = some program)
      (left : program ≠ .done result) :
      (scene.rests.set other rest)[place]? = some (.done result) := by
    have different : other ≠ place := by
      rintro rfl
      exact left (Option.some.inj (found.symm.trans ended))
    rw [List.getElem?_set_ne different, ended]
  cases step with
  | write found | ask time found | pause found | look found => exact kept found nofun

theorem Reaches.ended_kept (reaches : Reaches peer scene later) {place : Nat} {result : α}
    (ended : scene.rests[place]? = some (.done result)) :
    later.rests[place]? = some (.done result) := by
  induction reaches with
  | refl => exact ended
  | tail _ step ih => exact step.ended_kept ih

theorem Reaches.grown (reaches : Reaches peer scene later) :
    ∃ calls, later.exchanges = calls ++ scene.exchanges := by
  induction reaches with
  | refl => exact ⟨[], rfl⟩
  | tail _ step ih =>
      obtain ⟨calls, same⟩ := ih
      cases step with
      | write found | pause found | look found => exact ⟨calls, same⟩
      | ask time found => exact ⟨_ :: calls, congrArg (_ :: ·) same⟩

def Came (exchanges : List (Exchange I)) (place : Nat) (program rest : Program I α) : Prop :=
  ∃ trail : Trail I, trail.answers = Exchange.repliesTo place exchanges ∧ trail.Tells false ∧
    ∀ later result, rest.Yields later result → program.Yields (trail ++ later) result

theorem Came.sees {exchanges calls : List (Exchange I)} {place : Nat}
    {program middle rest : Program I α} (came : Came exchanges place program middle)
    {seen : Trail I} (replies : Exchange.repliesTo place calls = seen.answers)
    (tells : seen.Tells false)
    (goes : ∀ later result, rest.Yields later result → middle.Yields (seen ++ later) result) :
    Came (calls ++ exchanges) place program rest := by
  obtain ⟨trail, answers, told, takes⟩ := came
  refine ⟨trail ++ seen, ?_, Trail.tells_append.mpr ⟨told, tells⟩, fun later result ends => ?_⟩
  · rw [Trail.answers_append, Exchange.repliesTo_append, answers, replies]
  · rw [List.append_assoc]
    exact takes _ _ (goes later result ends)

structure Tracks (programs : List (Program I α)) (peer : Peer I σ) (origin : σ)
    (scene : Scene I σ α) : Prop where
  state : scene.state = peer.replay origin scene.exchanges
  answered : peer.Answered origin scene.exchanges
  length : scene.rests.length = programs.length
  askers : ∀ exchange ∈ scene.exchanges, exchange.asker < programs.length
  came : ∀ place program rest, programs[place]? = some program →
    scene.rests[place]? = some rest → Came scene.exchanges place program rest

theorem Tracks.came_set (tracks : Tracks programs peer origin scene) {moved : Nat}
    {middle after : Program I α} (calls : List (Exchange I)) (seen : Trail I)
    (found : scene.rests[moved]? = some middle) (own : ∀ call ∈ calls, call.asker = moved)
    (replies : Exchange.repliesTo moved calls = seen.answers) (tells : seen.Tells false)
    (goes : ∀ later result, after.Yields later result → middle.Yields (seen ++ later) result)
    (place : Nat) (program rest : Program I α) (known : programs[place]? = some program)
    (left : (scene.rests.set moved after)[place]? = some rest) :
    Came (calls ++ scene.exchanges) place program rest := by
  rw [List.getElem?_set] at left
  split at left
  next same =>
    subst same
    have low := (List.getElem?_eq_some_iff.mp found).1
    obtain rfl : after = rest := by simpa [low] using left
    exact (tracks.came moved program middle known found).sees replies tells goes
  next other =>
    have silent : Exchange.repliesTo place calls = Trail.answers ([] : Trail I) := by
      have none : calls.filter (·.asker = place) = [] := by
        refine List.filter_eq_nil_iff.mpr fun call member => ?_
        simp [own call member, other]
      simp [Exchange.repliesTo, none, Trail.answers]
    refine (tracks.came place program rest known left).sees silent (by simp [Trail.Tells]) ?_
    exact fun _ _ ends => ends

theorem Tracks.step (tracks : Tracks programs peer origin scene) (step : Step peer scene next) :
    Tracks programs peer origin next := by
  have length (place : Nat) (rest : Program I α) :
      (scene.rests.set place rest).length = programs.length := by
    rw [List.length_set, tracks.length]
  cases step with
  | write found =>
      refine ⟨tracks.state, tracks.answered, length _ _, tracks.askers, ?_⟩
      exact tracks.came_set [] [] found nofun rfl nofun fun _ _ ends => ends
  | @ask rests state exchanges place query next time found =>
      let answer := (peer.respond query state).1
      have same : peer.replay origin exchanges = state := tracks.state.symm
      have low : place < programs.length := by
        rw [← tracks.length]
        exact (List.getElem?_eq_some_iff.mp found).1
      refine ⟨?_, ⟨?_, tracks.answered⟩, length _ _, ?_, ?_⟩
      · rw [Peer.replay, same]
      · rw [same]
      · exact List.forall_mem_cons.mpr ⟨low, tracks.askers⟩
      · refine tracks.came_set [⟨time, place, query, answer⟩] [.asked query answer] found ?_ ?_ ?_ ?_
        · simp
        · simp [Exchange.repliesTo, Exchange.reply, Trail.answers]
        · simp [Trail.Tells, Sight.told?]
        · exact fun later result ends => ⟨answer, later, rfl, ends⟩
  | @pause _ _ _ place milliseconds next found =>
      refine ⟨tracks.state, tracks.answered, length _ _, tracks.askers, ?_⟩
      refine tracks.came_set [] [.paused milliseconds false] found nofun rfl ?_ ?_
      · simp [Trail.Tells, Sight.told?]
      · exact fun later result ends => ⟨false, later, rfl, ends⟩
  | look found =>
      refine ⟨tracks.state, tracks.answered, length _ _, tracks.askers, ?_⟩
      refine tracks.came_set [] [.looked false] found nofun rfl ?_ ?_
      · simp [Trail.Tells, Sight.told?]
      · exact fun later result ends => ⟨false, later, rfl, ends⟩

theorem tracks_start (programs : List (Program I α)) (peer : Peer I σ) (origin : σ) :
    Tracks programs peer origin (start programs origin) := by
  refine ⟨rfl, trivial, rfl, nofun, fun place program rest known left => ?_⟩
  obtain rfl : program = rest := Option.some.inj (known.symm.trans left)
  exact ⟨[], rfl, nofun, fun _ _ ends => ends⟩

theorem Reaches.tracks (reaches : Reaches peer (start programs origin) later) :
    Tracks programs peer origin later := by
  induction reaches with
  | refl => exact tracks_start programs peer origin
  | tail _ step ih => exact ih.step step

theorem Tracks.yields (tracks : Tracks programs peer origin scene) {place : Nat}
    {program : Program I α} {result : α} (known : programs[place]? = some program)
    (ended : scene.rests[place]? = some (.done result)) :
    ∃ trail : Trail I, program.Yields trail result ∧
      trail.answers = Exchange.repliesTo place scene.exchanges ∧ trail.Tells false := by
  obtain ⟨trail, answers, tells, takes⟩ := tracks.came place program _ known ended
  have taken := takes [] result ⟨rfl, rfl⟩
  rw [List.append_nil] at taken
  exact ⟨trail, taken, answers, tells⟩

theorem Tracks.makes (tracks : Tracks programs peer origin scene) (ended : scene.Ended)
    {later earlier : List (Exchange I)} {exchange : Exchange I}
    (cut : scene.exchanges = later ++ exchange :: earlier) :
    ∃ (place : Nat) (program : Program I α) (result : α), programs[place]? = some program ∧
      scene.rests[place]? = some (.done result) ∧ program.Makes result later exchange earlier := by
  have low := tracks.askers exchange (by simp [cut])
  have inside : exchange.asker < scene.rests.length := by rwa [tracks.length]
  obtain ⟨result, done⟩ := ended _ (List.getElem_mem inside)
  have known := List.getElem?_eq_getElem low
  have left : scene.rests[exchange.asker]? = some (.done result) := by
    rw [List.getElem?_eq_getElem inside, done]
  obtain ⟨trail, taken, answers, -⟩ := tracks.yields known left
  rw [cut] at answers
  exact ⟨exchange.asker, _, result, known, left, taken.makes _ answers (by simp)⟩

end Scene

namespace Batch

variable {peer : Peer I σ} {batch next : Batch I σ α}

def scene (batch : Batch I σ α) : Scene I σ α :=
  ⟨batch.rests, batch.surroundings.state, batch.surroundings.exchanges⟩

theorem put_scene (place : Fin batch.tasks.length) (task : Task I α)
    (surroundings : Surroundings I σ) :
    (batch.put place task surroundings).scene =
      ⟨batch.rests.set place task.rest, surroundings.state, surroundings.exchanges⟩ := by
  rw [scene, rests_put]
  rfl

theorem put_scene_of_same {place : Fin batch.tasks.length} {task : Task I α}
    {surroundings : Surroundings I σ} (same : task.rest = (batch.tasks.get place).rest)
    (state : surroundings.state = batch.surroundings.state)
    (exchanges : surroundings.exchanges = batch.surroundings.exchanges) :
    Scene.Reaches peer batch.scene (batch.put place task surroundings).scene := by
  obtain ⟨low, known⟩ := List.getElem?_eq_some_iff.mp (getElem?_rests place)
  rw [put_scene, same, ← known, List.set_getElem_self, state, exchanges]
  exact .refl

theorem put_scene_of_pause {place : Fin batch.tasks.length} {task : Task I α}
    {surroundings : Surroundings I σ} {milliseconds : Nat} {rest : Bool → Program I α}
    (found : (batch.tasks.get place).rest = .pause milliseconds rest) (goes : task.rest = rest false)
    (state : surroundings.state = batch.surroundings.state)
    (exchanges : surroundings.exchanges = batch.surroundings.exchanges) :
    Scene.Reaches peer batch.scene (batch.put place task surroundings).scene := by
  rw [put_scene, goes, state, exchanges]
  exact .single (.pause (by rw [getElem?_rests, found]))

theorem advance_scene (calm : batch.surroundings.requested = false)
    {place : Fin batch.tasks.length} {ticket : Nat} {program : Program I α}
    (task : batch.tasks.get place = .ready ticket program) :
    Scene.Reaches peer batch.scene (batch.advance peer place ticket program).scene := by
  have rest : (batch.tasks.get place).rest = program := by rw [task]; rfl
  have found := getElem?_rests place
  rw [rest] at found
  cases program with
  | done result => exact put_scene_of_same rest.symm rfl rfl
  | write event next =>
      rw [advance, put_scene]
      exact .single (.write found)
  | ask query next =>
      simp only [advance]
      split
      · exact put_scene_of_same rest.symm rfl rfl
      · exact put_scene_of_same rest.symm rfl rfl
  | pause milliseconds next =>
      simp only [advance, calm, Bool.false_eq_true, if_false]
      split
      · exact put_scene_of_pause rest rfl rfl rfl
      · exact put_scene_of_same rest.symm rfl rfl
  | look next =>
      rw [advance, put_scene, calm]
      exact .single (.look found)

theorem move_scene (calm : batch.surroundings.requested = false) {place : Fin batch.tasks.length}
    (moved : batch.move peer place = some next) : Scene.Reaches peer batch.scene next.scene := by
  unfold move at moved
  split at moved
  next program task =>
    obtain rfl := Option.some.inj moved
    exact put_scene_of_same (by rw [task]; rfl) rfl rfl
  next wake query rest task =>
    obtain rfl := Option.some.inj moved
    exact put_scene_of_same (by rw [task]; rfl) rfl rfl
  next wake milliseconds rest task =>
    rw [if_neg (by simp [calm])] at moved
    obtain rfl := Option.some.inj moved
    have found : (batch.tasks.get place).rest = .pause milliseconds rest := by rw [task]; rfl
    exact put_scene_of_pause found rfl rfl rfl
  next ticket query rest task =>
    obtain rfl := Option.some.inj moved
    rw [put_scene]
    exact .single (.ask batch.surroundings.now (by rw [getElem?_rests, task]; rfl))
  next ticket program task =>
    obtain rfl := Option.some.inj moved
    exact advance_scene calm task
  next => cases moved

/-- A batch without a shutdown signal takes its programs on in one of the orders there are. -/
theorem run_scene (absent : batch.surroundings.signal = none) :
    Scene.Reaches peer batch.scene (batch.run peer).scene := by
  fun_induction Batch.run batch peer with
  | case1 batch stuck => exact .refl
  | case2 batch next stepped ih =>
      have calm : batch.surroundings.requested = false := by
        rw [Surroundings.requested, absent]
        rfl
      obtain ⟨place, moved⟩ | ⟨moment, later, -, rfl⟩ := step_cases stepped
      · obtain ⟨task, surroundings, rfl, -, -, kept⟩ := move_puts moved
        exact (move_scene calm moved).trans (ih (kept absent))
      · have same : (batch.happen moment later).scene = batch.scene := by
          rw [scene, rests_happen]
          rfl
        rw [← same]
        exact ih (Option.map_eq_none_iff.mpr absent)

theorem start_run_scene (programs : List (Program I α)) (state : σ) (limit : Nat) :
    Scene.Reaches peer (.start programs state)
      ((Batch.start (.start state) limit programs).run peer).scene := by
  have begun : (Batch.start (.start state) limit programs).scene = .start programs state := by
    simp [scene, Scene.start, start, rests, Task.rest, Function.comp_def, Surroundings.start]
  rw [← begun]
  exact run_scene rfl

theorem ended_scene (room : 0 < batch.limit) : (batch.run peer).scene.Ended := by
  intro rest member
  rw [scene, rests_run peer room] at member
  obtain ⟨result, -, rfl⟩ := List.mem_map.mp member
  exact ⟨result, rfl⟩

end Batch

end Tenancy
