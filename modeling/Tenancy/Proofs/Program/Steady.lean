import Tenancy.Proofs.Program.Asking

/-!
Steady programs: the stretches between two checkpoints. They never look at the shutdown signal; a
pause that tells of a request cancels them on the spot; and they fail in known ways only, as long as
the answers are as expected.
-/

namespace Tenancy

variable {I : Interface} {α β : Type}

def Sight.passes : Sight I → Bool
  | .looked false => true
  | .looked true | .asked .. | .paused .. => false

def Trail.passed (trail : Trail I) : Nat := trail.countP Sight.passes

theorem Trail.passed_append (first second : Trail I) :
    passed (first ++ second) = first.passed + second.passed :=
  List.countP_append

theorem Trail.passed_cons {sight : Sight I} {trail : Trail I} (stays : sight.passes = false) :
    passed (sight :: trail) = trail.passed :=
  List.countP_cons_of_neg (by simp [stays])

theorem Trail.passed_looked (trail : Trail I) :
    passed (.looked false :: trail) = trail.passed + 1 :=
  List.countP_cons_of_pos rfl

theorem Trail.passed_of_tells {trail : Trail I} (tells : trail.Tells true) : trail.passed = 0 := by
  refine List.countP_eq_zero.mpr fun sight member passes => ?_
  match sight with
  | .looked false => cases tells _ member false rfl
  | .looked true | .asked .. | .paused .. => cases passes

namespace Program

def Steady (Expected : Sight Backend → Prop) (Fails : TenantError → Prop) :
    Program Backend (Except TenantError α) → Prop
  | .done result => ∀ failure, result = .error failure → Fails failure
  | .write _ next => next.Steady Expected Fails
  | .ask request next =>
      ∀ answer, Expected (.asked request answer) → (next answer).Steady Expected Fails
  | .pause _ next =>
      (∃ host partition, next true = .done (.error (.cancelled host partition)) ∧
        Fails (.cancelled host partition)) ∧ (next false).Steady Expected Fails
  | .look _ => False

variable {Expected : Sight Backend → Prop} {Fails : TenantError → Prop}
  {program : Program Backend (Except TenantError α)} {trail : Trail Backend}
  {result : Except TenantError α}

def Ceases (result : Except TenantError α) (trail : Trail Backend) : Prop :=
  ∀ before sight after, trail = before ++ sight :: after → sight.told? = some true →
    after = [] ∧ ∃ host partition, result = .error (.cancelled host partition)

theorem ceases_of_tells (calm : trail.Tells false) : Ceases result trail := by
  rintro before sight after rfl told
  cases calm sight (by simp) true told

theorem ceases_cons {sight : Sight Backend} (calm : sight.told? ≠ some true)
    (ceases : Ceases result trail) : Ceases result (sight :: trail) := by
  intro before own after same told
  cases before with
  | nil =>
      obtain ⟨rfl, -⟩ := List.cons.inj same
      exact absurd told calm
  | cons first before =>
      obtain ⟨-, rest⟩ := List.cons.inj same
      exact ceases before own after rest told

theorem ceases_of_cancelled {sight : Sight Backend} {host partition : String} :
    Ceases (.error (.cancelled host partition) : Except TenantError α) [sight] := by
  intro before own after same told
  cases before with
  | nil =>
      obtain ⟨-, rfl⟩ := List.cons.inj same
      exact ⟨rfl, host, partition, rfl⟩
  | cons first before => simp at same

structure Conduct (Fails : TenantError → Prop) (trail : Trail Backend)
    (result : Except TenantError α) : Prop where
  passed : trail.passed = 0
  ceases : Ceases result trail
  fails : ∀ failure, result = .error failure → Fails failure

theorem Conduct.cons {sight : Sight Backend} (conduct : Conduct Fails trail result)
    (calm : sight.told? ≠ some true) (stays : sight.passes = false) :
    Conduct Fails (sight :: trail) result :=
  ⟨(Trail.passed_cons stays).trans conduct.passed, ceases_cons calm conduct.ceases,
    conduct.fails⟩

theorem Steady.conduct (steady : program.Steady Expected Fails)
    (taken : program.Yields trail result) (expected : ∀ sight ∈ trail, Expected sight) :
    Conduct Fails trail result := by
  induction program generalizing trail with
  | done own =>
      obtain ⟨rfl, rfl⟩ := taken
      exact ⟨rfl, ceases_of_tells (List.forall_mem_nil _), steady⟩
  | write event next ih => exact ih steady taken expected
  | ask request next ih =>
      obtain ⟨answer, later, rfl, taken⟩ := taken
      rw [List.forall_mem_cons] at expected
      have rest := ih answer (steady answer expected.1) taken expected.2
      exact rest.cons (by simp [Sight.told?]) rfl
  | pause milliseconds next ih =>
      obtain ⟨requested, later, rfl, taken⟩ := taken
      obtain ⟨⟨host, partition, ends, cancels⟩, steady⟩ := steady
      rw [List.forall_mem_cons] at expected
      cases requested with
      | false => exact (ih false steady taken expected.2).cons (by simp [Sight.told?]) rfl
      | true =>
          rw [ends] at taken
          obtain ⟨rfl, rfl⟩ := taken
          exact ⟨rfl, ceases_of_cancelled, fun failure same => Except.error.inj same ▸ cancels⟩
  | look next => exact steady.elim

theorem Steady.passed_of_asks {query : Request} (steady : program.Steady Expected Fails)
    (asked : program.Asks trail query) (expected : ∀ sight ∈ trail, Expected sight) :
    trail.passed = 0 := by
  induction program generalizing trail with
  | done result => exact asked.elim
  | write event next ih => exact ih steady asked expected
  | ask request next ih =>
      obtain ⟨rfl, -⟩ | ⟨answer, later, rfl, asked⟩ := asked
      · rfl
      · rw [List.forall_mem_cons] at expected
        rw [Trail.passed_cons rfl]
        exact ih answer (steady answer expected.1) asked expected.2
  | pause milliseconds next ih =>
      obtain ⟨requested, later, rfl, asked⟩ := asked
      obtain ⟨⟨host, partition, ends, -⟩, steady⟩ := steady
      rw [List.forall_mem_cons] at expected
      cases requested with
      | false =>
          rw [Trail.passed_cons rfl]
          exact ih false steady asked expected.2
      | true =>
          rw [ends] at asked
          exact asked.elim
  | look next => exact steady.elim

theorem ceases_append {first second : Trail Backend} (calm : first.Tells false)
    (ceases : Ceases result second) : Ceases result (first ++ second) := by
  intro before sight after same told
  obtain ⟨middle, -, rest⟩ | ⟨middle, rfl, -⟩ := Trail.append_eq_cut.mp same
  · exact ceases middle sight after rest told
  · cases calm sight (by simp) true told

theorem Ceases.error {failure : TenantError}
    (ceases : Ceases (.error failure : Except TenantError α) trail) :
    Ceases (.error failure : Except TenantError β) trail := by
  intro before sight after same told
  obtain ⟨rfl, host, partition, cancelled⟩ := ceases before sight after same told
  exact ⟨rfl, host, partition, congrArg Except.error (Except.error.inj cancelled)⟩

theorem Ceases.calm (ceases : Ceases result trail)
    (goes : ∀ host partition, result ≠ .error (.cancelled host partition)) :
    trail.Tells false := by
  intro sight member told same
  cases told with
  | false => rfl
  | true =>
      obtain ⟨before, after, rfl⟩ := List.append_of_mem member
      obtain ⟨-, host, partition, cancelled⟩ := ceases before sight after rfl same
      exact absurd cancelled (goes host partition)

end Program

namespace Action

variable {Expected : Sight Backend → Prop} {Fails : TenantError → Prop} {action : Action α}
  {rest : α → Action β}

abbrev Steady (Expected : Sight Backend → Prop) (Fails : TenantError → Prop)
    (action : Action α) : Prop :=
  Program.Steady Expected Fails action.run

theorem steady_pure (value : α) : (pure value : Action α).Steady Expected Fails :=
  fun _ same => nomatch same

theorem steady_throw {failure : TenantError} (fails : Fails failure) :
    (throw failure : Action α).Steady Expected Fails := by
  intro own same
  obtain rfl := Except.error.inj same
  exact fails

theorem Steady.bind (first : action.Steady Expected Fails)
    (later : ∀ value, (rest value).Steady Expected Fails) :
    (action >>= rest).Steady Expected Fails := by
  rw [Steady, run_bind]
  have goes (program : Program Backend (Except TenantError α))
      (steady : program.Steady Expected Fails) :
      (program.bind (andThen rest)).Steady Expected Fails := by
    induction program with
    | done result =>
        cases result with
        | ok value => exact later value
        | error failure => exact fun own same => steady own (by cases same; rfl)
    | write event next ih => exact ih steady
    | ask request next ih => exact fun answer expected => ih answer (steady answer expected)
    | pause milliseconds next ih =>
        obtain ⟨⟨host, partition, ends, cancels⟩, steady⟩ := steady
        refine ⟨⟨host, partition, ?_, cancels⟩, ih false steady⟩
        exact congrArg (Program.bind · (andThen rest)) ends
    | look next => exact steady.elim
  exact goes action.run first

theorem steady_ask_bind {request : Request} {rest : request.Answer → Action β}
    (later : ∀ answer, Expected (.asked request answer) → (rest answer).Steady Expected Fails) :
    (ask request >>= rest).Steady Expected Fails := by
  rw [Steady, run_bind]
  exact later

theorem steady_pause_bind {milliseconds : Nat} {rest : Bool → Action β} {host partition : String}
    (cancels : Fails (.cancelled host partition))
    (cancelled : rest true = throw (.cancelled host partition))
    (later : (rest false).Steady Expected Fails) :
    (pause milliseconds >>= rest).Steady Expected Fails := by
  rw [Steady, run_bind]
  exact ⟨⟨host, partition, congrArg ExceptT.run cancelled, cancels⟩, later⟩

theorem steady_note {level : Level} {origin : Origin} {message : String} :
    (note level origin message).Steady Expected Fails :=
  fun _ same => nomatch same

end Action

end Tenancy
