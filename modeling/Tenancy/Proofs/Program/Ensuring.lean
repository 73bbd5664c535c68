import Tenancy.Proofs.Program.Trail

/-!
What a program ensures of its result, as long as all that it sees is as expected.
-/

namespace Tenancy

namespace Program

variable {I : Interface} {α β : Type} {Expected : Sight I → Prop}

def Ensures (Expected : Sight I → Prop) (Holds : α → Prop) : Program I α → Prop
  | done result => Holds result
  | write _ next => next.Ensures Expected Holds
  | ask query next => ∀ answer, Expected (.asked query answer) → (next answer).Ensures Expected Holds
  | pause milliseconds next =>
      ∀ requested, Expected (.paused milliseconds requested) →
        (next requested).Ensures Expected Holds
  | look next =>
      ∀ requested, Expected (.looked requested) → (next requested).Ensures Expected Holds

theorem Yields.ensured {program : Program I α} {trail : Trail I} {result : α} {Holds : α → Prop}
    (taken : program.Yields trail result) (ensures : program.Ensures Expected Holds)
    (expected : ∀ sight ∈ trail, Expected sight) : Holds result := by
  induction program generalizing trail with
  | done result =>
      obtain ⟨-, rfl⟩ := taken
      exact ensures
  | write event next ih => exact ih taken ensures expected
  | ask query next ih | pause milliseconds next ih | look next ih =>
      obtain ⟨seen, later, rfl, taken⟩ := taken
      rw [List.forall_mem_cons] at expected
      exact ih seen taken (ensures seen expected.1) expected.2

theorem ensures_bind_iff {program : Program I α} {rest : α → Program I β} {Holds : β → Prop} :
    (program.bind rest).Ensures Expected Holds ↔
      program.Ensures Expected fun result => (rest result).Ensures Expected Holds := by
  induction program with
  | done result => exact Iff.rfl
  | write event next ih => exact ih
  | ask query next ih | pause milliseconds next ih | look next ih =>
      exact forall_congr' fun seen => imp_congr_right fun _ => ih seen

theorem Ensures.mono {program : Program I α} {Holds More : α → Prop}
    (ensures : program.Ensures Expected Holds) (implies : ∀ result, Holds result → More result) :
    program.Ensures Expected More := by
  induction program with
  | done result => exact implies result ensures
  | write event next ih => exact ih ensures
  | ask query next ih | pause milliseconds next ih | look next ih =>
      exact fun seen expected => ih seen (ensures seen expected)

end Program

namespace Action

variable {α β : Type} {Expected : Sight Backend → Prop}

def Reliable (Expected : Sight Backend → Prop) (action : Action α) : Prop :=
  Program.Ensures Expected (·.isOk) action.run

theorem reliable_pure (value : α) : (pure value : Action α).Reliable Expected := rfl

theorem Reliable.bind {action : Action α} {rest : α → Action β}
    (first : action.Reliable Expected) (later : ∀ value, (rest value).Reliable Expected) :
    (action >>= rest).Reliable Expected := by
  rw [Reliable, run_bind, Program.ensures_bind_iff]
  refine first.mono fun result ok => ?_
  cases result with
  | ok value => exact later value
  | error failure => cases ok

theorem reliable_ask_bind {request : Request} {rest : request.Answer → Action α}
    (later : ∀ answer, Expected (.asked request answer) → (rest answer).Reliable Expected) :
    (ask request >>= rest).Reliable Expected := by
  rw [Reliable, run_bind, Program.ensures_bind_iff]
  exact later

theorem reliable_note_bind {level : Level} {origin : Origin} {message : String}
    {rest : Unit → Action α} (later : (rest ()).Reliable Expected) :
    (note level origin message >>= rest).Reliable Expected := by
  rw [Reliable, run_bind, Program.ensures_bind_iff]
  exact later

theorem reliable_note {level : Level} {origin : Origin} {message : String} :
    (note level origin message).Reliable Expected := rfl

end Action

end Tenancy
