import Tenancy.Proofs.Batch.Single
import Tenancy.Proofs.Batch.Turns
import Tenancy.Proofs.Program.Asking
import Tenancy.Undertaking

/-!
Work that is confined to queries of some kind, whatever it is answered. All that is recorded while it
is done is of this kind, also where programs run side by side; and work that is worked out over
another interface is confined to what its client asks for such queries.
-/

namespace Tenancy

variable {I J : Interface} {σ α β γ : Type} {asked : I.Query → Prop} {calls : J.Query → Prop}
  {client : (query : I.Query) → Program J (I.Answer query)} {peer : Peer I σ}

namespace Program

def Confined (asked : I.Query → Prop) (program : Program I α) : Prop :=
  ∀ trail query, program.Asks trail query → asked query

variable {program rest : Program I α}

theorem confined_done (result : α) : (done result : Program I α).Confined asked :=
  fun _ _ asks => asks.elim

theorem confined_note_bind_iff {level : Level} {origin : Origin} {message : String} :
    (note level origin message >>= fun _ => program).Confined asked ↔ program.Confined asked :=
  Iff.rfl

theorem Confined.mono (confined : program.Confined asked) {more : I.Query → Prop}
    (within : ∀ query, asked query → more query) : program.Confined more :=
  fun trail query asks => within query (confined trail query asks)

theorem Confined.bind (confined : program.Confined asked) {next : α → Program I β}
    (later : ∀ result, (next result).Confined asked) : (program.bind next).Confined asked := by
  intro trail query asks
  obtain early | ⟨result, _, second, _, _, late⟩ := (asks_bind_iff program next trail query).mp asks
  · exact confined trail query early
  · exact later result second query late

theorem Confined.own {query : I.Query} {next : I.Answer query → Program I α}
    (confined : (ask query next).Confined asked) : asked query :=
  confined [] query (.inl ⟨rfl, rfl⟩)

theorem Confined.answered {query : I.Query} {next : I.Answer query → Program I α}
    (confined : (ask query next).Confined asked) (answer : I.Answer query) :
    (next answer).Confined asked :=
  fun trail other asks => confined _ other (.inr ⟨answer, trail, rfl, asks⟩)

theorem Confined.passes (confined : program.Confined asked) (passes : Passes program rest) :
    rest.Confined asked := by
  cases passes with
  | stays => exact confined
  | pause milliseconds next requested | look next requested =>
      exact fun trail query asks => confined _ query ⟨requested, trail, rfl, asks⟩

theorem Confined.via (confined : program.Confined asked)
    (works : ∀ query, asked query → (client query).Confined calls) :
    (program.via client).Confined calls := by
  induction program with
  | done result => exact confined_done result
  | write event next ih => exact ih confined
  | ask query next ih =>
      exact (works query confined.own).bind fun answer => ih answer (confined.answered answer)
  | pause milliseconds next ih =>
      rintro trail query ⟨requested, later, -, asks⟩
      exact ih requested (confined.passes (.pause milliseconds next requested)) later query asks
  | look next ih =>
      rintro trail query ⟨requested, later, -, asks⟩
      exact ih requested (confined.passes (.look next requested)) later query asks

end Program

def Recorded (asked : I.Query → Prop) (before after : List (Exchange I)) : Prop :=
  ∃ calls, after = calls ++ before ∧ ∀ call ∈ calls, asked call.query

theorem Recorded.refl (exchanges : List (Exchange I)) : Recorded asked exchanges exchanges :=
  ⟨[], rfl, List.forall_mem_nil _⟩

theorem Recorded.trans {before middle after : List (Exchange I)}
    (first : Recorded asked before middle) (second : Recorded asked middle after) :
    Recorded asked before after := by
  obtain ⟨earlier, rfl, own⟩ := first
  obtain ⟨later, rfl, others⟩ := second
  exact ⟨later ++ earlier, (List.append_assoc ..).symm, List.forall_mem_append.mpr ⟨others, own⟩⟩

namespace Batch

variable {batch next : Batch I σ α} {before : List (Exchange I)}

structure Confined (asked : I.Query → Prop) (before : List (Exchange I)) (batch : Batch I σ α) :
    Prop where
  rests : ∀ rest ∈ batch.rests, rest.Confined asked
  recorded : Recorded asked before batch.surroundings.exchanges

theorem Confined.rest (confined : batch.Confined asked before) (place : Fin batch.tasks.length) :
    (batch.tasks.get place).rest.Confined asked :=
  confined.rests _ (List.mem_of_getElem? (getElem?_rests place))

theorem Confined.put (confined : batch.Confined asked before) (place : Fin batch.tasks.length)
    {task : Task I α} {surroundings : Surroundings I σ} (rest : task.rest.Confined asked)
    (recorded : Recorded asked batch.surroundings.exchanges surroundings.exchanges) :
    (batch.put place task surroundings).Confined asked before := by
  refine ⟨fun other member => ?_, confined.recorded.trans recorded⟩
  rw [rests_put] at member
  obtain inside | rfl := List.mem_or_eq_of_mem_set member
  · exact confined.rests other inside
  · exact rest

theorem Confined.moves (confined : batch.Confined asked before) {place : Fin batch.tasks.length}
    (moves : Moves peer batch place next) : next.Confined asked before := by
  have own := confined.rest place
  cases moves with
  | passes rest _ exchanges _ =>
      exact confined.put place (own.passes rest) (exchanges ▸ Recorded.refl _)
  | writes task =>
      rw [task] at own
      exact confined.put place own (Recorded.refl _)
  | @asks ticket query rest task =>
      rw [task] at own
      refine confined.put place (own.answered _) ⟨[_], rfl, ?_⟩
      rw [List.forall_mem_singleton]
      exact own.own

theorem Confined.step (confined : batch.Confined asked before)
    (stepped : batch.step peer = some next) : next.Confined asked before := by
  obtain ⟨place, moved⟩ | ⟨moment, later, -, rfl⟩ := step_cases stepped
  · exact confined.moves (move_moves moved)
  · refine ⟨fun rest member => confined.rests rest ?_, confined.recorded⟩
    rw [rests_happen] at member
    exact member

theorem Confined.run (confined : batch.Confined asked before) :
    (batch.run peer).Confined asked before := by
  fun_induction Batch.run batch peer with
  | case1 batch stuck => exact confined
  | case2 batch next stepped ih => exact ih (confined.step stepped)

theorem confined_start {surroundings : Surroundings I σ} {limit : Nat}
    {programs : List (Program I α)} (confined : ∀ program ∈ programs, program.Confined asked) :
    (Batch.start surroundings limit programs).Confined asked surroundings.exchanges := by
  refine ⟨fun rest member => confined rest ?_, Recorded.refl _⟩
  simpa [Batch.start, rests, Function.comp_def, Task.rest] using member

end Batch

theorem Program.Confined.run {program : Program I α} (confined : program.Confined asked)
    {surroundings : Surroundings I σ} :
    Recorded asked surroundings.exchanges (program.run peer 0 surroundings).2.exchanges := by
  obtain ⟨-, same⟩ := Batch.run_single program peer surroundings
  rw [← same]
  exact (Batch.confined_start (List.forall_mem_singleton.mpr confined)).run.recorded

namespace Undertaking

def Confined (asked : I.Query → Prop) : Undertaking I β α → Prop
  | alone program => program.Confined asked
  | together _ programs conclude =>
      (∀ program ∈ programs, program.Confined asked) ∧
        ∀ results, (conclude results).Confined asked

variable {undertaking : Undertaking I β α}

theorem Confined.via (confined : undertaking.Confined asked)
    (works : ∀ query, asked query → (client query).Confined calls) :
    (undertaking.via client).Confined calls := by
  cases undertaking with
  | alone program => exact Program.Confined.via confined works
  | together limit programs conclude =>
      exact ⟨List.forall_mem_map.mpr fun program member => (confined.1 program member).via works,
        fun results => (confined.2 results).via works⟩

theorem Confined.andThen (confined : undertaking.Confined asked) {rest : α → Program I γ}
    (later : ∀ result, (rest result).Confined asked) : (undertaking.andThen rest).Confined asked := by
  cases undertaking with
  | alone program => exact Program.Confined.bind confined later
  | together limit programs conclude =>
      exact ⟨confined.1, fun results => (confined.2 results).bind later⟩

theorem Confined.run (confined : undertaking.Confined asked) {surroundings : Surroundings I σ} :
    Recorded asked surroundings.exchanges (undertaking.run peer surroundings).2.exchanges := by
  cases undertaking with
  | alone program => exact Program.Confined.run confined
  | together limit programs conclude =>
      exact (Batch.confined_start confined.1).run.recorded.trans (confined.2 _).run

end Undertaking

end Tenancy
