import Tenancy.Proofs.Program.Action
import Tenancy.Proofs.Surroundings

/-!
Trails: what a program sees of its surroundings in a run, in order of time. The result of a run is
a matter of its trail alone, so a statement about all runs is one about all trails that the program
can take.
-/

namespace Tenancy

/-- One thing that a program sees: the answer to a query, how a pause ended, or the signal. -/
inductive Sight (I : Interface)
  | asked (query : I.Query) (answer : I.Answer query)
  | paused (milliseconds : Nat) (requested : Bool)
  | looked (requested : Bool)

abbrev Trail (I : Interface) := List (Sight I)

def Sight.told? {I : Interface} : Sight I → Option Bool
  | .asked .. => none
  | .paused _ requested => some requested
  | .looked requested => some requested

/-- Wherever the trail shows the shutdown signal, it shows this. -/
def Trail.Tells {I : Interface} (requested : Bool) (trail : Trail I) : Prop :=
  ∀ sight ∈ trail, ∀ told ∈ sight.told?, told = requested

def Trail.answers {I : Interface} : Trail I → List ((query : I.Query) × I.Answer query)
  | [] => []
  | .asked query answer :: later => ⟨query, answer⟩ :: Trail.answers later
  | .paused .. :: later => Trail.answers later
  | .looked _ :: later => Trail.answers later

theorem Trail.append_eq_cut {I : Interface} {first second before after : Trail I}
    {sight : Sight I} :
    first ++ second = before ++ sight :: after ↔
      (∃ middle, before = first ++ middle ∧ second = middle ++ sight :: after) ∨
        ∃ middle, first = before ++ sight :: middle ∧ after = middle ++ second := by
  rw [List.append_eq_append_iff]
  constructor
  · rintro (⟨middle, rfl, rfl⟩ | ⟨middle, rfl, rest⟩)
    · exact .inl ⟨middle, rfl, rfl⟩
    · cases middle with
      | nil => exact .inl ⟨[], by simp, rest.symm⟩
      | cons _ middle =>
          obtain ⟨rfl, rfl⟩ := List.cons.inj rest
          exact .inr ⟨middle, rfl, rfl⟩
  · rintro (⟨middle, rfl, rfl⟩ | ⟨middle, rfl, rfl⟩)
    · exact .inl ⟨middle, rfl, rfl⟩
    · exact .inr ⟨sight :: middle, rfl, rfl⟩

theorem Trail.tells_append {I : Interface} {requested : Bool} {first second : Trail I} :
    (first ++ second).Tells requested ↔ first.Tells requested ∧ second.Tells requested :=
  List.forall_mem_append

section

variable {I : Interface} {query : I.Query} {answer : I.Answer query} {milliseconds : Nat}
  {told requested : Bool} {later : Trail I}

theorem Trail.tells_cons_asked :
    Trail.Tells requested (.asked query answer :: later) ↔ later.Tells requested := by
  rw [Trail.Tells, List.forall_mem_cons]
  exact and_iff_right nofun

theorem Trail.tells_cons_paused :
    Trail.Tells requested (.paused milliseconds told :: later) ↔
      told = requested ∧ later.Tells requested := by
  simp only [Trail.Tells, List.forall_mem_cons, Sight.told?, Option.mem_def, Option.some.injEq,
    forall_eq']

theorem Trail.tells_cons_looked :
    Trail.Tells requested (.looked told :: later) ↔ told = requested ∧ later.Tells requested := by
  simp only [Trail.Tells, List.forall_mem_cons, Sight.told?, Option.mem_def, Option.some.injEq,
    forall_eq']

end

namespace Program

variable {I : Interface} {σ α β : Type}

def trail (program : Program I α) (peer : Peer I σ) (asker : Nat)
    (surroundings : Surroundings I σ) : Trail I :=
  match program with
  | done _ => []
  | write event next => next.trail peer asker (surroundings.write event)
  | ask query next =>
      let waited := surroundings.wait (peer.latency surroundings.state query)
      let (answer, answered) := waited.exchange peer asker query
      .asked query answer :: (next answer).trail peer asker answered
  | pause milliseconds next =>
      let (requested, paused) := surroundings.pause milliseconds
      .paused milliseconds requested :: (next requested).trail peer asker paused
  | look next =>
      .looked surroundings.requested :: (next surroundings.requested).trail peer asker surroundings

/-- The program can take this trail from its start to its end, and then has this result. -/
def Yields : Program I α → Trail I → α → Prop
  | done result, trail, final => trail = [] ∧ result = final
  | write _ next, trail, final => next.Yields trail final
  | ask query next, trail, final =>
      ∃ answer later, trail = .asked query answer :: later ∧ (next answer).Yields later final
  | pause milliseconds next, trail, final =>
      ∃ requested later, trail = .paused milliseconds requested :: later ∧
        (next requested).Yields later final
  | look next, trail, final =>
      ∃ requested later, trail = .looked requested :: later ∧ (next requested).Yields later final

/-- By this trail the program comes to what is then left of it. -/
inductive Leaves : Program I α → Trail I → Program I α → Prop
  | all (program) : Leaves program [] program
  | write (event) {next trail rest} (goes : Leaves next trail rest) :
      Leaves (.write event next) trail rest
  | ask {query next answer trail rest} (goes : Leaves (next answer) trail rest) :
      Leaves (.ask query next) (.asked query answer :: trail) rest
  | pause (milliseconds) {next requested trail rest} (goes : Leaves (next requested) trail rest) :
      Leaves (.pause milliseconds next) (.paused milliseconds requested :: trail) rest
  | look {next requested trail rest} (goes : Leaves (next requested) trail rest) :
      Leaves (.look next) (.looked requested :: trail) rest

theorem Leaves.append {program middle rest : Program I α} {first second : Trail I}
    (leaves : program.Leaves first middle) (onward : middle.Leaves second rest) :
    program.Leaves (first ++ second) rest := by
  induction leaves with
  | all program => exact onward
  | write event _ ih => exact .write event (ih onward)
  | ask _ ih => exact .ask (ih onward)
  | pause milliseconds _ ih => exact .pause milliseconds (ih onward)
  | look _ ih => exact .look (ih onward)

theorem Leaves.takes {program rest : Program I α} {trail : Trail I}
    (leaves : program.Leaves trail rest) {more : Trail I} {result : α}
    (ends : rest.Yields more result) : program.Yields (trail ++ more) result := by
  induction leaves with
  | all program => exact ends
  | write event _ ih => exact ih ends
  | ask _ ih | pause _ _ ih | look _ ih => exact ⟨_, _, rfl, ih ends⟩

theorem yields_trail (program : Program I α) (peer : Peer I σ) (asker : Nat)
    (surroundings : Surroundings I σ) :
    program.Yields (program.trail peer asker surroundings)
      (program.run peer asker surroundings).1 := by
  induction program generalizing surroundings with
  | done result => exact ⟨rfl, rfl⟩
  | write event next ih => exact ih _
  | ask query next ih => exact ⟨_, _, rfl, ih _ _⟩
  | pause milliseconds next ih => exact ⟨_, _, rfl, ih _ _⟩
  | look next ih => exact ⟨_, _, rfl, ih _ _⟩

theorem Yields.unique {program : Program I α} {trail : Trail I} {first second : α}
    (left : program.Yields trail first) (right : program.Yields trail second) :
    first = second := by
  induction program generalizing trail with
  | done result => exact left.2.symm.trans right.2
  | write event next ih => exact ih left right
  | ask query next ih | pause milliseconds next ih | look next ih =>
      obtain ⟨_, _, rfl, left⟩ := left
      obtain ⟨_, _, same, right⟩ := right
      cases same
      exact ih _ left right

theorem run_eq_iff (program : Program I α) (peer : Peer I σ) (asker : Nat)
    (surroundings : Surroundings I σ) (result : α) :
    (program.run peer asker surroundings).1 = result ↔
      program.Yields (program.trail peer asker surroundings) result := by
  have taken := program.yields_trail peer asker surroundings
  constructor
  · intro same
    exact same ▸ taken
  · exact taken.unique

theorem yields_bind_iff (program : Program I α) (rest : α → Program I β) (trail : Trail I)
    (final : β) :
    (program.bind rest).Yields trail final ↔
      ∃ result first second, trail = first ++ second ∧ program.Yields first result ∧
        (rest result).Yields second final := by
  induction program generalizing trail with
  | done result =>
      constructor
      · intro taken
        exact ⟨result, [], trail, rfl, ⟨rfl, rfl⟩, taken⟩
      · rintro ⟨_, _, second, rfl, ⟨rfl, rfl⟩, taken⟩
        exact taken
  | write event next ih => exact ih trail
  | ask query next ih | pause milliseconds next ih | look next ih =>
      constructor
      · rintro ⟨seen, later, rfl, taken⟩
        obtain ⟨result, first, second, rfl, ends, goes⟩ := (ih seen later).mp taken
        exact ⟨result, _ :: first, second, rfl, ⟨seen, first, rfl, ends⟩, goes⟩
      · rintro ⟨result, _, second, rfl, ⟨seen, first, rfl, ends⟩, goes⟩
        exact ⟨seen, first ++ second, rfl, (ih seen _).mpr ⟨result, first, second, rfl, ends, goes⟩⟩

inductive Carried {J : Interface} (client : (query : I.Query) → Program J (I.Answer query)) :
    Trail I → Trail J → Prop
  | nil : Carried client [] []
  | asked {query answer later part rest} (work : (client query).Yields part answer)
      (goes : Carried client later rest) :
      Carried client (.asked query answer :: later) (part ++ rest)
  | paused (milliseconds requested) {later rest} (goes : Carried client later rest) :
      Carried client (.paused milliseconds requested :: later)
        (.paused milliseconds requested :: rest)
  | looked (requested) {later rest} (goes : Carried client later rest) :
      Carried client (.looked requested :: later) (.looked requested :: rest)

theorem yields_via {J : Interface} {client : (query : I.Query) → Program J (I.Answer query)}
    {program : Program I α} {trail : Trail J} {result : α}
    (taken : (program.via client).Yields trail result) :
    ∃ inner, program.Yields inner result ∧ Carried client inner trail := by
  induction program generalizing trail with
  | done value =>
      obtain ⟨rfl, rfl⟩ := taken
      exact ⟨[], ⟨rfl, rfl⟩, .nil⟩
  | write event next ih => exact ih taken
  | ask query next ih =>
      obtain ⟨answer, part, rest, rfl, work, taken⟩ := (yields_bind_iff ..).mp taken
      obtain ⟨inner, goes, carried⟩ := ih answer taken
      exact ⟨_, ⟨answer, inner, rfl, goes⟩, .asked work carried⟩
  | pause milliseconds next ih =>
      obtain ⟨requested, rest, rfl, taken⟩ := taken
      obtain ⟨inner, goes, carried⟩ := ih requested taken
      exact ⟨_, ⟨requested, inner, rfl, goes⟩, .paused milliseconds requested carried⟩
  | look next ih =>
      obtain ⟨requested, rest, rfl, taken⟩ := taken
      obtain ⟨inner, goes, carried⟩ := ih requested taken
      exact ⟨_, ⟨requested, inner, rfl, goes⟩, .looked requested carried⟩

theorem requested_run {program : Program I α} {peer : Peer I σ} {asker : Nat}
    {surroundings : Surroundings I σ} (raised : surroundings.requested) :
    (program.run peer asker surroundings).2.requested := by
  induction program generalizing surroundings with
  | done result => exact raised
  | write event next ih => exact ih raised
  | ask query next ih =>
      exact ih _ (Surroundings.requested_exchange (Surroundings.requested_wait raised))
  | pause milliseconds next ih =>
      rw [run, Surroundings.pause_of_requested raised]
      exact ih true raised
  | look next ih => exact ih _ raised

theorem signal_run_of_none {program : Program I α} {peer : Peer I σ} {asker : Nat}
    {surroundings : Surroundings I σ} (absent : surroundings.signal = none) :
    (program.run peer asker surroundings).2.signal = none := by
  induction program generalizing surroundings with
  | done result => exact absent
  | write event next ih => exact ih absent
  | ask query next ih =>
      exact ih _ (Surroundings.signal_exchange_of_none (Surroundings.signal_wait_of_none absent))
  | pause milliseconds next ih => exact ih _ (Surroundings.signal_pause_of_none absent)
  | look next ih => exact ih _ absent

theorem trail_tells {program : Program I α} {peer : Peer I σ} {asker : Nat}
    {surroundings : Surroundings I σ}
    (calm : (program.run peer asker surroundings).2.requested = false) :
    (program.trail peer asker surroundings).Tells false := by
  -- What has once been requested would still be so in the end.
  have never {later : Program I α} {middle : Surroundings I σ}
      (calm : (later.run peer asker middle).2.requested = false) : middle.requested = false :=
    Bool.eq_false_iff.mpr fun raised => by simp [requested_run raised] at calm
  induction program generalizing surroundings with
  | done result => exact List.forall_mem_nil _
  | write event next ih => exact ih calm
  | ask query next ih =>
      exact List.forall_mem_cons.mpr ⟨by simp [Sight.told?], ih _ calm⟩
  | pause milliseconds next ih =>
      let paused := surroundings.pause milliseconds
      change ((next paused.1).run peer asker paused.2).2.requested = false at calm
      have told : paused.1 = false := by
        refine Bool.eq_false_iff.mpr fun told => ?_
        have raised := Surroundings.requested_pause told
        rw [never calm] at raised
        cases raised
      change Trail.Tells false (.paused milliseconds paused.1 :: _)
      exact List.forall_mem_cons.mpr ⟨by simp [Sight.told?, told], ih _ calm⟩
  | look next ih =>
      have first := never calm
      refine List.forall_mem_cons.mpr ⟨?_, ih _ calm⟩
      simp [Sight.told?, first]

theorem run_exchanges (program : Program I α) (peer : Peer I σ) (asker : Nat)
    (surroundings : Surroundings I σ) :
    ((program.run peer asker surroundings).2.exchanges.map fun exchange =>
        (⟨exchange.query, exchange.answer⟩ : (query : I.Query) × I.Answer query)) =
      (program.trail peer asker surroundings).answers.reverse ++
        surroundings.exchanges.map fun exchange => ⟨exchange.query, exchange.answer⟩ := by
  induction program generalizing surroundings with
  | done result => simp [run, trail, Trail.answers]
  | write event next ih => simpa [run, trail] using ih (surroundings.write event)
  | ask query next ih => simp [run, trail, Trail.answers, ih]
  | pause milliseconds next ih => simp [run, trail, Trail.answers, ih]
  | look next ih => simp [run, trail, Trail.answers, ih]

end Program

namespace Action

variable {α β : Type}

def Succeeds (action : Action α) (trail : Trail Backend) (value : α) : Prop :=
  Program.Yields action.run trail (.ok value)

variable {trail : Trail Backend} {value : α} {failure : TenantError}

@[simp] theorem succeeds_pure_iff {result : α} :
    (pure result : Action α).Succeeds trail value ↔ trail = [] ∧ result = value := by
  simp only [Succeeds, run_pure, Program.Yields, Except.ok.injEq]

@[simp] theorem not_succeeds_throw {thrown : TenantError} :
    ¬ (throw thrown : Action α).Succeeds trail value := by
  simp only [Succeeds, run_throw, Program.Yields, reduceCtorEq, and_false, not_false_eq_true]

@[simp] theorem succeeds_ask_iff {request : Request} {answer : request.Answer} :
    (ask request).Succeeds trail answer ↔ trail = [.asked request answer] := by
  constructor
  · rintro ⟨_, _, rfl, rfl, same⟩
    rw [Except.ok.inj same]
  · rintro rfl
    exact ⟨answer, [], rfl, rfl, rfl⟩

@[simp] theorem succeeds_note_iff {level : Level} {origin : Origin} {message : String}
    {value : Unit} : (note level origin message).Succeeds trail value ↔ trail = [] := by
  simp [Succeeds, run_note, Program.Yields]

@[simp] theorem succeeds_pause_iff {milliseconds : Nat} {requested : Bool} :
    (pause milliseconds).Succeeds trail requested ↔ trail = [.paused milliseconds requested] := by
  constructor
  · rintro ⟨_, _, rfl, rfl, same⟩
    rw [Except.ok.inj same]
  · rintro rfl
    exact ⟨requested, [], rfl, rfl, rfl⟩

@[simp] theorem succeeds_shutdownRequested_iff {requested : Bool} :
    shutdownRequested.Succeeds trail requested ↔ trail = [.looked requested] := by
  constructor
  · rintro ⟨_, _, rfl, rfl, same⟩
    rw [Except.ok.inj same]
  · rintro rfl
    exact ⟨requested, [], rfl, rfl, rfl⟩

theorem yields_bind_iff {action : Action α} {rest : α → Action β}
    {result : Except TenantError β} :
    Program.Yields (action >>= rest).run trail result ↔
      (∃ failure, Program.Yields action.run trail (.error failure) ∧ result = .error failure) ∨
        ∃ middle first second, trail = first ++ second ∧ action.Succeeds first middle ∧
          Program.Yields (rest middle).run second result := by
  rw [run_bind, Program.yields_bind_iff]
  constructor
  · rintro ⟨ended, first, second, rfl, ends, goes⟩
    cases ended with
    | ok middle => exact .inr ⟨middle, first, second, rfl, ends, goes⟩
    | error failure =>
        obtain ⟨rfl, rfl⟩ := goes
        rw [List.append_nil]
        exact .inl ⟨failure, ends, rfl⟩
  · rintro (⟨failure, ends, rfl⟩ | ⟨middle, first, second, rfl, ends, goes⟩)
    · exact ⟨.error failure, trail, [], by simp, ends, rfl, rfl⟩
    · exact ⟨.ok middle, first, second, rfl, ends, goes⟩

/-- Each sight of two actions in sequence is one of the first action or one of the second. -/
theorem yields_bind_cut {action : Action α} {rest : α → Action β} {before after : Trail Backend}
    {sight : Sight Backend} {result : Except TenantError β}
    (taken : Program.Yields (action >>= rest).run (before ++ sight :: after) result) :
    (∃ middle ended, Program.Yields action.run (before ++ sight :: middle) ended ∧
        ∀ failure, ended = .error failure → after = middle ∧ result = .error failure) ∨
      ∃ value first later, before = first ++ later ∧ action.Succeeds first value ∧
        Program.Yields (rest value).run (later ++ sight :: after) result := by
  obtain ⟨failure, ends, rfl⟩ | ⟨value, first, second, same, succeeds, goes⟩ :=
    yields_bind_iff.mp taken
  · refine .inl ⟨after, .error failure, ends, fun _ same => ?_⟩
    exact ⟨rfl, congrArg _ (Except.error.inj same)⟩
  · obtain ⟨later, rfl, rfl⟩ | ⟨middle, rfl, -⟩ := Trail.append_eq_cut.mp same.symm
    · exact .inr ⟨value, first, later, rfl, succeeds, goes⟩
    · exact .inl ⟨middle, .ok value, succeeds, nofun⟩

theorem yields_ask_bind_iff {request : Request} {rest : request.Answer → Action α}
    {result : Except TenantError α} :
    Program.Yields (ask request >>= rest).run trail result ↔
      ∃ answer later, trail = .asked request answer :: later ∧
        Program.Yields (rest answer).run later result := by
  simp only [run_bind, run_ask, Program.bind, Program.Yields, andThen]

theorem yields_note_bind_iff {level : Level} {origin : Origin} {message : String}
    {rest : Unit → Action α} {result : Except TenantError α} :
    Program.Yields (note level origin message >>= rest).run trail result ↔
      Program.Yields (rest ()).run trail result := by
  simp only [run_bind, run_note, Program.bind, Program.Yields, andThen]

theorem yields_map_iff {action : Action α} {change : α → β} {result : Except TenantError β} :
    Program.Yields (change <$> action).run trail result ↔
      ∃ inner, Program.Yields action.run trail inner ∧ result = change <$> inner := by
  rw [map_eq_pure_bind, yields_bind_iff]
  constructor
  · rintro (⟨failure, ends, rfl⟩ | ⟨middle, first, _, rfl, ends, rfl, rfl⟩)
    · exact ⟨.error failure, ends, rfl⟩
    · rw [List.append_nil]
      exact ⟨.ok middle, ends, rfl⟩
  · rintro ⟨failure | middle, ends, rfl⟩
    · exact .inl ⟨failure, ends, rfl⟩
    · exact .inr ⟨middle, trail, [], by simp, ends, rfl, rfl⟩

theorem succeeds_bind_iff {action : Action α} {rest : α → Action β} {value : β} :
    (action >>= rest).Succeeds trail value ↔
      ∃ middle first second, trail = first ++ second ∧ action.Succeeds first middle ∧
        (rest middle).Succeeds second value := by
  simp only [Succeeds, yields_bind_iff, reduceCtorEq, and_false, exists_false, false_or]

theorem succeeds_ask_bind_iff {request : Request} {rest : request.Answer → Action α} :
    (ask request >>= rest).Succeeds trail value ↔
      ∃ answer later, trail = .asked request answer :: later ∧
        (rest answer).Succeeds later value := by
  simp only [succeeds_bind_iff, succeeds_ask_iff]
  constructor
  · rintro ⟨answer, _, later, rfl, rfl, goes⟩
    exact ⟨answer, later, rfl, goes⟩
  · rintro ⟨answer, later, rfl, goes⟩
    exact ⟨answer, _, later, rfl, rfl, goes⟩

@[simp] theorem succeeds_note_bind_iff {level : Level} {origin : Origin} {message : String}
    {rest : Unit → Action α} :
    (note level origin message >>= rest).Succeeds trail value ↔
      (rest ()).Succeeds trail value := by
  simp only [Succeeds, run_bind, run_note, Program.bind, Program.Yields, andThen]

end Action

end Tenancy
