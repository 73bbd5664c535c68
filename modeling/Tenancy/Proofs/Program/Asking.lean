import Tenancy.Proofs.Program.Trail

/-!
What a program may ask once it has taken a part of a trail. A part may end anywhere, so that what
is shown of it holds in the middle of a run too.
-/

namespace Tenancy

namespace Program

variable {I : Interface} {α β : Type}

def Asks : Program I α → Trail I → I.Query → Prop
  | done _, _, _ => False
  | write _ next, trail, query => next.Asks trail query
  | ask own next, trail, query =>
      trail = [] ∧ query = own ∨
        ∃ answer later, trail = .asked own answer :: later ∧ (next answer).Asks later query
  | pause milliseconds next, trail, query =>
      ∃ requested later, trail = .paused milliseconds requested :: later ∧
        (next requested).Asks later query
  | look next, trail, query =>
      ∃ requested later, trail = .looked requested :: later ∧ (next requested).Asks later query

theorem Yields.asks {program : Program I α} {before after : Trail I} {query : I.Query}
    {answer : I.Answer query} {result : α}
    (taken : program.Yields (before ++ .asked query answer :: after) result) :
    program.Asks before query := by
  induction program generalizing before with
  | done => simp [Yields] at taken
  | write event next ih => exact ih taken
  | ask own next ih =>
      obtain ⟨given, later, same, taken⟩ := taken
      cases before with
      | nil =>
          cases same
          exact .inl ⟨rfl, rfl⟩
      | cons sight before =>
          obtain ⟨rfl, rfl⟩ := List.cons.inj same
          exact .inr ⟨given, before, rfl, ih given taken⟩
  | pause milliseconds next ih | look next ih =>
      obtain ⟨requested, later, same, taken⟩ := taken
      cases before with
      | nil => cases same
      | cons sight before =>
          obtain ⟨rfl, rfl⟩ := List.cons.inj same
          exact ⟨requested, before, rfl, ih requested taken⟩

theorem asks_bind_iff (program : Program I α) (rest : α → Program I β) (trail : Trail I)
    (query : I.Query) :
    (program.bind rest).Asks trail query ↔
      program.Asks trail query ∨
        ∃ result first second, trail = first ++ second ∧ program.Yields first result ∧
          (rest result).Asks second query := by
  induction program generalizing trail with
  | done result =>
      constructor
      · intro asked
        exact .inr ⟨result, [], trail, rfl, ⟨rfl, rfl⟩, asked⟩
      · rintro (none | ⟨_, _, second, rfl, ⟨rfl, rfl⟩, asked⟩)
        · cases none
        · exact asked
  | write event next ih => exact ih trail
  | ask own next ih =>
      constructor
      · rintro (⟨rfl, rfl⟩ | ⟨answer, later, rfl, asked⟩)
        · exact .inl (.inl ⟨rfl, rfl⟩)
        · obtain early | ⟨result, first, second, rfl, ends, late⟩ := (ih answer later).mp asked
          · exact .inl (.inr ⟨answer, later, rfl, early⟩)
          · exact .inr ⟨result, _ :: first, second, rfl, ⟨answer, first, rfl, ends⟩, late⟩
      · rintro ((⟨rfl, rfl⟩ | ⟨answer, later, rfl, early⟩) |
          ⟨result, _, second, rfl, ⟨answer, first, rfl, ends⟩, late⟩)
        · exact .inl ⟨rfl, rfl⟩
        · exact .inr ⟨answer, later, rfl, (ih answer later).mpr (.inl early)⟩
        · exact .inr ⟨answer, first ++ second, rfl,
            (ih answer _).mpr (.inr ⟨result, first, second, rfl, ends, late⟩)⟩
  | pause milliseconds next ih | look next ih =>
      constructor
      · rintro ⟨requested, later, rfl, asked⟩
        obtain early | ⟨result, first, second, rfl, ends, late⟩ := (ih requested later).mp asked
        · exact .inl ⟨requested, later, rfl, early⟩
        · exact .inr ⟨result, _ :: first, second, rfl, ⟨requested, first, rfl, ends⟩, late⟩
      · rintro (⟨requested, later, rfl, early⟩ |
          ⟨result, _, second, rfl, ⟨requested, first, rfl, ends⟩, late⟩)
        · exact ⟨requested, later, rfl, (ih requested later).mpr (.inl early)⟩
        · exact ⟨requested, first ++ second, rfl,
            (ih requested _).mpr (.inr ⟨result, first, second, rfl, ends, late⟩)⟩

end Program

namespace Action

variable {α β : Type}

def Asks (action : Action α) (trail : Trail Backend) (request : Request) : Prop :=
  Program.Asks action.run trail request

variable {trail : Trail Backend} {request : Request}

@[simp] theorem not_asks_pure {value : α} : ¬ (pure value : Action α).Asks trail request :=
  id

@[simp] theorem not_asks_throw {failure : TenantError} :
    ¬ (throw failure : Action α).Asks trail request :=
  id

theorem asks_bind_iff {action : Action α} {rest : α → Action β} :
    (action >>= rest).Asks trail request ↔
      action.Asks trail request ∨
        ∃ middle first second, trail = first ++ second ∧ action.Succeeds first middle ∧
          (rest middle).Asks second request := by
  simp only [Asks, run_bind, Program.asks_bind_iff]
  constructor
  · rintro (early | ⟨result, first, second, rfl, ends, late⟩)
    · exact .inl early
    · cases result with
      | ok middle => exact .inr ⟨middle, first, second, rfl, ends, late⟩
      | error failure => cases late
  · rintro (early | ⟨middle, first, second, rfl, ends, late⟩)
    · exact .inl early
    · exact .inr ⟨.ok middle, first, second, rfl, ends, late⟩

theorem asks_ask_bind_iff {own : Request} {rest : own.Answer → Action α} :
    (ask own >>= rest).Asks trail request ↔
      trail = [] ∧ request = own ∨
        ∃ answer later, trail = .asked own answer :: later ∧ (rest answer).Asks later request := by
  simp only [Asks, run_bind, run_ask, Program.bind, Program.Asks, andThen]

@[simp] theorem asks_note_bind_iff {level : Level} {origin : Origin} {message : String}
    {rest : Unit → Action α} :
    (note level origin message >>= rest).Asks trail request ↔ (rest ()).Asks trail request := by
  simp only [Asks, run_bind, run_note, Program.bind, Program.Asks, andThen]

@[simp] theorem not_asks_note {level : Level} {origin : Origin} {message : String} :
    ¬ (note level origin message).Asks trail request :=
  id

@[simp] theorem not_asks_pause {milliseconds : Nat} :
    ¬ (pause milliseconds).Asks trail request := by
  rintro ⟨_, _, _, none⟩
  exact none

@[simp] theorem not_asks_shutdownRequested : ¬ shutdownRequested.Asks trail request := by
  rintro ⟨_, _, _, none⟩
  exact none

theorem request_of_asks_ask {own : Request} (asked : (ask own).Asks trail request) :
    request = own := by
  obtain ⟨-, same⟩ | ⟨_, _, -, none⟩ := asked
  · exact same
  · cases none

/-- A property of actions that every action has which asks nothing, and that is passed on when one
action follows another. -/
structure PassedOn (P : (α : Type) → Action α → Prop) : Prop where
  silent : ∀ {α} {action : Action α}, (∀ trail request, ¬ action.Asks trail request) → P α action
  bind : ∀ {α β} {first : Action α} {rest : α → Action β}, P α first → (∀ value, P β (rest value)) →
    P β (first >>= rest)

namespace PassedOn

variable {P : (α : Type) → Action α → Prop}

theorem pure (passedOn : PassedOn P) (value : α) : P α (Pure.pure value) :=
  passedOn.silent fun _ _ => not_asks_pure

theorem throw (passedOn : PassedOn P) (failure : TenantError) : P α (MonadExcept.throw failure) :=
  passedOn.silent fun _ _ => not_asks_throw

theorem note_bind (passedOn : PassedOn P) {level : Level} {origin : Origin} {message : String}
    {rest : Unit → Action α} (later : P α (rest ())) :
    P α (note level origin message >>= rest) :=
  passedOn.bind (passedOn.silent fun _ _ => not_asks_note) fun _ => later

end PassedOn

end Action

end Tenancy
