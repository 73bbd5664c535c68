import Tenancy.Event

/-!
Programs that talk to their surroundings, as data. A program ends, writes an event, asks a query
and goes on with its answer, pauses, or looks at the shutdown signal. What it does against given
surroundings is then a matter of who reads it.
-/

namespace Tenancy

/-- The queries that a program may ask, each with the type of its answers. -/
structure Interface where
  Query : Type
  Answer : Query → Type

inductive Program (interface : Interface) (α : Type) : Type
  | done (result : α)
  | write (event : Event) (next : Program interface α)
  | ask (query : interface.Query) (next : interface.Answer query → Program interface α)
  /-- Waits so many milliseconds, or until shutdown is requested; goes on with whether it was. -/
  | pause (milliseconds : Nat) (next : Bool → Program interface α)
  | look (next : Bool → Program interface α)

namespace Program

variable {I J : Interface} {α β γ : Type}

def bind (program : Program I α) (rest : α → Program I β) : Program I β :=
  match program with
  | done result => rest result
  | write event next => write event (next.bind rest)
  | ask query next => ask query fun answer => (next answer).bind rest
  | pause milliseconds next => pause milliseconds fun requested => (next requested).bind rest
  | look next => look fun requested => (next requested).bind rest

instance : Monad (Program I) where
  pure := done
  bind := bind

@[simp] theorem pure_eq_done (result : α) : (pure result : Program I α) = done result := rfl

@[simp] theorem bind_eq (program : Program I α) (rest : α → Program I β) :
    program >>= rest = program.bind rest := rfl

theorem bind_done (program : Program I α) : program.bind done = program := by
  induction program with
  | done => rfl
  | write event next ih => simp [bind, ih]
  | ask query next ih => simp [bind, ih]
  | pause milliseconds next ih => simp [bind, ih]
  | look next ih => simp [bind, ih]

theorem bind_assoc (program : Program I α) (first : α → Program I β) (second : β → Program I γ) :
    (program.bind first).bind second = program.bind fun result => (first result).bind second := by
  induction program with
  | done => rfl
  | write event next ih => simp [bind, ih]
  | ask query next ih => simp [bind, ih]
  | pause milliseconds next ih => simp [bind, ih]
  | look next ih => simp [bind, ih]

instance : LawfulMonad (Program I) :=
  LawfulMonad.mk' (Program I)
    (fun program => bind_done program)
    (fun _ _ => rfl)
    (fun program first second => bind_assoc program first second)

def via (program : Program I α) (client : (query : I.Query) → Program J (I.Answer query)) :
    Program J α :=
  match program with
  | done result => done result
  | write event next => write event (next.via client)
  | ask query next => (client query).bind fun answer => (next answer).via client
  | pause milliseconds next => pause milliseconds fun requested => (next requested).via client
  | look next => look fun requested => (next requested).via client

def note (level : Level) (origin : Origin) (message : String) : Program I Unit :=
  write ⟨level, origin, message⟩ (done ())

/-- One program is what remains of another after its first step. -/
inductive Follows : Program I α → Program I α → Prop
  | write (event next) : Follows next (write event next)
  | ask (query next answer) : Follows (next answer) (ask query next)
  | pause (milliseconds next requested) : Follows (next requested) (pause milliseconds next)
  | look (next requested) : Follows (next requested) (look next)

theorem follows_wellFounded : WellFounded (@Follows I α) := by
  refine ⟨fun program => ?_⟩
  induction program with
  | done => exact ⟨_, fun _ step => nomatch step⟩
  | write event next ih => exact ⟨_, fun _ step => by cases step; exact ih⟩
  | ask query next ih => exact ⟨_, fun _ step => by cases step; exact ih _⟩
  | pause milliseconds next ih => exact ⟨_, fun _ step => by cases step; exact ih _⟩
  | look next ih => exact ⟨_, fun _ step => by cases step; exact ih _⟩

end Program

end Tenancy
