import Tenancy.Proofs.Program.Asking

/-!
Programs that keep to a vocabulary: every query that they ask belongs to it, as long as every answer
that they get does.
-/

namespace Tenancy

structure Vocabulary (I : Interface) where
  asked : I.Query → Prop
  told : (query : I.Query) → I.Answer query → Prop

namespace Program

variable {I : Interface} {α β : Type} {vocabulary : Vocabulary I}

def Keeps (vocabulary : Vocabulary I) (Holds : α → Prop) : Program I α → Prop
  | done result => Holds result
  | write _ next => next.Keeps vocabulary Holds
  | ask query next =>
      vocabulary.asked query ∧
        ∀ answer, vocabulary.told query answer → (next answer).Keeps vocabulary Holds
  | pause _ next => ∀ requested, (next requested).Keeps vocabulary Holds
  | look next => ∀ requested, (next requested).Keeps vocabulary Holds

theorem keeps_bind_iff {program : Program I α} {rest : α → Program I β} {Holds : β → Prop} :
    (program.bind rest).Keeps vocabulary Holds ↔
      program.Keeps vocabulary fun result => (rest result).Keeps vocabulary Holds := by
  induction program with
  | done result => exact Iff.rfl
  | write event next ih => exact ih
  | ask query next ih =>
      exact and_congr_right fun _ => forall_congr' fun answer => imp_congr_right fun _ => ih answer
  | pause milliseconds next ih | look next ih =>
      exact forall_congr' fun requested => ih requested

theorem Keeps.mono {program : Program I α} {Holds More : α → Prop}
    (keeps : program.Keeps vocabulary Holds) (implies : ∀ result, Holds result → More result) :
    program.Keeps vocabulary More := by
  induction program with
  | done result => exact implies result keeps
  | write event next ih => exact ih keeps
  | ask query next ih => exact ⟨keeps.1, fun answer told => ih answer (keeps.2 answer told)⟩
  | pause milliseconds next ih | look next ih =>
      exact fun requested => ih requested (keeps requested)

theorem keeps_of_asks {program : Program I α}
    (asks : ∀ trail query, program.Asks trail query → vocabulary.asked query) :
    program.Keeps vocabulary fun _ => True := by
  induction program with
  | done result => trivial
  | write event next ih => exact ih asks
  | ask own next ih =>
      refine ⟨asks [] own (.inl ⟨rfl, rfl⟩), fun answer _ => ih answer fun trail query asked => ?_⟩
      exact asks (.asked own answer :: trail) query (.inr ⟨answer, trail, rfl, asked⟩)
  | pause milliseconds next ih =>
      refine fun requested => ih requested fun trail query asked => ?_
      exact asks (.paused milliseconds requested :: trail) query ⟨requested, trail, rfl, asked⟩
  | look next ih =>
      refine fun requested => ih requested fun trail query asked => ?_
      exact asks (.looked requested :: trail) query ⟨requested, trail, rfl, asked⟩

end Program

namespace Action

variable {α β : Type} {vocabulary : Vocabulary Backend}

def Keeps (vocabulary : Vocabulary Backend) (Holds : α → Prop) (action : Action α) : Prop :=
  Program.Keeps vocabulary (fun result => ∀ value, result = .ok value → Holds value) action.run

theorem keeps_pure {Holds : α → Prop} {value : α} (holds : Holds value) :
    (pure value : Action α).Keeps vocabulary Holds := by
  intro own same
  rwa [← Except.ok.inj same]

theorem keeps_throw {Holds : α → Prop} (failure : TenantError) :
    (throw failure : Action α).Keeps vocabulary Holds :=
  fun _ same => nomatch same

theorem Keeps.bind {Middle : α → Prop} {Holds : β → Prop} {action : Action α} {rest : α → Action β}
    (first : action.Keeps vocabulary Middle)
    (later : ∀ value, Middle value → (rest value).Keeps vocabulary Holds) :
    (action >>= rest).Keeps vocabulary Holds := by
  rw [Keeps, run_bind, Program.keeps_bind_iff]
  refine Program.Keeps.mono first fun result middle => ?_
  cases result with
  | ok value => exact later value (middle value rfl)
  | error failure => exact fun _ same => nomatch same

theorem keeps_ask_bind {Holds : α → Prop} {request : Request} {rest : request.Answer → Action α}
    (asked : vocabulary.asked request)
    (later : ∀ answer, vocabulary.told request answer → (rest answer).Keeps vocabulary Holds) :
    (ask request >>= rest).Keeps vocabulary Holds := by
  rw [Keeps, run_bind]
  exact ⟨asked, later⟩

theorem keeps_note_bind {Holds : α → Prop} {level : Level} {origin : Origin} {message : String}
    {rest : Unit → Action α} (later : (rest ()).Keeps vocabulary Holds) :
    (note level origin message >>= rest).Keeps vocabulary Holds := by
  rw [Keeps, run_bind]
  exact later

theorem keeps_of_asks {action : Action α}
    (asks : ∀ trail request, action.Asks trail request → vocabulary.asked request) :
    action.Keeps vocabulary fun _ => True :=
  (Program.keeps_of_asks asks).mono fun _ _ _ _ => trivial

theorem keeps_passedOn : PassedOn fun _ action => action.Keeps vocabulary fun _ => True where
  silent silent := keeps_of_asks fun trail request asked => absurd asked (silent trail request)
  bind first later := first.bind fun value _ => later value

theorem keeps_ask {request : Request} (asked : vocabulary.asked request) :
    (ask request).Keeps vocabulary fun _ => True :=
  keeps_of_asks fun _ _ own => request_of_asks_ask own ▸ asked

end Action

end Tenancy
