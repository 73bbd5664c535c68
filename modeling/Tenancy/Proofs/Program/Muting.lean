import Tenancy.Fault
import Tenancy.Proofs.Program.Asking

/-!
What the keeper of ports answers, left out. A program is heedless if these answers neither decide
what it does next nor what it comes to.
-/

namespace Tenancy

def Request.mute : (request : Request) → request.Answer → request.Answer
  | .releasePort _, _ => .ok ()
  | .probe .., answer => answer
  | .create .., answer => answer
  | .list .., answer => answer
  | .delete .., answer => answer
  | .releaseTag .., answer => answer

theorem Request.mute_of_host {request : Request} (placed : request.host?.isSome)
    (answer : request.Answer) : request.mute answer = answer := by
  cases request with
  | releasePort => cases placed
  | probe | create | list | delete | releaseTag => rfl

theorem Request.mute_of_port {request : Request} (port : request.host? = none)
    (first second : request.Answer) : request.mute first = request.mute second := by
  cases request with
  | releasePort => rfl
  | probe | create | list | delete | releaseTag => cases port

def Sight.mute : Sight Backend → Sight Backend
  | .asked request answer => .asked request (request.mute answer)
  | .paused milliseconds requested => .paused milliseconds requested
  | .looked requested => .looked requested

def Trail.Alike (first second : Trail Backend) : Prop :=
  first.map Sight.mute = second.map Sight.mute

theorem Sight.eq_of_mute {first second : Sight Backend} (same : first.mute = second.mute)
    (placed : ∀ request answer, second = .asked request answer → request.host?.isSome) :
    first = second := by
  cases first <;> cases second <;> try cases same
  case asked.asked request answer other given =>
    simp only [mute, asked.injEq] at same
    obtain ⟨rfl, same⟩ := same
    have known := placed request given rfl
    rw [Request.mute_of_host known, heq_eq_eq, Request.mute_of_host known] at same
    rw [same]
  case paused.paused => rfl
  case looked.looked => rfl

theorem Trail.Alike.eq {first second : Trail Backend} (alike : first.Alike second)
    (placed : ∀ request answer, .asked request answer ∈ second → request.host?.isSome) :
    first = second := by
  induction second generalizing first with
  | nil => exact List.map_eq_nil_iff.mp alike
  | cons sight second ih =>
      cases first with
      | nil => cases alike
      | cons other first =>
          obtain ⟨head, tail⟩ := List.cons.inj alike
          have same : other = sight := Sight.eq_of_mute head fun request answer own =>
            placed request answer (own ▸ List.mem_cons_self)
          have rest : first = second := ih tail fun request answer member =>
            placed request answer (List.mem_cons_of_mem _ member)
          rw [same, rest]

/-- The program takes every trail that is like one that it takes, to the same end. -/
def Program.Heedless {α : Type} (program : Program Backend α) : Prop :=
  ∀ trail other result, program.Yields trail result → other.Alike trail →
    program.Yields other result

namespace Action

variable {α β : Type}

def Heedless (action : Action α) : Prop := Program.Heedless action.run

theorem heedless_of_asks {action : Action α}
    (placed : ∀ trail request, action.Asks trail request → request.host?.isSome) :
    action.Heedless := by
  intro trail other result taken alike
  rw [alike.eq fun request answer member => ?_]
  · exact taken
  · obtain ⟨before, after, rfl⟩ := List.append_of_mem member
    exact placed before request taken.asks

theorem Heedless.bind {action : Action α} {rest : α → Action β} (first : action.Heedless)
    (later : ∀ value, (rest value).Heedless) : (action >>= rest).Heedless := by
  intro trail other result taken alike
  rw [yields_bind_iff] at taken ⊢
  obtain ⟨failure, ends, rfl⟩ | ⟨value, head, tail, rfl, ends, goes⟩ := taken
  · exact .inl ⟨failure, first trail other _ ends alike, rfl⟩
  · rw [Trail.Alike, List.map_append] at alike
    obtain ⟨head', tail', rfl, heads, tails⟩ := List.map_eq_append_iff.mp alike
    exact .inr ⟨value, head', tail', rfl, first head head' _ ends heads,
      later value tail tail' _ goes tails⟩

theorem heedless_passedOn : PassedOn fun _ action => action.Heedless where
  silent silent := heedless_of_asks fun trail request asked => absurd asked (silent trail request)
  bind := Heedless.bind

theorem heedless_ask {request : Request} (placed : request.host?.isSome) :
    (ask request).Heedless :=
  heedless_of_asks fun _ _ asked => request_of_asks_ask asked ▸ placed

end Action

end Tenancy
