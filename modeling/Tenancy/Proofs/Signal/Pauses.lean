import Mathlib.Data.List.Chain
import Tenancy.Backend
import Tenancy.Proofs.Signal.History

/-!
Pauses one after the other beside a signal on which shutdown is requested at most once and which is
left at most once. Whether and when each of them is cut short is one formula over the two times.
-/

namespace Tenancy

structure Schedule where
  raised : Bool
  live : Bool
  raise : Option Nat
  leave : Option Nat
  deriving DecidableEq, Repr

namespace Schedule

def moments (schedule : Schedule) : List Moment :=
  match schedule.raise, schedule.leave with
  | none, none => []
  | some raise, none => [⟨raise, .raise⟩]
  | none, some leave => [⟨leave, .drop⟩]
  | some raise, some leave =>
      if raise ≤ leave then [⟨raise, .raise⟩, ⟨leave, .drop⟩]
      else [⟨leave, .drop⟩, ⟨raise, .raise⟩]

def surroundings {I : Interface} {σ : Type} (schedule : Schedule) (state : σ) :
    Surroundings I σ :=
  { Surroundings.start state with
    signal := some ⟨schedule.raised, schedule.live⟩
    moments := schedule.moments }

def RaisesAt (schedule : Schedule) (time : Nat) : Prop :=
  schedule.live ∧ schedule.raise = some time ∧ ∀ leave ∈ schedule.leave, time < leave

def RequestedAt (schedule : Schedule) (time : Nat) : Prop :=
  schedule.raised ∨ ∃ raise ≤ time, schedule.RaisesAt raise

end Schedule

structure Pause where
  begun : Nat
  length : Nat
  told : Bool
  ended : Nat
  requested : Bool
  deriving DecidableEq, Repr

namespace Surroundings

variable {I : Interface} {σ : Type}

def record (surroundings : Surroundings I σ) (length : Nat)
    (result : Bool × Surroundings I σ) : Pause :=
  ⟨surroundings.now, length, result.1, result.2.now, result.2.requested⟩

def pauses (surroundings : Surroundings I σ) : (lengths : List Nat) → List Pause
  | [] => []
  | length :: later =>
      let result := surroundings.pause length
      surroundings.record length result :: result.2.pauses later

end Surroundings

structure Pause.Follows (pause : Pause) (schedule : Schedule) : Prop where
  told_iff : pause.told ↔ schedule.RequestedAt pause.begun ∨
    ∃ raise, schedule.RaisesAt raise ∧ pause.begun ≤ raise ∧ raise < pause.begun + pause.length
  at_once : schedule.RequestedAt pause.begun → pause.ended = pause.begun
  cut : schedule.raised = false → ∀ raise, schedule.RaisesAt raise → pause.begun ≤ raise →
    raise < pause.begun + pause.length → pause.ended = raise
  whole : pause.told = false → pause.ended = pause.begun + pause.length
  requested_eq : pause.requested = pause.told

namespace Schedule

variable {I : Interface} {σ : Type} {schedule : Schedule} {surroundings : Surroundings I σ}

def Foretells (schedule : Schedule) (surroundings : Surroundings I σ) : Prop :=
  ∀ time ≥ surroundings.now, surroundings.requestedAt time ↔ schedule.RequestedAt time

def Apart (schedule : Schedule) : Prop :=
  ∀ time ∈ schedule.raise, time ∉ schedule.leave

theorem foretells_start (apart : schedule.Apart) (state : σ) :
    schedule.Foretells (schedule.surroundings state : Surroundings I σ) := by
  intro time _
  obtain ⟨raised, live, raise, leave⟩ := schedule
  simp only [Surroundings.requestedAt, Schedule.surroundings, moments, RequestedAt, RaisesAt,
    Option.any_some]
  rcases raise with _ | raise <;> rcases leave with _ | leave
  · simp [Signal.come]
  · simp [Signal.come, Signal.apply, Signal.drop, apply_ite Signal.raised]
  · by_cases due : raise ≤ time <;> cases live <;>
      simp [Signal.come, Signal.apply, Signal.send, due]
  · have different : raise ≠ leave := fun same => apart raise rfl (congrArg some same.symm)
    by_cases order : raise ≤ leave
    · have first : raise < leave := by omega
      by_cases due : raise ≤ time <;> by_cases left : leave ≤ time <;> cases live <;>
        simp [Signal.come, Signal.apply, Signal.send, Signal.drop, order, due, left, first]
    · by_cases left : leave ≤ time <;> by_cases due : raise ≤ time <;>
        simp [Signal.come, Signal.apply, Signal.send, Signal.drop, order, due, left,
          Nat.le_of_not_le order]

variable {length : Nat} {result : Bool × Surroundings I σ}

theorem Foretells.lasts (foretells : schedule.Foretells surroundings)
    (lasts : surroundings.Lasts length result) : schedule.Foretells result.2 := by
  intro time after
  have ahead : surroundings.now ≤ result.2.now := by
    cases lasts with
    | whole => exact Nat.le_trans (Nat.le_add_right ..) (Surroundings.passTo_now ..).ge
    | cut _ first => exact first.1.1
  rw [lasts.requestedAt_eq after]
  exact foretells time (Nat.le_trans ahead after)

theorem Foretells.told_iff (foretells : schedule.Foretells surroundings) (positive : 0 < length)
    (lasts : surroundings.Lasts length result) :
    result.1 ↔ schedule.RequestedAt surroundings.now ∨ ∃ raise, schedule.RaisesAt raise ∧
      surroundings.now ≤ raise ∧ raise < surroundings.now + length := by
  rw [lasts.told_iff]
  constructor
  · rintro ⟨time, now, low, requested⟩
    obtain raised | ⟨raise, due, raises⟩ := (foretells time now).mp requested
    · exact .inl (.inl raised)
    · by_cases before : raise ≤ surroundings.now
      · exact .inl (.inr ⟨raise, before, raises⟩)
      · exact .inr ⟨raise, raises, by omega, by omega⟩
  · rintro (requested | ⟨raise, raises, now, low⟩)
    · exact ⟨_, Nat.le_refl _, by omega, (foretells _ (Nat.le_refl _)).mpr requested⟩
    · exact ⟨raise, now, low, (foretells raise now).mpr (.inr ⟨raise, Nat.le_refl _, raises⟩)⟩

theorem Foretells.follows (foretells : schedule.Foretells surroundings) (positive : 0 < length)
    (lasts : surroundings.Lasts length result) :
    (surroundings.record length result).Follows schedule where
  told_iff := foretells.told_iff positive lasts
  at_once requested := by
    have now := (foretells _ (Nat.le_refl _)).mpr requested
    cases lasts with
    | whole calm => simp [calm _ (Nat.lt_add_of_pos_right positive)] at now
    | cut _ first =>
        have early := first.2 ⟨Nat.le_refl _, Nat.lt_add_of_pos_right positive, now⟩
        exact Nat.le_antisymm early first.1.1
  cut calm raise raises now low := by
    have own := (foretells raise now).mpr (.inr ⟨raise, Nat.le_refl _, raises⟩)
    cases lasts with
    | whole none => simp [none raise low] at own
    | cut _ first =>
        obtain ⟨begun, _, requested⟩ := first.1
        obtain raised | ⟨other, due, its⟩ := (foretells _ begun).mp requested
        · simp [calm] at raised
        · have same : other = raise := Option.some.inj (its.2.1.symm.trans raises.2.1)
          exact Nat.le_antisymm (first.2 ⟨now, low, own⟩) (same ▸ due)
  whole calm := by
    cases lasts with
    | whole => exact Surroundings.passTo_now ..
    | cut => cases calm
  requested_eq := lasts.requested_eq positive

end Schedule

namespace Surroundings

variable {I : Interface} {σ : Type} {schedule : Schedule} {surroundings : Surroundings I σ}
  {lengths : List Nat}

theorem pauses_lengths : (surroundings.pauses lengths).map (·.length) = lengths := by
  induction lengths generalizing surroundings with
  | nil => rfl
  | cons length later ih => exact congrArg (length :: ·) ih

theorem pauses_begun :
    ∀ pause ∈ (surroundings.pauses lengths).head?, pause.begun = surroundings.now := by
  cases lengths with
  | nil => nofun
  | cons length later =>
      rintro _ ⟨⟩
      rfl

theorem pauses_joined :
    (surroundings.pauses lengths).IsChain fun earlier later => later.begun = earlier.ended := by
  induction lengths generalizing surroundings with
  | nil => exact .nil
  | cons length later ih => exact List.isChain_cons.mpr ⟨pauses_begun, ih⟩

theorem pauses_of_requested (raised : surroundings.requested) :
    ∀ pause ∈ surroundings.pauses lengths, pause.told ∧ pause.ended = pause.begun := by
  induction lengths with
  | nil => nofun
  | cons length later ih =>
      rw [pauses, pause_of_requested raised]
      exact List.forall_mem_cons.mpr ⟨⟨rfl, rfl⟩, ih⟩

theorem pauses_latched :
    (surroundings.pauses lengths).Pairwise fun earlier later =>
      earlier.told → later.told ∧ later.ended = later.begun := by
  induction lengths generalizing surroundings with
  | nil => exact .nil
  | cons length later ih =>
      refine List.pairwise_cons.mpr ⟨fun pause member told => ?_, ih⟩
      exact pauses_of_requested (requested_pause told) pause member

theorem pauses_follow (foretells : schedule.Foretells surroundings)
    (positive : ∀ length ∈ lengths, 0 < length) :
    ∀ pause ∈ surroundings.pauses lengths, pause.Follows schedule := by
  induction lengths generalizing surroundings with
  | nil => nofun
  | cons length later ih =>
      obtain ⟨own, others⟩ := List.forall_mem_cons.mp positive
      have lasts := surroundings.pause_lasts own
      have later := ih (foretells.lasts lasts) others
      exact List.forall_mem_cons.mpr ⟨foretells.follows own lasts, later⟩

end Surroundings

namespace Schedule

/-- Every pause tells of a request, and lasts, as the two times have it. Once a pause told of one,
all later ones do at once. -/
theorem pauses_scheduled {I : Interface} {σ : Type} (state : σ) (schedule : Schedule)
    (apart : schedule.Apart) (lengths : List Nat) (positive : ∀ length ∈ lengths, 0 < length) :
    let pauses := (schedule.surroundings state : Surroundings I σ).pauses lengths
    pauses.map (·.length) = lengths ∧
      (∀ pause ∈ pauses.head?, pause.begun = 0) ∧
      (pauses.IsChain fun earlier later => later.begun = earlier.ended) ∧
      (∀ pause ∈ pauses, pause.Follows schedule) ∧
      pauses.Pairwise fun earlier later =>
        earlier.told → later.told ∧ later.ended = later.begun := by
  intro pauses
  have follow : ∀ pause ∈ pauses, pause.Follows schedule :=
    Surroundings.pauses_follow (foretells_start apart state) positive
  exact ⟨Surroundings.pauses_lengths, Surroundings.pauses_begun, Surroundings.pauses_joined,
    follow, Surroundings.pauses_latched⟩

theorem pauses_scheduled_second :
    let schedule : Schedule := ⟨false, true, some 250, some 400⟩
    let pauses := (schedule.surroundings () : Surroundings Backend Unit).pauses [100, 200, 50]
    schedule.Apart ∧ (∀ length ∈ [100, 200, 50], 0 < length) ∧
      pauses = [⟨0, 100, false, 100, false⟩, ⟨100, 200, true, 250, true⟩,
        ⟨250, 50, true, 250, true⟩] ∧
      ∀ pause ∈ pauses, pause.Follows schedule := by
  intro schedule pauses
  have apart : schedule.Apart := by
    rintro _ ⟨⟩
    decide
  have positive : ∀ length ∈ [100, 200, 50], 0 < length := by decide
  obtain ⟨_, _, _, follow, _⟩ :=
    @pauses_scheduled Backend Unit () schedule apart [100, 200, 50] positive
  exact ⟨apart, positive, by decide, follow⟩

end Schedule

end Tenancy
