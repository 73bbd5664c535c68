import Mathlib.Order.Bounds.Basic
import Tenancy.Proofs.Surroundings

/-!
What becomes of the shutdown signal in the course of time. What is yet to happen to it tells from
when on shutdown is requested and how long there is somebody to request it, and every wait leads to
the signal that was foretold. A pause ends at the first time at which shutdown is requested.
-/

namespace Tenancy

namespace Signal

def come (due : Nat → Bool) (signal : Signal) : List Moment → Signal
  | [] => signal
  | moment :: later =>
      if due moment.time then (signal.apply moment.change).come due later else signal

theorem raised_apply {signal : Signal} (raised : signal.raised) (change : Change) :
    (signal.apply change).raised := by
  cases change with
  | raise => simp [apply, send, raised, apply_ite Signal.raised]
  | drop => exact raised

theorem raised_come {signal : Signal} (raised : signal.raised) (due : Nat → Bool)
    (moments : List Moment) : (signal.come due moments).raised := by
  induction moments generalizing signal with
  | nil => exact raised
  | cons moment later ih =>
      rw [come]
      split
      · exact ih (raised_apply raised moment.change)
      · exact raised

theorem come_come {early late : Nat → Bool} (within : ∀ time, early time → late time)
    (signal : Signal) (moments : List Moment) :
    (signal.come early moments).come late (moments.dropWhile (early ·.time)) =
      signal.come late moments := by
  induction moments generalizing signal with
  | nil => rfl
  | cons moment later ih =>
      rw [List.dropWhile_cons, come]
      by_cases due : early moment.time
      · rw [if_pos due, if_pos due, ih, come, if_pos (within _ due)]
      · rw [if_neg due, if_neg due]

theorem live_come {signal other : Signal} (same : signal.live = other.live) (due : Nat → Bool)
    (moments : List Moment) : (signal.come due moments).live = (other.come due moments).live := by
  induction moments generalizing signal other with
  | nil => exact same
  | cons moment later ih =>
      rw [come, come]
      split
      · refine ih ?_
        cases moment.change with
        | raise => simp [apply, send, apply_ite Signal.live, same]
        | drop => rfl
      · exact same

end Signal

namespace Surroundings

variable {I : Interface} {σ : Type} {surroundings : Surroundings I σ}

def requestedAt (surroundings : Surroundings I σ) (time : Nat) : Bool :=
  surroundings.signal.any fun signal => (signal.come (· ≤ time) surroundings.moments).raised

def watchedUntil (surroundings : Surroundings I σ) (time : Nat) : Bool :=
  surroundings.signal.any fun signal => (signal.come (· < time) surroundings.moments).live

def Punctual (surroundings : Surroundings I σ) : Prop :=
  ∀ moment ∈ surroundings.moments.head?, surroundings.now ≤ moment.time

theorem requestedAt_of_requested (raised : surroundings.requested) (time : Nat) :
    surroundings.requestedAt time := by
  cases signal : surroundings.signal with
  | none => simp [requested, signal] at raised
  | some on =>
      have before : on.raised := by simpa [requested, signal] using raised
      simpa [requestedAt, signal] using Signal.raised_come before _ _

theorem requestedAt_of_nil (none : surroundings.moments = []) (time : Nat) :
    surroundings.requestedAt time = surroundings.requested := by
  rw [requestedAt, none]
  rfl

theorem requestedAt_of_late {moment : Moment} {later : List Moment}
    (first : surroundings.moments = moment :: later) {time : Nat} (late : time < moment.time) :
    surroundings.requestedAt time = surroundings.requested := by
  simp only [requestedAt, first, Signal.come, decide_eq_true_eq, if_neg (Nat.not_le_of_lt late)]
  rfl

theorem requestedAt_of_due {moment : Moment} {later : List Moment}
    (first : surroundings.moments = moment :: later) {time : Nat} (due : moment.time ≤ time) :
    surroundings.requestedAt time = (surroundings.take moment later).requestedAt time := by
  simp only [requestedAt, first, Signal.come, decide_eq_true_eq, if_pos due, take, Option.any_map]

theorem passTo_eq (time : Nat) (moments : List Moment) :
    surroundings.passTo time moments =
      { surroundings with
        now := time
        signal := surroundings.signal.map (·.come (· < time) moments)
        moments := moments.dropWhile (·.time < time) } := by
  induction moments generalizing surroundings with
  | nil =>
      have same : surroundings.signal.map (·.come (· < time) []) = surroundings.signal :=
        Option.map_id'
      rw [same]
      rfl
  | cons moment later ih =>
      rw [passTo]
      by_cases early : moment.time < time
      · rw [if_pos early, ih, List.dropWhile_cons_of_pos (by simpa using early)]
        simp only [take, Option.map_map, Function.comp_def, Signal.come, early, decide_true,
          if_true]
      · have same : surroundings.signal.map (·.come (· < time) (moment :: later)) =
            surroundings.signal := by
          simp only [Signal.come, early, decide_false, Bool.false_eq_true, if_false]
          exact Option.map_id'
        rw [if_neg early, List.dropWhile_cons_of_neg (by simpa using early), same]

theorem requestedAt_mono {early late : Nat} (before : early ≤ late)
    (raised : surroundings.requestedAt early) : surroundings.requestedAt late := by
  cases signal : surroundings.signal with
  | none => simp [requestedAt, signal] at raised
  | some on =>
      have soon : (on.come (· ≤ early) surroundings.moments).raised := by
        simpa [requestedAt, signal] using raised
      have within (own : Nat) (due : (own ≤ early : Bool)) : (own ≤ late : Bool) := by
        simp only [decide_eq_true_eq] at due ⊢
        omega
      have lasting := Signal.raised_come soon (· ≤ late)
        (surroundings.moments.dropWhile (decide <| ·.time ≤ early))
      rw [Signal.come_come within] at lasting
      simpa [requestedAt, signal] using lasting

section

variable {time last : Nat}

theorem requestedAt_passTo (after : last ≤ time) :
    (surroundings.passTo last surroundings.moments).requestedAt time =
      surroundings.requestedAt time := by
  have within (own : Nat) (early : (own < last : Bool)) : (own ≤ time : Bool) := by
    simp only [decide_eq_true_eq] at early ⊢
    omega
  rw [passTo_eq, requestedAt, requestedAt, Option.any_map]
  exact congrArg (Option.any · _) (funext fun signal =>
    congrArg Signal.raised (Signal.come_come within signal _))

theorem requested_passTo_eq (positive : 0 < last) :
    (surroundings.passTo last surroundings.moments).requested =
      surroundings.requestedAt (last - 1) := by
  have same : (fun time : Nat => decide (time < last)) = fun time => decide (time ≤ last - 1) :=
    funext fun time => decide_eq_decide.mpr (by omega)
  rw [passTo_eq, requested, requestedAt, Option.any_map, same]

theorem watchedUntil_passTo (after : last ≤ time) :
    (surroundings.passTo last surroundings.moments).watchedUntil time =
      surroundings.watchedUntil time := by
  have within (own : Nat) (early : (own < last : Bool)) : (own < time : Bool) := by
    simp only [decide_eq_true_eq] at early ⊢
    omega
  rw [passTo_eq, watchedUntil, watchedUntil, Option.any_map]
  exact congrArg (Option.any · _) (funext fun signal =>
    congrArg Signal.live (Signal.come_come within signal _))

theorem punctual_passTo : (surroundings.passTo last surroundings.moments).Punctual := by
  intro moment first
  rw [passTo_eq] at first ⊢
  have late := List.head?_dropWhile_not (fun moment : Moment => decide (moment.time < last))
    surroundings.moments
  rw [Option.mem_def.mp first] at late
  simpa using late

end

section

variable {time milliseconds : Nat}

theorem requestedAt_wait (after : surroundings.now + milliseconds ≤ time) :
    (surroundings.wait milliseconds).requestedAt time = surroundings.requestedAt time := by
  unfold wait
  split
  · rfl
  · exact requestedAt_passTo after

theorem watchedUntil_wait (after : surroundings.now + milliseconds ≤ time) :
    (surroundings.wait milliseconds).watchedUntil time = surroundings.watchedUntil time := by
  unfold wait
  split
  · rfl
  · exact watchedUntil_passTo after

theorem Punctual.wait (punctual : surroundings.Punctual) :
    (surroundings.wait milliseconds).Punctual := by
  unfold Surroundings.wait
  split
  · exact punctual
  · exact punctual_passTo

end

section

variable {peer : Peer I σ} {asker : Nat} {query : I.Query}

theorem exchange_moments :
    (surroundings.exchange peer asker query).2.moments = surroundings.moments := by
  simp only [exchange, raise]
  split
  · split <;> rfl
  · rfl

theorem Punctual.watched (punctual : surroundings.Punctual) :
    surroundings.watchedUntil surroundings.now = surroundings.signal.any (·.live) := by
  rw [watchedUntil]
  cases moments : surroundings.moments with
  | nil => rfl
  | cons moment later =>
      have late := punctual moment (by rw [moments]; rfl)
      simp only [Signal.come, decide_eq_true_eq, if_neg (Nat.not_lt_of_le late)]

theorem requestedAt_exchange (time : Nat) :
    (surroundings.exchange peer asker query).2.requestedAt time =
      (surroundings.requestedAt time ||
        peer.raises surroundings.exchanges.length surroundings.state query &&
          surroundings.signal.any (·.live)) := by
  rw [requestedAt, exchange_moments]
  simp only [exchange, raise]
  by_cases sets : peer.raises surroundings.exchanges.length surroundings.state query
  · rcases signal : surroundings.signal with _ | ⟨_ | _, _ | _⟩ <;>
      simp [sets, signal, requestedAt, Signal.raised_come]
  · simp [sets, requestedAt]

theorem watchedUntil_exchange (time : Nat) :
    (surroundings.exchange peer asker query).2.watchedUntil time =
      surroundings.watchedUntil time := by
  have others : (⟨true, true⟩ : Signal).live = (⟨false, true⟩ : Signal).live := rfl
  have kept := Signal.live_come others (· < time) surroundings.moments
  rw [watchedUntil, exchange_moments]
  simp only [exchange, raise]
  by_cases sets : peer.raises surroundings.exchanges.length surroundings.state query
  · rcases signal : surroundings.signal with _ | ⟨_ | _, _ | _⟩ <;>
      simp [sets, signal, watchedUntil, kept]
  · simp [sets, watchedUntil]

end

inductive Lasts (surroundings : Surroundings I σ) (milliseconds : Nat) :
    Bool × Surroundings I σ → Prop
  | whole (calm : ∀ time < surroundings.now + milliseconds, surroundings.requestedAt time = false) :
      Lasts surroundings milliseconds
        (false, surroundings.passTo (surroundings.now + milliseconds) surroundings.moments)
  | cut {after : Surroundings I σ} (raised : after.requested)
      (first : IsLeast {time | surroundings.now ≤ time ∧
        time < surroundings.now + milliseconds ∧ surroundings.requestedAt time} after.now) :
      Lasts surroundings milliseconds (true, after)

namespace Lasts

variable {milliseconds : Nat} {result : Bool × Surroundings I σ}

theorem told_iff (lasts : surroundings.Lasts milliseconds result) :
    result.1 ↔ ∃ time, surroundings.now ≤ time ∧ time < surroundings.now + milliseconds ∧
      surroundings.requestedAt time := by
  cases lasts with
  | whole calm =>
      refine ⟨nofun, fun ⟨time, _, low, raised⟩ => ?_⟩
      rw [calm time low] at raised
      cases raised
  | cut _ first => exact ⟨fun _ => ⟨_, first.1⟩, fun _ => rfl⟩

theorem requested_eq (lasts : surroundings.Lasts milliseconds result)
    (positive : 0 < milliseconds) : result.2.requested = result.1 := by
  cases lasts with
  | whole calm =>
      rw [requested_passTo_eq (Nat.add_pos_right _ positive)]
      exact calm _ (by omega)
  | cut raised _ => exact raised

theorem requestedAt_eq (lasts : surroundings.Lasts milliseconds result) {time : Nat}
    (after : result.2.now ≤ time) : result.2.requestedAt time = surroundings.requestedAt time := by
  cases lasts with
  | whole => exact requestedAt_passTo ((passTo_now ..).symm.trans_le after)
  | cut raised first =>
      rw [requestedAt_of_requested raised, requestedAt_mono after first.1.2.2]

end Lasts

theorem pauseTo_cases {last : Nat} {moments : List Moment} (left : surroundings.moments = moments)
    (calm : surroundings.requested = false) (ahead : surroundings.now < last) :
    (surroundings.pauseTo last moments = (false, surroundings.passTo last moments) ∧
        ∀ time < last, surroundings.requestedAt time = false) ∨
      ∃ after : Surroundings I σ, surroundings.pauseTo last moments = (true, after) ∧
        after.requested ∧ IsLeast {time | surroundings.now ≤ time ∧ time < last ∧
          surroundings.requestedAt time} after.now := by
  induction moments generalizing surroundings with
  | nil => exact .inl ⟨rfl, fun time _ => (requestedAt_of_nil left time).trans calm⟩
  | cons moment later ih =>
      rw [pauseTo, passTo]
      by_cases early : moment.time < last
      · rw [if_pos early, if_pos early]
        -- Before the first moment comes, all is as it is now.
        have none {time : Nat} (raised : surroundings.requestedAt time) : moment.time ≤ time := by
          refine Nat.le_of_not_lt fun late => ?_
          rw [requestedAt_of_late left late, calm] at raised
          cases raised
        by_cases raised : (surroundings.take moment later).requested
        · rw [if_pos raised]
          refine .inr ⟨_, rfl, raised, ⟨Nat.le_max_left .., Nat.max_lt.mpr ⟨ahead, early⟩, ?_⟩, ?_⟩
          · have due : moment.time ≤ (surroundings.take moment later).now := Nat.le_max_right ..
            rw [requestedAt_of_due left due]
            exact requestedAt_of_requested raised _
          · rintro time ⟨now, -, own⟩
            exact Nat.max_le.mpr ⟨now, none own⟩
        · rw [if_neg raised]
          have ahead' : (surroundings.take moment later).now < last := Nat.max_lt.mpr ⟨ahead, early⟩
          obtain ⟨same, never⟩ | ⟨after, same, own, ⟨now, within, on⟩, least⟩ :=
            @ih (surroundings.take moment later) rfl (by simpa using raised) ahead'
          · refine .inl ⟨same, fun time low => ?_⟩
            by_cases due : moment.time ≤ time
            · rw [requestedAt_of_due left due, never time low]
            · rw [requestedAt_of_late left (Nat.lt_of_not_le due), calm]
          · have due : moment.time ≤ after.now := Nat.le_trans (Nat.le_max_right ..) now
            refine .inr ⟨after, same, own, ⟨Nat.le_trans (Nat.le_max_left ..) now, within, ?_⟩, ?_⟩
            · rwa [requestedAt_of_due left due]
            · rintro time ⟨from_, low, own⟩
              refine least ⟨Nat.max_le.mpr ⟨from_, none own⟩, low, ?_⟩
              rwa [← requestedAt_of_due left (none own)]
      · rw [if_neg early, if_neg early]
        refine .inl ⟨rfl, fun time low => ?_⟩
        rw [requestedAt_of_late left (Nat.lt_of_lt_of_le low (Nat.le_of_not_lt early)), calm]

theorem pause_lasts {milliseconds : Nat} (positive : 0 < milliseconds) :
    surroundings.Lasts milliseconds (surroundings.pause milliseconds) := by
  unfold pause
  by_cases raised : surroundings.requested
  · rw [if_pos raised]
    have now := requestedAt_of_requested raised surroundings.now
    exact .cut raised ⟨⟨Nat.le_refl _, Nat.lt_add_of_pos_right positive, now⟩, fun _ own => own.1⟩
  · rw [if_neg raised, if_neg (Nat.ne_of_gt positive)]
    have calm : surroundings.requested = false := by simpa using raised
    obtain ⟨same, never⟩ | ⟨after, same, own, first⟩ :=
      pauseTo_cases rfl calm (Nat.lt_add_of_pos_right positive)
    · rw [same]
      exact .whole never
    · rw [same]
      exact .cut own first

end Surroundings

end Tenancy
