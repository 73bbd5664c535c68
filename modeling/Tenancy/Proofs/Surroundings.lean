import Tenancy.Surroundings

/-!
What does not change while a program waits, pauses or writes: the peer's state and the record of
queries. Both change only when a query is answered. A request for shutdown is never taken back.
-/

namespace Tenancy.Surroundings

variable {I : Interface} {σ : Type} (surroundings : Surroundings I σ)

@[simp] theorem write_state (event : Event) :
    (surroundings.write event).state = surroundings.state := rfl

@[simp] theorem write_exchanges (event : Event) :
    (surroundings.write event).exchanges = surroundings.exchanges := rfl

@[simp] theorem raise_exchanges (notice : List Event) :
    (surroundings.raise notice).exchanges = surroundings.exchanges := by
  unfold raise
  split <;> rfl

theorem passTo_keeps (time : Nat) (moments : List Moment) :
    (surroundings.passTo time moments).state = surroundings.state ∧
      (surroundings.passTo time moments).exchanges = surroundings.exchanges := by
  induction moments generalizing surroundings with
  | nil => exact ⟨rfl, rfl⟩
  | cons moment later ih =>
      simp only [passTo]
      split
      · exact ih (surroundings.take moment later)
      · exact ⟨rfl, rfl⟩

theorem pauseTo_keeps (time : Nat) (moments : List Moment) :
    (surroundings.pauseTo time moments).2.state = surroundings.state ∧
      (surroundings.pauseTo time moments).2.exchanges = surroundings.exchanges := by
  induction moments generalizing surroundings with
  | nil => exact ⟨rfl, rfl⟩
  | cons moment later ih =>
      simp only [pauseTo]
      split
      · split
        · exact ⟨rfl, rfl⟩
        · exact ih (surroundings.take moment later)
      · exact ⟨rfl, rfl⟩

@[simp] theorem wait_state (milliseconds : Nat) :
    (surroundings.wait milliseconds).state = surroundings.state := by
  unfold wait
  split
  · rfl
  · exact (passTo_keeps _ _ _).1

@[simp] theorem wait_exchanges (milliseconds : Nat) :
    (surroundings.wait milliseconds).exchanges = surroundings.exchanges := by
  unfold wait
  split
  · rfl
  · exact (passTo_keeps _ _ _).2

@[simp] theorem pause_state (milliseconds : Nat) :
    (surroundings.pause milliseconds).2.state = surroundings.state := by
  unfold pause
  split
  · rfl
  · split
    · rfl
    · exact (pauseTo_keeps _ _ _).1

@[simp] theorem pause_exchanges (milliseconds : Nat) :
    (surroundings.pause milliseconds).2.exchanges = surroundings.exchanges := by
  unfold pause
  split
  · rfl
  · split
    · rfl
    · exact (pauseTo_keeps _ _ _).2

theorem passTo_now (time : Nat) (moments : List Moment) :
    (surroundings.passTo time moments).now = time := by
  induction moments generalizing surroundings with
  | nil => rfl
  | cons moment later ih =>
      simp only [passTo]
      split
      · exact ih (surroundings.take moment later)
      · rfl

theorem wait_now (milliseconds : Nat) :
    (surroundings.wait milliseconds).now = surroundings.now + milliseconds := by
  unfold wait
  split
  next none => rw [none, Nat.add_zero]
  next => exact passTo_now _ _ _

theorem pauseTo_now (time : Nat) (moments : List Moment)
    (whole : (surroundings.pauseTo time moments).1 = false) :
    (surroundings.pauseTo time moments).2.now = time := by
  induction moments generalizing surroundings with
  | nil => rfl
  | cons moment later ih =>
      simp only [pauseTo] at whole ⊢
      split at whole
      next early =>
        rw [if_pos early]
        split at whole
        next => cases whole
        next calm =>
          rw [if_neg calm]
          exact ih _ whole
      next late => rw [if_neg late]

theorem pause_now (milliseconds : Nat) (whole : (surroundings.pause milliseconds).1 = false) :
    (surroundings.pause milliseconds).2.now = surroundings.now + milliseconds := by
  unfold pause at whole ⊢
  split at whole
  next => cases whole
  next calm =>
    rw [if_neg calm]
    split at whole
    next none => rw [if_pos none, none, Nat.add_zero]
    next some =>
      rw [if_neg some]
      exact pauseTo_now _ _ _ whole

variable (peer : Peer I σ) (asker : Nat) (query : I.Query)

@[simp] theorem exchange_answer :
    (surroundings.exchange peer asker query).1 = (peer.respond query surroundings.state).1 := rfl

@[simp] theorem exchange_state :
    (surroundings.exchange peer asker query).2.state =
      (peer.respond query surroundings.state).2 := rfl

@[simp] theorem exchange_exchanges :
    (surroundings.exchange peer asker query).2.exchanges =
      ⟨surroundings.now, asker, query, (peer.respond query surroundings.state).1⟩ ::
        surroundings.exchanges := rfl

@[simp] theorem exchange_now :
    (surroundings.exchange peer asker query).2.now = surroundings.now := by
  simp only [exchange, raise]
  split
  · split <;> rfl
  · rfl

section

variable {surroundings} {peer} {asker} {query}

theorem requested_take {moment : Moment} {later : List Moment} (raised : surroundings.requested) :
    (surroundings.take moment later).requested := by
  rcases found : surroundings.signal with _ | signal
  · simp [requested, found] at raised
  · have on : signal.raised = true := by simpa [requested, found] using raised
    have kept : (signal.apply moment.change).raised = true := by
      cases moment.change with
      | raise => simp [Signal.apply, Signal.send, on, apply_ite Signal.raised]
      | drop => exact on
    simpa [requested, take, found] using kept

theorem requested_exchange (raised : surroundings.requested) :
    (surroundings.exchange peer asker query).2.requested := by
  have kept : surroundings.raise peer.notice = surroundings := by
    unfold raise
    split
    next signal => simp [requested, signal] at raised
    next => rfl
  simpa [exchange, kept, requested] using raised

theorem requested_passTo {time : Nat} {moments : List Moment} (raised : surroundings.requested) :
    (surroundings.passTo time moments).requested := by
  induction moments generalizing surroundings with
  | nil => exact raised
  | cons moment later ih =>
      simp only [passTo]
      split
      · exact ih (requested_take raised)
      · exact raised

theorem requested_wait {milliseconds : Nat} (raised : surroundings.requested) :
    (surroundings.wait milliseconds).requested := by
  unfold wait
  split
  · exact raised
  · exact requested_passTo raised

theorem requested_pauseTo {time : Nat} {moments : List Moment}
    (told : (surroundings.pauseTo time moments).1) :
    (surroundings.pauseTo time moments).2.requested := by
  induction moments generalizing surroundings with
  | nil => cases told
  | cons moment later ih =>
      simp only [pauseTo] at told ⊢
      split at told
      next early =>
        rw [if_pos early]
        split at told
        next raised => rwa [if_pos raised]
        next calm =>
          rw [if_neg calm]
          exact ih told
      next => cases told

theorem requested_pause {milliseconds : Nat} (told : (surroundings.pause milliseconds).1) :
    (surroundings.pause milliseconds).2.requested := by
  unfold pause at told ⊢
  split at told
  next raised => rwa [if_pos raised]
  next calm =>
    rw [if_neg calm]
    split at told
    next => cases told
    next some =>
      rw [if_neg some]
      exact requested_pauseTo told

theorem signal_passTo_of_none {time : Nat} {moments : List Moment}
    (absent : surroundings.signal = none) : (surroundings.passTo time moments).signal = none := by
  induction moments generalizing surroundings with
  | nil => exact absent
  | cons moment later ih =>
      simp only [passTo]
      split
      · exact ih (by rw [take, absent]; rfl)
      · exact absent

theorem signal_pauseTo_of_none {time : Nat} {moments : List Moment}
    (absent : surroundings.signal = none) : (surroundings.pauseTo time moments).2.signal = none := by
  induction moments generalizing surroundings with
  | nil => exact absent
  | cons moment later ih =>
      have taken : (surroundings.take moment later).signal = none := by rw [take, absent]; rfl
      simp only [pauseTo]
      split
      · split
        · exact taken
        · exact ih taken
      · exact absent

theorem signal_wait_of_none {milliseconds : Nat} (absent : surroundings.signal = none) :
    (surroundings.wait milliseconds).signal = none := by
  unfold wait
  split
  · exact absent
  · exact signal_passTo_of_none absent

theorem signal_pause_of_none {milliseconds : Nat} (absent : surroundings.signal = none) :
    (surroundings.pause milliseconds).2.signal = none := by
  unfold pause
  split
  · exact absent
  · split
    · exact absent
    · exact signal_pauseTo_of_none absent

theorem signal_exchange_of_none (absent : surroundings.signal = none) :
    (surroundings.exchange peer asker query).2.signal = none := by
  simp [exchange, raise, absent]

theorem pause_of_requested {milliseconds : Nat} (raised : surroundings.requested) :
    surroundings.pause milliseconds = (true, surroundings) :=
  if_pos raised

end

end Tenancy.Surroundings
