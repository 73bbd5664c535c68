import Tenancy.Proofs.Program.Trail

/-!
A shutdown signal on which shutdown is never requested, as one program sees it. Whatever happens to
such a signal happens while the program waits, and it makes no wait shorter or longer.
-/

namespace Tenancy

variable {I : Interface} {σ α : Type} {surroundings : Surroundings I σ} {peer : Peer I σ}
  {asker : Nat}

namespace Surroundings

def unsignalled (surroundings : Surroundings I σ) : Surroundings I σ :=
  { surroundings with signal := none, moments := [] }

def watched (surroundings : Surroundings I σ) : Bool :=
  surroundings.signal.any (·.live)

/-- Nobody is there who could request shutdown, or this one is not going to go. -/
def Steady (surroundings : Surroundings I σ) : Prop :=
  surroundings.watched = false ∨ ∀ moment ∈ surroundings.moments, moment.change.isDrop = false

theorem watched_take (moment : Moment) (later : List Moment) :
    (surroundings.take moment later).watched =
      (surroundings.watched && !moment.change.isDrop) := by
  cases signal : surroundings.signal with
  | none => simp [watched, take, signal]
  | some on =>
      cases change : moment.change with
      | raise =>
          cases live : on.live <;>
            simp [watched, take, signal, change, live, Signal.apply, Signal.send, Change.isDrop]
      | drop rounds =>
          simp [watched, take, signal, change, Signal.apply, Signal.drop, Change.isDrop]

theorem Steady.take {moment : Moment} {later : List Moment} (steady : surroundings.Steady)
    (first : surroundings.moments = moment :: later) :
    (surroundings.take moment later).Steady ∧
      (surroundings.watched → (surroundings.take moment later).watched) := by
  rw [Steady, watched_take]
  obtain unwatched | stays := steady
  · rw [unwatched]
    exact ⟨.inl rfl, fun watched => by cases watched⟩
  · rw [first, List.forall_mem_cons] at stays
    rw [stays.1, Bool.not_false, Bool.and_true]
    exact ⟨.inr stays.2, id⟩

theorem exchange_keeps {query : I.Query} :
    (surroundings.exchange peer asker query).2.moments = surroundings.moments ∧
      (surroundings.exchange peer asker query).2.watched = surroundings.watched := by
  simp only [exchange, raise, watched]
  split
  · split
    next signal => simp [signal]
    next => exact ⟨rfl, rfl⟩
  · exact ⟨rfl, rfl⟩

theorem calm_of_grows {later : Surroundings I σ}
    (grows : surroundings.requested → later.requested) (calm : later.requested = false) :
    surroundings.requested = false := by
  cases raised : surroundings.requested with
  | false => rfl
  | true => rw [grows raised] at calm; cases calm

theorem unsignalled_passTo (time : Nat) (moments : List Moment) :
    (surroundings.passTo time moments).unsignalled = { surroundings.unsignalled with now := time } := by
  induction moments generalizing surroundings with
  | nil => rfl
  | cons moment later ih =>
      rw [passTo]
      split
      · rw [ih]
        rfl
      · rfl

theorem unsignalled_wait (milliseconds : Nat) :
    surroundings.unsignalled.wait milliseconds = (surroundings.wait milliseconds).unsignalled := by
  by_cases none : milliseconds = 0
  · simp [wait, none]
  · rw [wait, if_neg none, wait, if_neg none, unsignalled_passTo]
    rfl

theorem pauseTo_calm {time : Nat} {moments : List Moment}
    (calm : (surroundings.pauseTo time moments).2.requested = false) :
    (surroundings.pauseTo time moments).1 = false ∧
      (surroundings.pauseTo time moments).2.unsignalled =
        { surroundings.unsignalled with now := time } := by
  induction moments generalizing surroundings with
  | nil => exact ⟨rfl, rfl⟩
  | cons moment later ih =>
      rw [pauseTo] at calm ⊢
      by_cases early : moment.time < time
      · by_cases raised : (surroundings.take moment later).requested
        · simp [early, raised] at calm
        · simp only [early, raised, if_true, Bool.false_eq_true, if_false] at calm ⊢
          exact ih calm
      · simp [early, unsignalled]

theorem pause_unsignalled {milliseconds : Nat}
    (calm : (surroundings.pause milliseconds).2.requested = false) :
    (surroundings.pause milliseconds).1 = false ∧
      surroundings.unsignalled.pause milliseconds =
        (false, (surroundings.pause milliseconds).2.unsignalled) := by
  have quiet : surroundings.unsignalled.requested = false := rfl
  by_cases raised : surroundings.requested
  · simp [pause, raised] at calm
  · by_cases none : milliseconds = 0
    · simp [pause, raised, none, quiet]
    · simp only [pause, raised, none, quiet, Bool.false_eq_true, if_false] at calm ⊢
      obtain ⟨told, same⟩ := pauseTo_calm calm
      rw [told, same]
      exact ⟨rfl, rfl⟩

theorem raise_calm {notice : List Event} (calm : (surroundings.raise notice).requested = false) :
    surroundings.raise notice = surroundings := by
  unfold raise at calm ⊢
  split at calm
  · cases calm
  · rfl

theorem exchange_unsignalled {query : I.Query}
    (calm : (surroundings.exchange peer asker query).2.requested = false) :
    surroundings.unsignalled.exchange peer asker query =
      ((surroundings.exchange peer asker query).1,
        (surroundings.exchange peer asker query).2.unsignalled) := by
  let raises := peer.raises surroundings.exchanges.length surroundings.state query
  let raised := if raises then surroundings.raise peer.notice else surroundings
  have same : raised = surroundings := by
    by_cases off : raises
    · have quiet : raised.requested = false := calm
      simp only [raised, off, if_true] at quiet ⊢
      exact raise_calm quiet
    · simp [raised, off]
  have without : surroundings.unsignalled.raise peer.notice = surroundings.unsignalled := rfl
  simp only [exchange, without, ite_self]
  change _ = (_, ({ raised with state := _, exchanges := _ } : Surroundings I σ).unsignalled)
  rw [same]
  rfl

end Surroundings

/-- By itself a program does the same without the signal. -/
theorem Program.run_unsignalled {program : Program I α}
    (calm : (program.run peer asker surroundings).2.requested = false) :
    program.run peer asker surroundings.unsignalled =
      ((program.run peer asker surroundings).1,
        (program.run peer asker surroundings).2.unsignalled) := by
  induction program generalizing surroundings with
  | done result => rfl
  | write event next ih => exact ih calm
  | ask query next ih =>
      have goes (start : Surroundings I σ) : (Program.ask query next).run peer asker start =
          let answered := (start.wait (peer.latency start.state query)).exchange peer asker query
          (next answered.1).run peer asker answered.2 := rfl
      rw [goes] at calm ⊢
      have before := Surroundings.calm_of_grows requested_run calm
      have wait : surroundings.unsignalled.wait
          (peer.latency surroundings.unsignalled.state query) = _ :=
        surroundings.unsignalled_wait (peer.latency surroundings.state query)
      rw [goes, wait, Surroundings.exchange_unsignalled before]
      exact ih _ calm
  | pause milliseconds next ih =>
      have goes (start : Surroundings I σ) : (Program.pause milliseconds next).run peer asker start =
          (next (start.pause milliseconds).1).run peer asker (start.pause milliseconds).2 := rfl
      rw [goes] at calm ⊢
      have before := Surroundings.calm_of_grows requested_run calm
      obtain ⟨told, same⟩ := Surroundings.pause_unsignalled before
      rw [goes, same, told]
      rw [told] at calm
      exact ih false calm
  | look next ih =>
      have before : surroundings.requested = false := Surroundings.calm_of_grows requested_run calm
      simp only [run, before] at calm ⊢
      exact ih false calm

end Tenancy
