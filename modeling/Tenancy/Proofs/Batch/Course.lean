import Mathlib.Logic.Relation
import Tenancy.Proofs.Batch

/-!
The course of a batch: from each state that it reaches to each later one, every program goes by a
trail of its own. What the trail shows of the shutdown signal agrees with the signal's state at both
ends, since a request is never taken back.
-/

namespace Tenancy.Batch

variable {I : Interface} {σ α : Type} {batch middle later : Batch I σ α} {peer : Peer I σ}

def Reaches (peer : Peer I σ) : Batch I σ α → Batch I σ α → Prop :=
  Relation.ReflTransGen fun batch next => batch.step peer = some next

theorem reaches_run (batch : Batch I σ α) (peer : Peer I σ) :
    Reaches peer batch (batch.run peer) := by
  fun_induction Batch.run batch peer with
  | case1 batch stuck => exact .refl
  | case2 batch next stepped ih => exact .head stepped ih

theorem Reaches.run_eq (reaches : Reaches peer batch later) :
    later.run peer = batch.run peer := by
  induction reaches with
  | refl => rfl
  | @tail middle later _ stepped ih =>
      have unrolled : middle.run peer = later.run peer := by
        rw [Batch.run]
        split
        next stuck => rw [stuck] at stepped; cases stepped
        next next found =>
          rw [found] at stepped
          rw [Option.some.inj stepped]
      rw [← unrolled, ih]

def walk (peer : Peer I σ) : Nat → Batch I σ α → Batch I σ α
  | 0, batch => batch
  | steps + 1, batch =>
      match batch.step peer with
      | none => batch
      | some next => walk peer steps next

theorem reaches_walk (steps : Nat) (batch : Batch I σ α) :
    Reaches peer batch (batch.walk peer steps) := by
  induction steps generalizing batch with
  | zero => exact .refl
  | succ steps ih =>
      rw [walk]
      split
      next => exact .refl
      next next stepped => exact .head stepped (ih next)

theorem run_of_step_eq_none (stuck : batch.step peer = none) : batch.run peer = batch := by
  rw [run]
  split
  next => rfl
  next next stepped =>
    rw [stuck] at stepped
    cases stepped

theorem run_eq_walk (steps : Nat) (ended : ((batch.walk peer steps).step peer).isNone) :
    batch.run peer = batch.walk peer steps := by
  rw [← (reaches_walk steps batch).run_eq, run_of_step_eq_none (Option.isNone_iff_eq_none.mp ended)]

/-- By this trail the program at a place comes from what it had to run in one state of a batch to
what is left of it in a later one. -/
structure Goes (batch later : Batch I σ α) (place : Nat) (program rest : Program I α)
    (trail : Trail I) : Prop where
  replies : Exchange.repliesTo place later.surroundings.exchanges =
    Exchange.repliesTo place batch.surroundings.exchanges ++ trail.answers
  raised : batch.surroundings.requested → trail.Tells true
  calm : later.surroundings.requested = false → trail.Tells false
  leaves : program.Leaves trail rest

theorem Goes.recorded {place : Nat} {program rest : Program I α} {trail : Trail I}
    (goes : Goes batch later place program rest trail) {calls : List (Exchange I)}
    (grown : later.surroundings.exchanges = calls ++ batch.surroundings.exchanges) :
    Exchange.repliesTo place calls = trail.answers := by
  have replies := goes.replies
  rw [grown, Exchange.repliesTo_append] at replies
  exact List.append_cancel_left replies

structure Leads (batch later : Batch I σ α) : Prop where
  signal : batch.surroundings.requested → later.surroundings.requested
  goes : ∀ {place : Nat} {rest : Program I α}, later.rests[place]? = some rest →
    ∃ program trail, batch.rests[place]? = some program ∧
      Goes batch later place program rest trail

theorem Leads.refl (batch : Batch I σ α) : Leads batch batch := by
  refine ⟨id, fun {_ rest} left => ⟨rest, [], left, ?_, ?_, ?_, .all rest⟩⟩
  · simp [Trail.answers]
  · simp [Trail.Tells]
  · simp [Trail.Tells]

theorem Leads.step (leads : Leads batch middle) (stepped : middle.step peer = some later) :
    Leads batch later := by
  have signal := step_requested stepped
  refine ⟨fun raised => signal (leads.signal raised), fun {place rest} left => ?_⟩
  obtain ⟨old, seen, found, replies, told, onward⟩ := (step_advances stepped).goes left
  obtain ⟨program, trail, known, goes⟩ := leads.goes found
  refine ⟨program, trail ++ seen, known, ?_, ?_, ?_, goes.leaves.append onward⟩
  · rw [replies, goes.replies, Trail.answers_append, List.append_assoc]
  · intro raised
    have still := leads.signal raised
    exact Trail.tells_append.mpr ⟨goes.raised raised, still ▸ told⟩
  · intro calm
    have before : middle.surroundings.requested = false := by
      rw [← Bool.not_eq_true]
      intro raised
      rw [signal raised] at calm
      cases calm
    exact Trail.tells_append.mpr ⟨goes.calm before, before ▸ told⟩

theorem Reaches.leads (reaches : Reaches peer batch later) : Leads batch later := by
  induction reaches with
  | refl => exact .refl batch
  | tail _ stepped ih => exact ih.step stepped

theorem Reaches.record (reaches : Reaches peer batch later) :
    later.rests.length = batch.rests.length ∧
      ∃ calls, later.surroundings.exchanges = calls ++ batch.surroundings.exchanges ∧
        ∀ call ∈ calls, call.asker < batch.rests.length := by
  induction reaches with
  | refl => exact ⟨rfl, [], rfl, List.forall_mem_nil _⟩
  | tail _ stepped ih =>
      obtain ⟨length, calls, grown, askers⟩ := ih
      cases step_advances stepped with
      | rests same state exchanges =>
          exact ⟨same ▸ length, calls, exchanges.trans grown, askers⟩
      | sees found set silent told goes state exchanges =>
          exact ⟨by rw [set, List.length_set, length], calls, exchanges.trans grown, askers⟩
      | asks found set answered =>
          have low := (List.getElem?_eq_some_iff.mp found).1
          refine ⟨by rw [set, List.length_set, length], ?_⟩
          rw [answered, Surroundings.exchange_exchanges, grown]
          exact ⟨_ :: calls, rfl, List.forall_mem_cons.mpr ⟨length ▸ low, askers⟩⟩

theorem Reaches.limit (reaches : Reaches peer batch later) : later.limit = batch.limit := by
  induction reaches with
  | refl => rfl
  | tail _ stepped ih => rw [step_limit stepped, ih]

/-- A program's whole trail, cut where a batch reaches one of its states. -/
theorem Reaches.cut (reaches : Reaches peer batch middle) (room : 0 < batch.limit) {place : Nat}
    {result : α} (found : (batch.run peer).results[place]? = some result) :
    ∃ program rest before after, batch.rests[place]? = some program ∧
      middle.rests[place]? = some rest ∧ Goes batch middle place program rest before ∧
      Goes middle (batch.run peer) place rest (.done result) after := by
  have ended := rests_run peer room
  have left : (batch.run peer).rests[place]? = some (.done result) := by simp [ended, found]
  have leads := (reaches_run middle peer).leads
  rw [reaches.run_eq] at leads
  obtain ⟨rest, after, halfway, last⟩ := leads.goes left
  obtain ⟨program, before, known, first⟩ := reaches.leads.goes halfway
  exact ⟨program, rest, before, after, known, halfway, first, last⟩

structure Parted (middle last : Batch I σ α) (place : Nat) (program : Program I α)
    (earlier later : List (Exchange I)) (before after : Trail I) (result : α) : Prop where
  found : last.results[place]? = some result
  taken : program.Yields (before ++ after) result
  earlier : before.answers = Exchange.repliesTo place earlier
  later : after.answers = Exchange.repliesTo place later
  left : ∃ rest, middle.rests[place]? = some rest ∧ program.Leaves before rest
  told : middle.surroundings.requested → after.Tells true

/-- A state that a batch reaches cuts its record in two, and the trails of all its programs. -/
theorem Reaches.parts (reaches : Reaches peer batch middle) (room : 0 < batch.limit) :
    ∃ earlier later : List (Exchange I),
      middle.surroundings.exchanges = earlier ++ batch.surroundings.exchanges ∧
      (batch.run peer).surroundings.exchanges = later ++ middle.surroundings.exchanges ∧
      (∀ call ∈ earlier, call.asker < batch.rests.length) ∧
      (∀ call ∈ later, call.asker < batch.rests.length) ∧
      ∀ place program, batch.rests[place]? = some program → ∃ before after result,
        Parted middle (batch.run peer) place program earlier later before after result := by
  obtain ⟨length, earlier, grown, askers⟩ := reaches.record
  have onward := reaches_run middle peer
  rw [reaches.run_eq] at onward
  obtain ⟨lengthLater, later, further, others⟩ := onward.record
  refine ⟨earlier, later, grown, further, askers, length ▸ others, fun place program known => ?_⟩
  have all : (batch.run peer).results.length = batch.rests.length := by
    rw [← length, ← lengthLater, rests_run peer room, List.length_map]
  have low : place < (batch.run peer).results.length :=
    all ▸ (List.getElem?_eq_some_iff.mp known).1
  have found := List.getElem?_eq_getElem low
  obtain ⟨same, rest, before, after, started, halfway, first, last⟩ := reaches.cut room found
  obtain rfl := Option.some.inj (known.symm.trans started)
  have whole : rest.Yields (after ++ []) _ := last.leaves.takes ⟨rfl, rfl⟩
  rw [List.append_nil] at whole
  exact ⟨before, after, _, found, first.leaves.takes whole, (first.recorded grown).symm,
    (last.recorded further).symm, ⟨rest, halfway, first.leaves⟩, last.raised⟩

end Tenancy.Batch
