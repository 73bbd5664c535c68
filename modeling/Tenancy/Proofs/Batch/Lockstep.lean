import Mathlib.Algebra.Order.BigOperators.Group.List
import Mathlib.Algebra.Order.Ring.Nat
import Tenancy.Proofs.Batch.Single
import Tenancy.Proofs.Program.Likeness
import Tenancy.Undertaking

/-!
Two batches of programs that go the same way, before two peers that keep in step. A write that only
one of the batches does shifts the numbers of its later tickets, so the batches have their tickets
in the same order, not the same tickets. The batches then make the same calls at the same times.
-/

namespace Tenancy

variable {I : Interface} {σ τ α β : Type}

theorem Change.round_le_lastRound (change : Change) (place : Nat) :
    change.round place ≤ change.lastRound := by
  rw [round, lastRound]
  induction change.rounds generalizing place with
  | nil => exact Nat.zero_le _
  | cons own rounds ih =>
      cases place with
      | zero => exact Nat.le_max_left own _
      | succ place => exact (ih place).trans (Nat.le_max_right own _)

/-- Pairs of tickets, one of each batch, that stand in the same order on both sides and were all
drawn before these next ones. -/
structure SameOrder (tickets : Nat → Nat → Prop) (next other : Nat) : Prop where
  drawn : ∀ {left right}, tickets left right → left < next ∧ right < other
  order : ∀ {left right left' right'}, tickets left right → tickets left' right' →
    (left < left' ↔ right < right')

namespace SameOrder

variable {tickets : Nat → Nat → Prop} {next other : Nat}

def draw (tickets : Nat → Nat → Prop) (next other left right : Nat) : Prop :=
  tickets left right ∨ left = next ∧ right = other

def requeue (rounds : Nat) (tickets : Nat → Nat → Prop) (next other left right : Nat) : Prop :=
  tickets left right ∨
    ∃ round ≤ rounds, ∃ own its, tickets own its ∧
      left = (round + 1) * next + own ∧ right = (round + 1) * other + its

theorem mono (same : SameOrder tickets next other) {later last : Nat} (first : next ≤ later)
    (second : other ≤ last) : SameOrder tickets later last := by
  refine ⟨fun pair => ?_, same.order⟩
  have := same.drawn pair
  omega

theorem afterDraw (same : SameOrder tickets next other) :
    SameOrder (draw tickets next other) (next + 1) (other + 1) := by
  constructor
  · rintro left right (pair | ⟨rfl, rfl⟩)
    · have := same.drawn pair
      omega
    · omega
  · rintro left right left' right' (pair | ⟨rfl, rfl⟩) (pair' | ⟨rfl, rfl⟩)
    · exact same.order pair pair'
    · have := same.drawn pair
      omega
    · have := same.drawn pair'
      omega
    · omega

theorem requeued_bounds {ticket own round rounds : Nat} (drawn : own < ticket)
    (within : round ≤ rounds) :
    ticket ≤ (round + 1) * ticket + own ∧ (round + 1) * ticket + own < (rounds + 2) * ticket := by
  have most : (round + 2) * ticket ≤ (rounds + 2) * ticket :=
    Nat.mul_le_mul_right ticket (by omega)
  have first : ticket ≤ (round + 1) * ticket := Nat.le_mul_of_pos_left ticket (Nat.succ_pos round)
  rw [Nat.succ_mul] at most
  omega

theorem requeued_lt_iff {ticket own own' round round' : Nat} (drawn : own < ticket)
    (drawn' : own' < ticket) :
    (round + 1) * ticket + own < (round' + 1) * ticket + own' ↔
      round < round' ∨ round = round' ∧ own < own' := by
  obtain before | rfl | behind := Nat.lt_trichotomy round round'
  · have more : (round + 2) * ticket ≤ (round' + 1) * ticket :=
      Nat.mul_le_mul_right ticket (by omega)
    rw [Nat.succ_mul] at more
    omega
  · omega
  · have more : (round' + 2) * ticket ≤ (round + 1) * ticket :=
      Nat.mul_le_mul_right ticket (by omega)
    rw [Nat.succ_mul] at more
    omega

theorem afterRequeue (same : SameOrder tickets next other) (rounds : Nat) :
    SameOrder (requeue rounds tickets next other) ((rounds + 2) * next) ((rounds + 2) * other) := by
  have more (ticket : Nat) : ticket ≤ (rounds + 2) * ticket :=
    Nat.le_mul_of_pos_left ticket (Nat.succ_pos _)
  constructor
  · rintro left right (pair | ⟨round, within, own, its, pair, rfl, rfl⟩)
    · obtain ⟨first, second⟩ := same.drawn pair
      exact ⟨Nat.lt_of_lt_of_le first (more next), Nat.lt_of_lt_of_le second (more other)⟩
    · obtain ⟨first, second⟩ := same.drawn pair
      exact ⟨(requeued_bounds first within).2, (requeued_bounds second within).2⟩
  · rintro left right left' right' (pair | ⟨round, within, own, its, pair, rfl, rfl⟩)
      (pair' | ⟨round', within', own', its', pair', rfl, rfl⟩)
    · exact same.order pair pair'
    · have drawn := same.drawn pair
      have drawn' := same.drawn pair'
      have bounds := requeued_bounds drawn'.1 within'
      have bounds' := requeued_bounds drawn'.2 within'
      omega
    · have drawn := same.drawn pair
      have drawn' := same.drawn pair'
      have bounds := requeued_bounds drawn.1 within
      have bounds' := requeued_bounds drawn.2 within
      omega
    · have drawn := same.drawn pair
      have drawn' := same.drawn pair'
      rw [requeued_lt_iff drawn.1 drawn'.1, requeued_lt_iff drawn.2 drawn'.2, same.order pair pair']

end SameOrder

inductive Task.Alike (likeness : Likeness I) (Ends : α → β → Prop) (tickets : Nat → Nat → Prop) :
    Task I α → Task I β → Prop
  | unstarted {program other} (alike : Program.Alike likeness Ends program other) :
      Alike likeness Ends tickets (.unstarted program) (.unstarted other)
  | ready {left right program other} (pair : tickets left right)
      (alike : Program.Alike likeness Ends program other) :
      Alike likeness Ends tickets (.ready left program) (.ready right other)
  | waiting {left right} (wake query) {next other} (pair : tickets left right)
      (alike : ∀ first second, likeness.alike query first second →
        Program.Alike likeness Ends (next first) (other second)) :
      Alike likeness Ends tickets (.waiting left wake query next) (.waiting right wake query other)
  | due {left right} (query) {next other} (pair : tickets left right)
      (alike : ∀ first second, likeness.alike query first second →
        Program.Alike likeness Ends (next first) (other second)) :
      Alike likeness Ends tickets (.due left query next) (.due right query other)
  | pausing {left right} (wake milliseconds) {next other} (pair : tickets left right)
      (alike : ∀ requested, Program.Alike likeness Ends (next requested) (other requested)) :
      Alike likeness Ends tickets (.pausing left wake milliseconds next)
        (.pausing right wake milliseconds other)
  | ended {result other} (ends : Ends result other) :
      Alike likeness Ends tickets (.ended result) (.ended other)

namespace Task

variable {likeness : Likeness I} {Ends : α → β → Prop} {tickets more : Nat → Nat → Prop}
  {left : Task I α} {right : Task I β}

theorem Alike.mono (alike : Alike likeness Ends tickets left right)
    (within : ∀ {one other}, tickets one other → more one other) :
    Alike likeness Ends more left right := by
  cases alike with
  | unstarted alike => exact .unstarted alike
  | ready pair alike => exact .ready (within pair) alike
  | waiting wake query pair alike => exact .waiting wake query (within pair) alike
  | due query pair alike => exact .due query (within pair) alike
  | pausing wake milliseconds pair alike => exact .pausing wake milliseconds (within pair) alike
  | ended ends => exact .ended ends

theorem Alike.queueAnew (alike : Alike likeness Ends tickets left right) (next other : Nat)
    {round rounds : Nat} (within : round ≤ rounds) :
    Alike likeness Ends (SameOrder.requeue rounds tickets next other) (left.queueAnew next round)
      (right.queueAnew other round) := by
  cases alike with
  | pausing wake milliseconds pair alike =>
      exact .pausing wake milliseconds (.inr ⟨round, within, _, _, pair, rfl, rfl⟩) alike
  | unstarted alike => exact .unstarted alike
  | ready pair alike => exact .ready (.inl pair) alike
  | waiting wake query pair alike => exact .waiting wake query (.inl pair) alike
  | due query pair alike => exact .due query (.inl pair) alike
  | ended ends => exact .ended ends

theorem Alike.isUnstarted (alike : Alike likeness Ends tickets left right) :
    left.isUnstarted = right.isUnstarted := by
  cases alike <;> rfl

theorem Alike.result? (alike : Alike likeness Ends tickets left right) :
    Option.Rel Ends left.result? right.result? := by
  cases alike with
  | ended ends => exact .some ends
  | unstarted | ready | waiting | due | pausing => exact .none

theorem Alike.isSome_result? (alike : Alike likeness Ends tickets left right) :
    left.result?.isSome = right.result?.isSome := by
  cases alike <;> rfl

theorem Alike.readyTicket? (alike : Alike likeness Ends tickets left right) :
    Option.Rel tickets left.readyTicket? right.readyTicket? := by
  cases alike with
  | ready pair | due _ pair => exact .some pair
  | unstarted | waiting | pausing | ended => exact .none

def SameWake (tickets : Nat → Nat → Prop) (left right : Nat × Nat) : Prop :=
  left.1 = right.1 ∧ tickets left.2 right.2

theorem Alike.wake? (alike : Alike likeness Ends tickets left right) :
    Option.Rel (SameWake tickets) left.wake? right.wake? := by
  cases alike with
  | waiting _ _ pair | pausing _ _ pair => exact .some ⟨rfl, pair⟩
  | unstarted | ready | due | ended => exact .none

theorem Alike.wakesNow? (alike : Alike likeness Ends tickets left right) (now : Nat)
    (requested : Bool) :
    Option.Rel (SameWake tickets) (left.wakesNow? now requested) (right.wakesNow? now requested) := by
  cases alike with
  | waiting _ _ pair | pausing _ _ pair =>
      simp only [Task.wakesNow?]
      split
      · exact .some ⟨rfl, pair⟩
      · exact .none
  | unstarted | ready | due | ended => exact .none

end Task

theorem forall₂_get {ε ζ : Type} {Relates : ε → ζ → Prop} {left : List ε} {right : List ζ}
    (all : List.Forall₂ Relates left right) {place : Fin left.length} {other : Fin right.length}
    (same : place.val = other.val) : Relates (left.get place) (right.get other) := by
  have low : place.val < right.length := same ▸ other.isLt
  obtain rfl : other = ⟨place, low⟩ := Fin.ext same.symm
  exact all.get place.isLt low

theorem eq_none_alike {count size : Nat} {left : Option (Fin count)} {right : Option (Fin size)}
    (same : left.map Fin.val = right.map Fin.val) (missing : left = none) : right = none := by
  rwa [missing, Option.map_none, eq_comm, Option.map_eq_none_iff] at same

theorem eq_some_alike {count size : Nat} {left : Option (Fin count)} {right : Option (Fin size)}
    (same : left.map Fin.val = right.map Fin.val) {place : Fin count} (known : left = some place) :
    ∃ other : Fin size, right = some other ∧ place.val = other.val := by
  rw [known, Option.map_some, eq_comm, Option.map_eq_some_iff] at same
  obtain ⟨other, found, here⟩ := same
  exact ⟨other, found, here.symm⟩

theorem firstPlace?_alike {ε ζ κ : Type} {Same : κ → κ → Prop} (before : κ → κ → Bool)
    {key : ε → Option κ} {other : ζ → Option κ} {left : List ε} {right : List ζ}
    (keys : List.Forall₂ (fun one its => Option.Rel Same (key one) (other its)) left right)
    (order : ∀ one its one' its', Same one its → Same one' its' →
      before one one' = before its its') :
    (firstPlace? before key left).map Fin.val = (firstPlace? before other right).map Fin.val := by
  induction keys with
  | nil => rfl
  | @cons one its left right head tail ih =>
      simp only [firstPlace?]
      cases found : firstPlace? before key left with
      | none =>
          rw [eq_none_alike ih found]
          generalize key one = first, other its = second at head
          cases head <;> rfl
      | some place =>
          obtain ⟨place', found', same⟩ := eq_some_alike ih found
          have here : Option.Rel Same (key (left.get place)) (other (right.get place')) :=
            forall₂_get tail same
          have picks {own other' : κ} (same : Same own other') :
              (key (left.get place)).any (before · own) =
                (other (right.get place')).any (before · other') := by
            generalize key (left.get place) = third, other (right.get place') = fourth at here
            cases here with
            | none => rfl
            | some here => exact order _ _ _ _ here same
          rw [found']
          generalize key one = first, other its = second at head
          cases head with
          | none => simp [same]
          | some head =>
              simp only [picks head]
              split <;> simp [same]

theorem forall₂_set {ε ζ : Type} {Relates : ε → ζ → Prop} {left : List ε} {right : List ζ}
    (all : List.Forall₂ Relates left right) {one : ε} {its : ζ} (relates : Relates one its)
    (place : Nat) : List.Forall₂ Relates (left.set place one) (right.set place its) := by
  induction all generalizing place with
  | nil => exact .nil
  | cons head tail ih =>
      cases place with
      | zero => exact .cons relates tail
      | succ place => exact .cons head (ih place)

theorem forall₂_mapIdx {ε ζ η θ : Type} {Relates : ε → ζ → Prop} {Later : η → θ → Prop}
    {left : List ε} {right : List ζ} (all : List.Forall₂ Relates left right) {one : Nat → ε → η}
    {other : Nat → ζ → θ}
    (step : ∀ place entry its, left[place]? = some entry → Relates entry its →
      Later (one place entry) (other place its)) :
    List.Forall₂ Later (left.mapIdx one) (right.mapIdx other) := by
  induction all generalizing one other with
  | nil => exact .nil
  | cons head tail ih =>
      rw [List.mapIdx_cons, List.mapIdx_cons]
      exact .cons (step 0 _ _ rfl head) (ih fun place => step (place + 1))

theorem length_takeWhile_alike {ε ζ : Type} {Relates : ε → ζ → Prop} {left : List ε}
    {right : List ζ} (all : List.Forall₂ Relates left right) {one : ε → Bool} {other : ζ → Bool}
    (same : ∀ entry its, Relates entry its → one entry = other its) :
    (left.takeWhile one).length = (right.takeWhile other).length := by
  induction all with
  | nil => rfl
  | cons head tail ih =>
      rw [List.takeWhile_cons, List.takeWhile_cons, same _ _ head]
      split
      · rw [List.length_cons, List.length_cons, ih]
      · rfl

theorem findIdx?_alike {ε ζ : Type} {Relates : ε → ζ → Prop} {left : List ε} {right : List ζ}
    (all : List.Forall₂ Relates left right) {one : ε → Bool} {other : ζ → Bool}
    (same : ∀ entry its, Relates entry its → one entry = other its) :
    left.findIdx? one = right.findIdx? other := by
  induction all with
  | nil => rfl
  | cons head tail ih => rw [List.findIdx?_cons, List.findIdx?_cons, same _ _ head, ih]

namespace Batch

theorem startPlace?_alike {Relates : Task I α → Task I β → Prop} {left : Batch I σ α}
    {right : Batch I τ β} (all : List.Forall₂ Relates left.tasks right.tasks)
    (limit : left.limit = right.limit)
    (unstarted : ∀ one other, Relates one other → one.isUnstarted = other.isUnstarted)
    (ended : ∀ one other, Relates one other → one.result?.isSome = other.result?.isSome) :
    left.startPlace?.map Fin.val = right.startPlace?.map Fin.val := by
  have first : left.tasks.findIdx? (·.isUnstarted) = right.tasks.findIdx? (·.isUnstarted) :=
    findIdx?_alike all unstarted
  have handedOver : left.handedOver = right.handedOver := length_takeWhile_alike all ended
  have room (count : Nat) (found : Option (Fin count)) (bound : Nat) :
      (found.filter fun place => place.val < bound).map Fin.val =
        (found.map Fin.val).filter fun place => place < bound := by
    rw [Option.filter_map]
    rfl
  rw [List.findIdx?_eq_map_findFinIdx?_val, List.findIdx?_eq_map_findFinIdx?_val] at first
  rw [startPlace?, startPlace?, room, room, first, handedOver, limit]

structure Alike (likeness : Likeness I) (Keeps : σ → τ → Prop) (Ends : α → β → Prop)
    (tickets : Nat → Nat → Prop) (left : Batch I σ α) (right : Batch I τ β) : Prop where
  surroundings : Surroundings.Alike likeness Keeps left.surroundings right.surroundings
  limit : left.limit = right.limit
  tasks : List.Forall₂ (Task.Alike likeness Ends tickets) left.tasks right.tasks
  order : SameOrder tickets left.ticket right.ticket

variable {likeness : Likeness I} {Keeps : σ → τ → Prop} {Ends : α → β → Prop}
  {tickets : Nat → Nat → Prop} {left : Batch I σ α} {right : Batch I τ β}
  {first : Peer I σ} {second : Peer I τ}

namespace Alike

theorem startPlace? (alike : Alike likeness Keeps Ends tickets left right) :
    left.startPlace?.map Fin.val = right.startPlace?.map Fin.val :=
  startPlace?_alike alike.tasks alike.limit (fun _ _ same => same.isUnstarted)
    fun _ _ same => same.isSome_result?

theorem wakesBefore (alike : Alike likeness Keeps Ends tickets left right)
    (one its one' its' : Nat × Nat) (same : Task.SameWake tickets one its)
    (same' : Task.SameWake tickets one' its') : earlier one one' = earlier its its' := by
  simp only [earlier, same.1, same'.1, alike.order.order same.2 same'.2]

theorem current? (alike : Alike likeness Keeps Ends tickets left right) :
    left.current?.map Fin.val = right.current?.map Fin.val := by
  have wakes := firstPlace?_alike earlier
    (alike.tasks.imp fun _ _ same =>
      same.wakesNow? left.surroundings.now left.surroundings.requested)
    alike.wakesBefore
  have goes := firstPlace?_alike (fun one its => decide (one < its))
    (alike.tasks.imp fun _ _ same => same.readyTicket?)
    fun _ _ _ _ same same' => decide_eq_decide.mpr (alike.order.order same same')
  simp only [Batch.current?, Option.orElse_eq_orElse, Option.orElse_eq_or, Option.map_or]
  rw [alike.startPlace?, wakes, goes, alike.surroundings.now, alike.surroundings.requested]

theorem wakePlace? (alike : Alike likeness Keeps Ends tickets left right) :
    (firstPlace? earlier Task.wake? left.tasks).map Fin.val =
      (firstPlace? earlier Task.wake? right.tasks).map Fin.val :=
  firstPlace?_alike earlier (alike.tasks.imp fun _ _ same => same.wake?) alike.wakesBefore

theorem put (alike : Alike likeness Keeps Ends tickets left right)
    {place : Fin left.tasks.length} {other : Fin right.tasks.length}
    (same : place.val = other.val) {task : Task I α} {its : Task I β}
    (tasks : Task.Alike likeness Ends (SameOrder.draw tickets left.ticket right.ticket) task its)
    {after : Surroundings I σ} {after' : Surroundings I τ}
    (surroundings : Surroundings.Alike likeness Keeps after after') :
    Alike likeness Keeps Ends (SameOrder.draw tickets left.ticket right.ticket)
      (left.put place task after) (right.put other its after') := by
  refine ⟨surroundings, alike.limit, ?_, alike.order.afterDraw⟩
  simp only [Batch.put, same]
  exact forall₂_set (alike.tasks.imp fun _ _ tasks => tasks.mono .inl) tasks other

theorem putLeft (alike : Alike likeness Keeps Ends tickets left right)
    {place : Fin left.tasks.length} {other : Fin right.tasks.length}
    (same : place.val = other.val) {task : Task I α}
    (tasks : Task.Alike likeness Ends tickets task (right.tasks.get other))
    {after : Surroundings I σ}
    (surroundings : Surroundings.Alike likeness Keeps after right.surroundings) :
    Alike likeness Keeps Ends tickets (left.put place task after) right := by
  refine ⟨surroundings, alike.limit, ?_, alike.order.mono (Nat.le_succ _) (Nat.le_refl _)⟩
  have all := forall₂_set alike.tasks tasks other
  rw [List.get_eq_getElem, List.set_getElem_self] at all
  simp only [Batch.put, same]
  exact all

theorem putRight (alike : Alike likeness Keeps Ends tickets left right)
    {place : Fin left.tasks.length} {other : Fin right.tasks.length}
    (same : place.val = other.val) {task : Task I β}
    (tasks : Task.Alike likeness Ends tickets (left.tasks.get place) task)
    {after : Surroundings I τ}
    (surroundings : Surroundings.Alike likeness Keeps left.surroundings after) :
    Alike likeness Keeps Ends tickets left (right.put other task after) := by
  refine ⟨surroundings, alike.limit, ?_, alike.order.mono (Nat.le_refl _) (Nat.le_succ _)⟩
  have all := forall₂_set alike.tasks tasks place
  rw [List.get_eq_getElem, List.set_getElem_self] at all
  simp only [Batch.put, ← same]
  exact all

theorem happen (alike : Alike likeness Keeps Ends tickets left right) (moment : Moment)
    (later : List Moment) :
    Alike likeness Keeps Ends
      (SameOrder.requeue moment.change.lastRound tickets left.ticket right.ticket)
      (left.happen moment later) (right.happen moment later) := by
  refine ⟨alike.surroundings.take moment later, alike.limit, ?_, alike.order.afterRequeue _⟩
  refine forall₂_mapIdx alike.tasks fun place task its _ tasks => ?_
  rw [requeue, requeue, alike.surroundings.signal]
  split
  · exact tasks.queueAnew _ _ (moment.change.round_le_lastRound place)
  · exact tasks.mono .inl

end Alike

inductive Onward (likeness : Likeness I) (Keeps : σ → τ → Prop) (Ends : α → β → Prop)
    (left : Batch I σ α) (right : Batch I τ β) :
    Option (Batch I σ α) → Option (Batch I τ β) → Prop
  | stop : Onward likeness Keeps Ends left right none none
  | left {tickets next other} (alike : Alike likeness Keeps Ends tickets next right) :
      Onward likeness Keeps Ends left right (some next) other
  | right {tickets next other} (alike : Alike likeness Keeps Ends tickets left other) :
      Onward likeness Keeps Ends left right next (some other)
  | both {tickets next other} (alike : Alike likeness Keeps Ends tickets next other) :
      Onward likeness Keeps Ends left right (some next) (some other)

theorem Alike.advance (alike : Alike likeness Keeps Ends tickets left right)
    (peers : Peer.Alike likeness Keeps first second) {place : Fin left.tasks.length}
    {other : Fin right.tasks.length} (same : place.val = other.val) {own its : Nat}
    {program : Program I α} {program' : Program I β}
    (task : left.tasks.get place = .ready own program)
    (task' : right.tasks.get other = .ready its program') (pair : tickets own its)
    (programs : Program.Alike likeness Ends program program') :
    Onward likeness Keeps Ends left right (some (left.advance first place own program))
      (some (right.advance second other its program')) := by
  have surroundings := alike.surroundings
  cases programs with
  | done ends => exact .both (alike.put same (.ended ends) surroundings)
  | write event programs =>
      exact .both (alike.put same (.ready (.inl pair) programs) (surroundings.write event))
  | writeLeft unheard programs =>
      exact .left (alike.putLeft same (task' ▸ .ready pair programs)
        (surroundings.writeLeft unheard))
  | writeRight unheard programs =>
      exact .right (alike.putRight same (task ▸ .ready pair programs)
        (surroundings.writeRight unheard))
  | ask query programs =>
      simp only [Batch.advance, peers.latency surroundings.keeps, surroundings.now]
      split
      · exact .both (alike.put same (.due query (.inl pair) programs) surroundings)
      · exact .both (alike.put same (.waiting _ query (.inr ⟨rfl, rfl⟩) programs) surroundings)
  | pause milliseconds programs =>
      simp only [Batch.advance, surroundings.requested, surroundings.now]
      split
      · exact .both (alike.put same (.ready (.inl pair) (programs true)) surroundings)
      · split
        · exact .both (alike.put same (.ready (.inl pair) (programs false)) surroundings)
        · exact .both
            (alike.put same (.pausing _ milliseconds (.inr ⟨rfl, rfl⟩) programs) surroundings)
  | look programs =>
      simp only [Batch.advance, surroundings.requested]
      exact .both (alike.put same (.ready (.inl pair) (programs _)) surroundings)

theorem Alike.move (alike : Alike likeness Keeps Ends tickets left right)
    (peers : Peer.Alike likeness Keeps first second) {place : Fin left.tasks.length}
    {other : Fin right.tasks.length} (same : place.val = other.val) :
    Onward likeness Keeps Ends left right (left.move first place) (right.move second other) := by
  have surroundings := alike.surroundings
  have tasks := forall₂_get alike.tasks same
  unfold Batch.move
  generalize task : left.tasks.get place = own, task' : right.tasks.get other = its at tasks
  cases tasks with
  | unstarted programs =>
      exact .both (alike.put same (.ready (.inr ⟨rfl, rfl⟩) programs) surroundings)
  | ready pair programs => exact alike.advance peers same task task' pair programs
  | waiting wake query pair programs =>
      refine .both (alike.put same (.due query (.inr ⟨rfl, rfl⟩) programs) ?_)
      rw [surroundings.now]
      exact surroundings.setNow _
  | due query pair programs =>
      simp only [same]
      exact .both (alike.put same
        (.ready (.inl pair) (programs _ _ (peers.alike surroundings.keeps query)))
        (surroundings.exchange peers other query))
  | pausing wake milliseconds pair programs =>
      simp only [surroundings.requested]
      split
      · exact .both (alike.put same (.ready (.inr ⟨rfl, rfl⟩) (programs true)) surroundings)
      · refine .both (alike.put same (.ready (.inr ⟨rfl, rfl⟩) (programs false)) ?_)
        rw [surroundings.now]
        exact surroundings.setNow _
  | ended ends => exact .stop

theorem Alike.step (alike : Alike likeness Keeps Ends tickets left right)
    (peers : Peer.Alike likeness Keeps first second) :
    Onward likeness Keeps Ends left right (left.step first) (right.step second) := by
  have current := alike.current?
  have sleeper := alike.wakePlace?
  have moments := alike.surroundings.moments
  unfold Batch.step
  split
  next place found =>
    obtain ⟨other, found', same⟩ := eq_some_alike current found
    simp only [found']
    exact alike.move peers same
  next none =>
    simp only [eq_none_alike current none]
    split
    next asleep =>
      simp only [eq_none_alike sleeper asleep]
      exact .stop
    next place found =>
      obtain ⟨other, found', same⟩ := eq_some_alike sleeper found
      simp only [found', ← moments]
      split
      · exact alike.move peers same
      next moment later _ =>
        have wakes := (forall₂_get alike.tasks same).wake?
        have early : (left.tasks.get place).wake?.any (moment.time < ·.1) =
            (right.tasks.get other).wake?.any (moment.time < ·.1) := by
          generalize (left.tasks.get place).wake? = wake,
            (right.tasks.get other).wake? = wake' at wakes
          cases wakes with
          | none => rfl
          | some wakes => simp only [Option.any_some, wakes.1]
        rw [early]
        split
        · exact .both (alike.happen moment later)
        · exact alike.move peers same

theorem Alike.run (alike : Alike likeness Keeps Ends tickets left right)
    (peers : Peer.Alike likeness Keeps first second) :
    ∃ tickets, Alike likeness Keeps Ends tickets (left.run first) (right.run second) := by
  -- The left batch steps, or it stays as it is and the right one does.
  fun_induction Batch.run left first generalizing right tickets with
  | case1 left stuck =>
      fun_induction Batch.run right second generalizing tickets with
      | case1 right stuck' => exact ⟨tickets, alike⟩
      | case2 right other stepped ih =>
          have goes := alike.step peers
          rw [stuck, stepped] at goes
          cases goes with
          | right alike => exact ih alike
  | case2 left next stepped ih =>
      fun_induction Batch.run right second generalizing tickets with
      | case1 right stuck =>
          have goes := alike.step peers
          rw [stepped, stuck] at goes
          cases goes with
          | left alike =>
              rw [← run_of_step_eq_none stuck]
              exact ih alike
      | case2 right other stepped' ih' =>
          have goes := alike.step peers
          rw [stepped, stepped'] at goes
          cases goes with
          | left alike =>
              rw [Reaches.run_eq (.single stepped')]
              exact ih alike
          | right alike => exact ih' alike
          | both alike => exact ih alike

theorem Alike.results (alike : Alike likeness Keeps Ends tickets left right) :
    List.Forall₂ Ends left.results right.results :=
  List.rel_filterMap (fun _ _ tasks => tasks.result?) alike.tasks

theorem alike_start {surroundings : Surroundings I σ} {surroundings' : Surroundings I τ}
    {programs : List (Program I α)} {programs' : List (Program I β)}
    (alike : Surroundings.Alike likeness Keeps surroundings surroundings') (limit : Nat)
    (all : List.Forall₂ (Program.Alike likeness Ends) programs programs') :
    Alike likeness Keeps Ends (fun _ _ => False) (start surroundings limit programs)
      (start surroundings' limit programs') := by
  refine ⟨alike, rfl, ?_, ⟨nofun, nofun⟩⟩
  rw [start, start, List.forall₂_map_left_iff, List.forall₂_map_right_iff]
  exact all.imp fun _ _ programs => .unstarted programs

end Batch

variable {likeness : Likeness I} {Keeps : σ → τ → Prop} {first : Peer I σ} {second : Peer I τ}
  {surroundings : Surroundings I σ} {surroundings' : Surroundings I τ}

theorem Program.Alike.run {Ends : α → β → Prop} {program : Program I α} {other : Program I β}
    (programs : Program.Alike likeness Ends program other)
    (peers : Peer.Alike likeness Keeps first second)
    (alike : Surroundings.Alike likeness Keeps surroundings surroundings') :
    Ends (program.run first 0 surroundings).1 (other.run second 0 surroundings').1 ∧
      Surroundings.Alike likeness Keeps (program.run first 0 surroundings).2
        (other.run second 0 surroundings').2 := by
  obtain ⟨tickets, ended⟩ :=
    (Batch.alike_start alike 1 (.cons programs .nil)).run peers
  obtain ⟨result, after⟩ := Batch.run_single program first surroundings
  obtain ⟨result', after'⟩ := Batch.run_single other second surroundings'
  have results := ended.results
  rw [result, result'] at results
  rw [← after, ← after']
  cases results with
  | cons ends => exact ⟨ends, ended.surroundings⟩

inductive Undertaking.Alike {γ δ : Type} (likeness : Likeness I) (Middle : γ → δ → Prop)
    (Ends : α → β → Prop) : Undertaking I γ α → Undertaking I δ β → Prop
  | alone {program other} (programs : Program.Alike likeness Ends program other) :
      Alike likeness Middle Ends (.alone program) (.alone other)
  | together (limit) {programs others conclude conclude'}
      (all : List.Forall₂ (Program.Alike likeness Middle) programs others)
      (concludes : ∀ results others, List.Forall₂ Middle results others →
        Program.Alike likeness Ends (conclude results) (conclude' others)) :
      Alike likeness Middle Ends (.together limit programs conclude)
        (.together limit others conclude')

/-- Work that goes the same way, before peers that keep in step, makes the same calls at the same
times and writes the same events that are listened for, to results that belong together. -/
theorem Undertaking.Alike.run {γ δ : Type} {Middle : γ → δ → Prop} {Ends : α → β → Prop}
    {undertaking : Undertaking I γ α} {other : Undertaking I δ β}
    (undertakings : Undertaking.Alike likeness Middle Ends undertaking other)
    (peers : Peer.Alike likeness Keeps first second)
    (alike : Surroundings.Alike likeness Keeps surroundings surroundings') :
    Ends (undertaking.run first surroundings).1 (other.run second surroundings').1 ∧
      Surroundings.Alike likeness Keeps (undertaking.run first surroundings).2
        (other.run second surroundings').2 := by
  cases undertakings with
  | alone programs => exact programs.run peers alike
  | together limit all concludes =>
      obtain ⟨tickets, ended⟩ := (Batch.alike_start alike limit all).run peers
      exact (concludes _ _ ended.results).run peers ended.surroundings

end Tenancy
