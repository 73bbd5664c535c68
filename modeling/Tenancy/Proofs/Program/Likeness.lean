import Mathlib.Data.List.Forall2
import Tenancy.Proofs.Surroundings

/-!
Programs that go the same way when they get answers that are alike. They ask the same queries, and
pause and look at the signal at the same points, but each may write events that nobody listens for.
-/

namespace Tenancy

/-- What is told apart: which answers to a query are alike, and which events are listened for. -/
structure Likeness (I : Interface) where
  alike : (query : I.Query) → I.Answer query → I.Answer query → Prop
  heard : Event → Bool

variable {I : Interface} {σ τ α β γ δ : Type} {likeness : Likeness I}

inductive Program.Alike (likeness : Likeness I) (Ends : α → β → Prop) :
    Program I α → Program I β → Prop
  | done {left right} (ends : Ends left right) : Alike likeness Ends (.done left) (.done right)
  | write (event) {left right} (alike : Alike likeness Ends left right) :
      Alike likeness Ends (.write event left) (.write event right)
  | writeLeft {event left right} (unheard : likeness.heard event = false)
      (alike : Alike likeness Ends left right) : Alike likeness Ends (.write event left) right
  | writeRight {event left right} (unheard : likeness.heard event = false)
      (alike : Alike likeness Ends left right) : Alike likeness Ends left (.write event right)
  | ask (query) {left right}
      (alike : ∀ first second, likeness.alike query first second →
        Alike likeness Ends (left first) (right second)) :
      Alike likeness Ends (.ask query left) (.ask query right)
  | pause (milliseconds) {left right}
      (alike : ∀ requested, Alike likeness Ends (left requested) (right requested)) :
      Alike likeness Ends (.pause milliseconds left) (.pause milliseconds right)
  | look {left right} (alike : ∀ requested, Alike likeness Ends (left requested) (right requested)) :
      Alike likeness Ends (.look left) (.look right)

theorem Program.Alike.bind {Middle : α → β → Prop} {Ends : γ → δ → Prop} {left : Program I α}
    {right : Program I β} {after : α → Program I γ} {next : β → Program I δ}
    (alike : Alike likeness Middle left right)
    (later : ∀ first second, Middle first second →
      Alike likeness Ends (after first) (next second)) :
    Alike likeness Ends (left.bind after) (right.bind next) := by
  induction alike with
  | done ends => exact later _ _ ends
  | write event _ ih => exact .write event ih
  | writeLeft unheard _ ih => exact .writeLeft unheard ih
  | writeRight unheard _ ih => exact .writeRight unheard ih
  | ask query _ ih => exact .ask query ih
  | pause milliseconds _ ih => exact .pause milliseconds ih
  | look _ ih => exact .look ih

inductive Exchange.Alike (likeness : Likeness I) : Exchange I → Exchange I → Prop
  | intro (time asker query) {first second} (alike : likeness.alike query first second) :
      Alike likeness ⟨time, asker, query, first⟩ ⟨time, asker, query, second⟩

structure Question (I : Interface) where
  time : Nat
  asker : Nat
  query : I.Query

def Exchange.question (exchange : Exchange I) : Question I :=
  ⟨exchange.time, exchange.asker, exchange.query⟩

structure Peer.Alike (likeness : Likeness I) (Keeps : σ → τ → Prop) (first : Peer I σ)
    (second : Peer I τ) : Prop where
  notice : first.notice = second.notice
  latency : ∀ {left right}, Keeps left right → ∀ query,
    first.latency left query = second.latency right query
  raises : ∀ {left right}, Keeps left right → ∀ earlier query,
    first.raises earlier left query = second.raises earlier right query
  alike : ∀ {left right}, Keeps left right → ∀ query,
    likeness.alike query (first.respond query left).1 (second.respond query right).1
  keeps : ∀ {left right}, Keeps left right → ∀ query,
    Keeps (first.respond query left).2 (second.respond query right).2

namespace Surroundings

structure Alike (likeness : Likeness I) (Keeps : σ → τ → Prop) (left : Surroundings I σ)
    (right : Surroundings I τ) : Prop where
  keeps : Keeps left.state right.state
  now : left.now = right.now
  signal : left.signal = right.signal
  moments : left.moments = right.moments
  exchanges : List.Forall₂ (Exchange.Alike likeness) left.exchanges right.exchanges
  heard : left.events.filter likeness.heard = right.events.filter likeness.heard

variable {Keeps : σ → τ → Prop} {left : Surroundings I σ} {right : Surroundings I τ}
  {first : Peer I σ} {second : Peer I τ}

theorem Alike.calls (alike : Alike likeness Keeps left right) :
    left.exchanges.map Exchange.question = right.exchanges.map Exchange.question := by
  rw [← List.forall₂_eq_eq_eq, List.forall₂_map_left_iff, List.forall₂_map_right_iff]
  refine alike.exchanges.imp fun _ _ same => ?_
  cases same
  rfl

theorem Alike.requested (alike : Alike likeness Keeps left right) :
    left.requested = right.requested := by
  rw [Surroundings.requested, Surroundings.requested, alike.signal]

theorem Alike.write (alike : Alike likeness Keeps left right) (event : Event) :
    Alike likeness Keeps (left.write event) (right.write event) := by
  refine ⟨alike.keeps, alike.now, alike.signal, alike.moments, alike.exchanges, ?_⟩
  simp only [Surroundings.write, List.filter_cons, alike.heard]

theorem Alike.writeLeft (alike : Alike likeness Keeps left right) {event : Event}
    (unheard : likeness.heard event = false) :
    Alike likeness Keeps (left.write event) right := by
  refine ⟨alike.keeps, alike.now, alike.signal, alike.moments, alike.exchanges, ?_⟩
  rw [Surroundings.write, List.filter_cons_of_neg (by simp [unheard]), alike.heard]

theorem Alike.writeRight (alike : Alike likeness Keeps left right) {event : Event}
    (unheard : likeness.heard event = false) :
    Alike likeness Keeps left (right.write event) := by
  refine ⟨alike.keeps, alike.now, alike.signal, alike.moments, alike.exchanges, ?_⟩
  rw [Surroundings.write, List.filter_cons_of_neg (by simp [unheard]), alike.heard]

theorem Alike.setNow (alike : Alike likeness Keeps left right) (now : Nat) :
    Alike likeness Keeps { left with now := now } { right with now := now } :=
  ⟨alike.keeps, rfl, alike.signal, alike.moments, alike.exchanges, alike.heard⟩

theorem Alike.take (alike : Alike likeness Keeps left right) (moment : Moment)
    (later : List Moment) :
    Alike likeness Keeps (left.take moment later) (right.take moment later) := by
  refine ⟨alike.keeps, ?_, ?_, rfl, alike.exchanges, alike.heard⟩
  · simp only [Surroundings.take, alike.now]
  · simp only [Surroundings.take, alike.signal]

theorem Alike.raise (alike : Alike likeness Keeps left right) (notice : List Event) :
    Alike likeness Keeps (left.raise notice) (right.raise notice) := by
  unfold Surroundings.raise
  rw [alike.signal]
  split
  · refine ⟨alike.keeps, alike.now, rfl, alike.moments, alike.exchanges, ?_⟩
    simp only [List.filter_append, alike.heard]
  · exact alike

theorem Alike.exchange (alike : Alike likeness Keeps left right)
    (peers : Peer.Alike likeness Keeps first second) (asker : Nat) (query : I.Query) :
    Alike likeness Keeps (left.exchange first asker query).2
      (right.exchange second asker query).2 := by
  have raised : Alike likeness Keeps
      (if first.raises left.exchanges.length left.state query then left.raise first.notice
        else left)
      (if second.raises right.exchanges.length right.state query then right.raise second.notice
        else right) := by
    rw [← alike.exchanges.length_eq, peers.raises alike.keeps, peers.notice]
    split
    · exact alike.raise _
    · exact alike
  refine ⟨peers.keeps alike.keeps query, raised.now, raised.signal, raised.moments, ?_,
    raised.heard⟩
  rw [exchange_exchanges, exchange_exchanges, alike.now]
  exact .cons (.intro _ _ _ (peers.alike alike.keeps query)) alike.exchanges

end Surroundings

end Tenancy
