import Tenancy.Program

/-!
The surroundings in which programs run: a peer that answers queries, a clock that moves only while
everything waits, a shutdown signal with what is yet to happen to it, and a record of all queries
and events.
-/

namespace Tenancy

/-- The shutdown signal: whether shutdown is requested, and whether there still is somebody who
could request it. -/
structure Signal where
  raised : Bool
  live : Bool
  deriving DecidableEq, Repr

/-- What can happen to the signal. When the last one who could request shutdown goes, programs that
pause get to know it in rounds; which round comes to the one at which place is left open. -/
inductive Change
  | raise
  | drop (rounds : List Nat := [])
  deriving DecidableEq, Repr

namespace Change

def isDrop : Change → Bool
  | raise => false
  | drop _ => true

def rounds : Change → List Nat
  | raise => []
  | drop rounds => rounds

def round (change : Change) (place : Nat) : Nat := change.rounds.getD place 0

def lastRound (change : Change) : Nat := change.rounds.foldr max 0

end Change

namespace Signal

def send (signal : Signal) (value : Bool) : Signal :=
  if signal.live then { signal with raised := value } else signal

def drop (signal : Signal) : Signal :=
  { signal with live := false }

def apply (signal : Signal) : Change → Signal
  | .raise => signal.send true
  | .drop _ => signal.drop

end Signal

/-- A change of the signal that happens at a time, in milliseconds, while programs wait. -/
structure Moment where
  time : Nat
  change : Change
  deriving DecidableEq, Repr

/-- A query that was asked: when, by which of the programs that run side by side, and with what
answer. -/
structure Exchange (I : Interface) where
  time : Nat
  asker : Nat
  query : I.Query
  answer : I.Answer query

/-- What answers the queries of an interface from a state of its own. -/
structure Peer (I : Interface) (σ : Type) where
  latency : σ → I.Query → Nat
  /-- Whether a query sets off the shutdown signal before it is answered, given how many came
  before it. -/
  raises : (earlier : Nat) → σ → I.Query → Bool
  respond : (query : I.Query) → σ → I.Answer query × σ
  notice : List Event

structure Surroundings (I : Interface) (σ : Type) where
  state : σ
  now : Nat
  /-- There may be no signal at all; then shutdown is never requested. -/
  signal : Option Signal
  /-- What is yet to happen to the signal, in order of time. -/
  moments : List Moment
  /-- The queries that were asked, latest first. -/
  exchanges : List (Exchange I)
  /-- The events that were written, latest first. -/
  events : List Event

namespace Surroundings

variable {I : Interface} {σ : Type}

def start (state : σ) : Surroundings I σ := ⟨state, 0, none, [], [], []⟩

def requested (surroundings : Surroundings I σ) : Bool :=
  surroundings.signal.any (·.raised)

def write (surroundings : Surroundings I σ) (event : Event) : Surroundings I σ :=
  { surroundings with events := event :: surroundings.events }

def raise (surroundings : Surroundings I σ) (notice : List Event) : Surroundings I σ :=
  match surroundings.signal with
  | some ⟨false, true⟩ =>
      { surroundings with
        signal := some ⟨true, true⟩
        events := notice.reverse ++ surroundings.events }
  | _ => surroundings

/-- Has a query answered now. It is recorded first, then it may set off the signal. -/
def exchange (surroundings : Surroundings I σ) (peer : Peer I σ) (asker : Nat)
    (query : I.Query) : I.Answer query × Surroundings I σ :=
  let earlier := surroundings.exchanges.length
  let raised :=
    if peer.raises earlier surroundings.state query then surroundings.raise peer.notice
    else surroundings
  let (answer, state) := peer.respond query surroundings.state
  (answer,
    { raised with
      state := state
      exchanges := ⟨surroundings.now, asker, query, answer⟩ :: surroundings.exchanges })

/-- Lets the first moment come. The clock does not go back for one that was missed. -/
def take (surroundings : Surroundings I σ) (moment : Moment) (later : List Moment) :
    Surroundings I σ :=
  { surroundings with
    now := max surroundings.now moment.time
    signal := surroundings.signal.map (·.apply moment.change)
    moments := later }

def passTo (surroundings : Surroundings I σ) (time : Nat) :
    (moments : List Moment) → Surroundings I σ
  | [] => { surroundings with now := time, moments := [] }
  | moment :: later =>
      if moment.time < time then (surroundings.take moment later).passTo time later
      else { surroundings with now := time, moments := moment :: later }

/-- Waits; a wait of no length lets nothing happen. -/
def wait (surroundings : Surroundings I σ) (milliseconds : Nat) : Surroundings I σ :=
  if milliseconds = 0 then surroundings
  else surroundings.passTo (surroundings.now + milliseconds) surroundings.moments

def pauseTo (surroundings : Surroundings I σ) (time : Nat) :
    (moments : List Moment) → Bool × Surroundings I σ
  | [] => (false, { surroundings with now := time, moments := [] })
  | moment :: later =>
      if moment.time < time then
        let taken := surroundings.take moment later
        if taken.requested then (true, taken) else taken.pauseTo time later
      else (false, { surroundings with now := time, moments := moment :: later })

/-- Waits until the time is over or shutdown is requested, and tells whether it was. -/
def pause (surroundings : Surroundings I σ) (milliseconds : Nat) : Bool × Surroundings I σ :=
  if surroundings.requested then (true, surroundings)
  else if milliseconds = 0 then (false, surroundings)
  else surroundings.pauseTo (surroundings.now + milliseconds) surroundings.moments

end Surroundings

namespace Program

variable {I : Interface} {σ α : Type}

/-- Runs a program by itself, under the number that its queries are recorded with. -/
def run (program : Program I α) (peer : Peer I σ) (asker : Nat)
    (surroundings : Surroundings I σ) : α × Surroundings I σ :=
  match program with
  | done result => (result, surroundings)
  | write event next => next.run peer asker (surroundings.write event)
  | ask query next =>
      let waited := surroundings.wait (peer.latency surroundings.state query)
      let (answer, answered) := waited.exchange peer asker query
      (next answer).run peer asker answered
  | pause milliseconds next =>
      let (requested, paused) := surroundings.pause milliseconds
      (next requested).run peer asker paused
  | look next => (next surroundings.requested).run peer asker surroundings

end Program

end Tenancy
