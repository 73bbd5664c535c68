import Mathlib.Data.List.Nodup
import Tenancy.Proofs.Batch.Turns
import Tenancy.Proofs.Batch.Window
import Tenancy.Proofs.Complaints.Outspoken

/-!
The ledger of a batch: the calls that failed its programs, and the errors that were logged for them,
both in the order in which they occurred. At most the error for the latest call is still owed, and
its program is the next to go on.
-/

namespace Tenancy

/-- A call whose answer ended what it was made for, with the failure that it was passed on as and
what is to be logged for it. -/
structure Culprit where
  exchange : Exchange Backend
  failure : TenantError
  complaint : Option Event
  raised : Raises exchange.query exchange.answer failure complaint

def Culprit.asker (culprit : Culprit) : Nat := culprit.exchange.asker

def complaints (culprits : List Culprit) : List Event := culprits.filterMap Culprit.complaint

def Exchange.Closes {I : Interface} (exchanges : List (Exchange I)) (exchange : Exchange I) :
    Prop :=
  ∃ later earlier, exchanges = later ++ exchange :: earlier ∧
    ∀ other ∈ later, other.asker ≠ exchange.asker

def Surroundings.errors {I : Interface} {σ : Type} (surroundings : Surroundings I σ) :
    List Event :=
  surroundings.events.filter fun event => event.level = .error

structure Charges (before exchanges : List (Exchange Backend)) (culprits : List Culprit) :
    Prop where
  made : ∃ calls, exchanges = calls ++ before ∧
    (culprits.map Culprit.exchange).Sublist calls
  last : ∀ culprit ∈ culprits, culprit.exchange.Closes exchanges
  distinct : (culprits.map Culprit.asker).Nodup

variable {before exchanges : List (Exchange Backend)} {culprits : List Culprit}

theorem Charges.cons (charges : Charges before exchanges culprits) (exchange : Exchange Backend)
    (clean : ∀ culprit ∈ culprits, culprit.asker ≠ exchange.asker) :
    Charges before (exchange :: exchanges) culprits := by
  obtain ⟨calls, rfl, sublist⟩ := charges.made
  refine ⟨⟨exchange :: calls, rfl, sublist.cons exchange⟩, fun culprit member => ?_,
    charges.distinct⟩
  obtain ⟨later, earlier, same, silent⟩ := charges.last culprit member
  refine ⟨exchange :: later, earlier, by rw [same]; rfl, List.forall_mem_cons.mpr ⟨?_, silent⟩⟩
  exact (clean culprit member).symm

theorem Charges.convict (charges : Charges before exchanges culprits) (culprit : Culprit)
    (clean : ∀ other ∈ culprits, other.asker ≠ culprit.asker) :
    Charges before (culprit.exchange :: exchanges) (culprit :: culprits) := by
  obtain ⟨⟨calls, same, sublist⟩, last, distinct⟩ := charges.cons culprit.exchange clean
  obtain ⟨calls', same', sublist'⟩ := charges.made
  refine ⟨⟨culprit.exchange :: calls', by rw [same']; rfl, sublist'.cons_cons _⟩,
    List.forall_mem_cons.mpr ⟨⟨[], exchanges, rfl, List.forall_mem_nil _⟩, last⟩, ?_⟩
  rw [List.map_cons, List.nodup_cons]
  refine ⟨fun member => ?_, distinct⟩
  obtain ⟨other, found, same⟩ := List.mem_map.mp member
  exact clean other found same

namespace Surroundings

variable {I : Interface} {σ : Type} {surroundings other : Surroundings I σ} {event : Event}

theorem errors_of_events (same : surroundings.events = other.events) :
    surroundings.errors = other.errors := by
  rw [errors, errors, same]

theorem errors_write_of_quiet (quiet : event.level ≠ .error) :
    (surroundings.write event).errors = surroundings.errors := by
  simp [errors, write, quiet]

theorem errors_write_of_error (loud : event.level = .error) :
    (surroundings.write event).errors = event :: surroundings.errors := by
  simp [errors, write, loud]

theorem errors_exchange {peer : Peer I σ} {asker : Nat} {query : I.Query}
    (quiet : ∀ event ∈ peer.notice, event.level ≠ .error) :
    (surroundings.exchange peer asker query).2.errors = surroundings.errors := by
  have raised : (surroundings.raise peer.notice).errors = surroundings.errors := by
    unfold raise
    split
    · have none : peer.notice.reverse.filter (fun event => event.level = .error) = [] := by
        simpa using quiet
      simp only [errors, List.filter_append, none, List.nil_append]
    · rfl
  simp only [exchange]
  split
  · exact raised
  · rfl

end Surroundings

inductive Stands {α : Type} (culprits : List Culprit) (place : Nat)
    (rest : Program Backend (Except TenantError α)) : Prop
  | clear (outspoken : rest.Outspoken) (clean : ∀ culprit ∈ culprits, culprit.asker ≠ place)
  | failed {culprit : Culprit} (member : culprit ∈ culprits) (own : culprit.asker = place)
      (ended : rest = .done (.error culprit.failure))

namespace Stands

variable {α : Type} {place : Nat} {rest later : Program Backend (Except TenantError α)}

theorem passes (stands : Stands culprits place rest) (passes : Program.Passes rest later) :
    Stands culprits place later := by
  cases stands with
  | clear outspoken clean =>
      cases passes with
      | stays => exact .clear outspoken clean
      | pause _ _ requested | look _ requested => exact .clear (outspoken requested) clean
  | failed member own ended =>
      subst ended
      cases passes
      exact .failed member own rfl

theorem cons (stands : Stands culprits place rest) {culprit : Culprit}
    (apart : culprit.asker ≠ place) : Stands (culprit :: culprits) place rest := by
  cases stands with
  | clear outspoken clean => exact .clear outspoken (List.forall_mem_cons.mpr ⟨apart, clean⟩)
  | failed member own ended => exact .failed (List.mem_cons_of_mem _ member) own ended

theorem of_write {event : Event} (stands : Stands culprits place (.write event rest)) :
    event.level ≠ .error ∧ Stands culprits place rest := by
  cases stands with
  | clear outspoken clean => exact ⟨outspoken.1, .clear outspoken.2 clean⟩
  | failed _ _ ended => cases ended

theorem of_ask {query : Request} {next : query.Answer → Program Backend (Except TenantError α)}
    (stands : Stands culprits place (.ask query next)) (answer : query.Answer) :
    ((next answer).Outspoken ∨ Complains query answer (next answer)) ∧
      ∀ culprit ∈ culprits, culprit.asker ≠ place := by
  cases stands with
  | clear outspoken clean => exact ⟨outspoken answer, clean⟩
  | failed _ _ ended => cases ended

end Stands

namespace Batch

variable {σ α : Type} {batch next : Batch Backend σ (Except TenantError α)} {peer : Peer Backend σ}
  {errors : List Event}

/-- The errors that have been logged since there were these: one for each culprit that calls for
one, but for the latest if its error is still owed. -/
inductive Balance (errors : List Event) (batch : Batch Backend σ (Except TenantError α)) :
    List Culprit → Prop
  | even {culprits : List Culprit}
      (accounts : batch.surroundings.errors = complaints culprits ++ errors)
      (stands : ∀ place task, batch.tasks[place]? = some task → Stands culprits place task.rest) :
      Balance errors batch culprits
  | owing {culprit : Culprit} {culprits : List Culprit} {event : Event} {ticket : Nat}
      (complains : culprit.complaint = some event)
      (accounts : batch.surroundings.errors = complaints culprits ++ errors)
      (owes : batch.tasks[culprit.asker]? =
        some (.ready ticket (.write event (.done (.error culprit.failure)))))
      (foremost : batch.Foremost culprit.asker)
      (stands : ∀ place task, place ≠ culprit.asker → batch.tasks[place]? = some task →
        Stands (culprit :: culprits) place task.rest) :
      Balance errors batch (culprit :: culprits)

structure Ledger (before : List (Exchange Backend)) (errors : List Event)
    (batch : Batch Backend σ (Except TenantError α)) (culprits : List Culprit) : Prop where
  queued : batch.Queued
  within : ∀ culprit ∈ culprits, culprit.asker < batch.tasks.length
  charges : Charges before batch.surroundings.exchanges culprits
  balance : Balance errors batch culprits

theorem within_put {place : Fin batch.tasks.length} {task : Task Backend (Except TenantError α)}
    {surroundings : Surroundings Backend σ}
    (within : ∀ culprit ∈ culprits, culprit.asker < batch.tasks.length) :
    ∀ culprit ∈ culprits,
      culprit.asker < (batch.put place task surroundings).tasks.length := by
  rw [put, List.length_set]
  exact within

theorem getElem?_put (place : Fin batch.tasks.length) (task : Task Backend (Except TenantError α))
    (surroundings : Surroundings Backend σ) (other : Nat) :
    (batch.put place task surroundings).tasks[other]? =
      if place.val = other then some task else batch.tasks[other]? := by
  rw [put, List.getElem?_set]
  split
  next same =>
    subst same
    rw [if_pos place.isLt]
  next => rfl

theorem forall_put {place : Fin batch.tasks.length} {task : Task Backend (Except TenantError α)}
    {surroundings : Surroundings Backend σ}
    {Holds : Nat → Task Backend (Except TenantError α) → Prop} (own : Holds place task)
    (others : ∀ other found, other ≠ place.val → batch.tasks[other]? = some found →
      Holds other found) (other : Nat) (found : Task Backend (Except TenantError α))
    (known : (batch.put place task surroundings).tasks[other]? = some found) :
    Holds other found := by
  rw [getElem?_put] at known
  split at known
  next same =>
    subst same
    obtain rfl := Option.some.inj known
    exact own
  next apart => exact others other found (Ne.symm apart) known

theorem Foremost.put {first : Nat} (foremost : batch.Foremost first) (queued : batch.Queued)
    {place : Fin batch.tasks.length} {task : Task Backend (Except TenantError α)}
    {surroundings : Surroundings Backend σ}
    (ticket : ∀ own, task.readyTicket? = some own →
      own = batch.ticket ∨ batch.ticketAt place = some own)
    (same : (batch.put place task surroundings).ticketAt first = batch.ticketAt first) :
    (batch.put place task surroundings).Foremost first := by
  intro own mine other its known
  rw [same] at mine
  rw [ticketAt_put] at known
  split at known
  · obtain rfl | kept := ticket its known
    · exact Nat.le_of_lt (queued.drawn first own mine)
    · exact foremost own mine place its kept
  · exact foremost own mine other its known

theorem get_eq_of_getElem? (place : Fin batch.tasks.length)
    {task : Task Backend (Except TenantError α)}
    (known : batch.tasks[place.val]? = some task) : batch.tasks.get place = task := by
  rw [List.getElem?_eq_getElem place.isLt] at known
  exact Option.some.inj known

section

variable {place : Fin batch.tasks.length} {ticket : Nat}
  {rest : Program Backend (Except TenantError α)} {surroundings : Surroundings Backend σ}

theorem Ledger.acquits (ledger : Ledger before errors batch culprits)
    (stands : ∀ other task, batch.tasks[other]? = some task → Stands culprits other task.rest)
    (turn : batch.ticketAt place = some ticket)
    (clean : ∀ culprit ∈ culprits, culprit.asker ≠ place.val) {exchange : Exchange Backend}
    (asker : exchange.asker = place)
    (exchanges : surroundings.exchanges = exchange :: batch.surroundings.exchanges)
    (accounts : surroundings.errors = complaints culprits ++ errors)
    (outspoken : rest.Outspoken) :
    Ledger before errors (batch.put place (.ready ticket rest) surroundings) culprits := by
  have queued := ledger.queued.put place (.ready ticket rest) surroundings fun own known =>
    .inr (turn.trans known)
  refine ⟨queued, within_put ledger.within, ?_, .even accounts ?_⟩
  · rw [put, exchanges]
    exact ledger.charges.cons exchange (asker ▸ clean)
  · exact forall_put (.clear outspoken clean) fun other found _ => stands other found

theorem Ledger.convicts (ledger : Ledger before errors batch culprits)
    (stands : ∀ other task, batch.tasks[other]? = some task → Stands culprits other task.rest)
    (turn : batch.ticketAt place = some ticket)
    (clean : ∀ culprit ∈ culprits, culprit.asker ≠ place.val) (culprit : Culprit)
    (own : culprit.asker = place.val)
    (exchanges : surroundings.exchanges = culprit.exchange :: batch.surroundings.exchanges)
    (accounts : surroundings.errors = complaints culprits ++ errors)
    (silent : culprit.complaint = none) :
    Ledger before errors
      (batch.put place (.ready ticket (.done (.error culprit.failure))) surroundings)
      (culprit :: culprits) := by
  have queued := ledger.queued.put place (.ready ticket (.done (.error culprit.failure)))
    surroundings fun mine known => .inr (turn.trans known)
  have within := List.forall_mem_cons.mpr ⟨own ▸ place.isLt, ledger.within⟩
  refine ⟨queued, within_put within, ?_, .even ?_ ?_⟩
  · rw [put, exchanges]
    exact ledger.charges.convict culprit (own ▸ clean)
  · rw [complaints, List.filterMap_cons, silent]
    exact accounts
  · refine forall_put (.failed List.mem_cons_self own rfl) fun other found apart known => ?_
    exact (stands other found known).cons (own ▸ apart.symm)

theorem Ledger.incurs (ledger : Ledger before errors batch culprits)
    (stands : ∀ other task, batch.tasks[other]? = some task → Stands culprits other task.rest)
    (turn : batch.ticketAt place = some ticket) (foremost : batch.Foremost place)
    (clean : ∀ culprit ∈ culprits, culprit.asker ≠ place.val) (culprit : Culprit)
    (own : culprit.asker = place.val)
    (exchanges : surroundings.exchanges = culprit.exchange :: batch.surroundings.exchanges)
    (accounts : surroundings.errors = complaints culprits ++ errors) {event : Event}
    (complains : culprit.complaint = some event) :
    Ledger before errors
      (batch.put place (.ready ticket (.write event (.done (.error culprit.failure))))
        surroundings) (culprit :: culprits) := by
  have kept : ∀ mine, some ticket = some mine → mine = batch.ticket ∨
      batch.ticketAt place = some mine := fun mine known => .inr (turn.trans known)
  have queued := ledger.queued.put place
    (.ready ticket (.write event (.done (.error culprit.failure)))) surroundings kept
  have within := List.forall_mem_cons.mpr ⟨own ▸ place.isLt, ledger.within⟩
  have owes := getElem?_put place (.ready ticket (.write event (.done (.error culprit.failure))))
    surroundings culprit.asker
  rw [if_pos own.symm] at owes
  refine ⟨queued, within_put within, ?_, .owing complains accounts owes ?_ ?_⟩
  · rw [put, exchanges]
    exact ledger.charges.convict culprit (own ▸ clean)
  · rw [own]
    refine foremost.put ledger.queued kept ?_
    rw [ticketAt_put, if_pos rfl]
    exact turn.symm
  · intro other found apart known
    rw [own] at apart
    rw [getElem?_put, if_neg apart.symm] at known
    exact (stands other found known).cons (own ▸ apart.symm)

end

theorem Ledger.answered (quiet : ∀ event ∈ peer.notice, event.level ≠ .error)
    (ledger : Ledger before errors batch culprits)
    (accounts : batch.surroundings.errors = complaints culprits ++ errors)
    (stands : ∀ place task, batch.tasks[place]? = some task → Stands culprits place task.rest)
    {place : Fin batch.tasks.length} {ticket : Nat} {query : Request}
    (turn : batch.ticketAt place = some ticket) (foremost : batch.Foremost place)
    (clean : ∀ culprit ∈ culprits, culprit.asker ≠ place.val)
    {rest : Program Backend (Except TenantError α)}
    (goes : rest.Outspoken ∨
      Complains query (peer.respond query batch.surroundings.state).1 rest) :
    ∃ culprits, Ledger before errors (batch.put place (.ready ticket rest)
      (batch.surroundings.exchange peer place query).2) culprits := by
  let exchange : Exchange Backend :=
    ⟨batch.surroundings.now, place, query, (peer.respond query batch.surroundings.state).1⟩
  have same := (@Surroundings.errors_exchange Backend σ batch.surroundings peer place query quiet).trans
    accounts
  obtain outspoken | complains := goes
  · exact ⟨culprits, ledger.acquits stands turn clean (show exchange.asker = place from rfl) rfl same
      outspoken⟩
  cases complains with
  | @silent failure raises =>
      let culprit : Culprit := ⟨exchange, failure, none, raises⟩
      exact ⟨culprit :: culprits, ledger.convicts stands turn clean culprit rfl rfl same rfl⟩
  | @aloud failure event raises =>
      let culprit : Culprit := ⟨exchange, failure, some event, raises⟩
      exact ⟨culprit :: culprits, ledger.incurs stands turn foremost clean culprit rfl rfl same rfl⟩

theorem Ledger.move_even (quiet : ∀ event ∈ peer.notice, event.level ≠ .error)
    (ledger : Ledger before errors batch culprits)
    (accounts : batch.surroundings.errors = complaints culprits ++ errors)
    (stands : ∀ place task, batch.tasks[place]? = some task → Stands culprits place task.rest)
    {place : Fin batch.tasks.length} (moves : Moves peer batch place next)
    (foremost : batch.Foremost place) : ∃ culprits, Ledger before errors next culprits := by
  have queued := moves.queued ledger.queued
  have here : Stands culprits place (batch.tasks.get place).rest := stands place _ (by simp)
  have others {task : Task Backend (Except TenantError α)} {surroundings : Surroundings Backend σ}
      (own : Stands culprits place task.rest) (other : Nat)
      (found : Task Backend (Except TenantError α))
      (known : (batch.put place task surroundings).tasks[other]? = some found) :
      Stands culprits other found.rest :=
    forall_put own (fun other found _ => stands other found) other found known
  cases moves with
  | @passes task surroundings rest ticket exchanges events =>
      refine ⟨culprits, queued, within_put ledger.within, ?_,
        .even ?_ (others (here.passes rest))⟩
      · rw [put, exchanges]
        exact ledger.charges
      · exact (Surroundings.errors_of_events events).trans accounts
  | @writes ticket event rest task =>
      rw [task] at here
      obtain ⟨silent, onward⟩ := here.of_write
      exact ⟨culprits, queued, within_put ledger.within, ledger.charges,
        .even ((Surroundings.errors_write_of_quiet silent).trans accounts) (others onward)⟩
  | @asks ticket query rest task =>
      rw [task] at here
      obtain ⟨goes, clean⟩ := here.of_ask _
      have turn : batch.ticketAt place = some ticket := by
        rw [ticketAt_get, task]
        rfl
      exact ledger.answered quiet accounts stands turn foremost clean goes

section

variable {culprit : Culprit} {event : Event} {ticket : Nat} {place : Fin batch.tasks.length}

theorem Ledger.pays (ledger : Ledger before errors batch (culprit :: culprits))
    (complains : culprit.complaint = some event)
    (accounts : batch.surroundings.errors = complaints culprits ++ errors)
    (turn : batch.ticketAt place = some ticket) (own : place.val = culprit.asker)
    (stands : ∀ other task, other ≠ culprit.asker → batch.tasks[other]? = some task →
      Stands (culprit :: culprits) other task.rest) :
    Ledger before errors (batch.put place (.ready ticket (.done (.error culprit.failure)))
      (batch.surroundings.write event)) (culprit :: culprits) := by
  have queued := ledger.queued.put place (.ready ticket (.done (.error culprit.failure)))
    (batch.surroundings.write event) fun mine known => .inr (turn.trans known)
  have raised := culprit.raised
  rw [complains] at raised
  refine ⟨queued, within_put ledger.within, ledger.charges, .even ?_ ?_⟩
  · rw [put, Surroundings.errors_write_of_error raised.isError, accounts]
    simp [complaints, complains]
  · refine forall_put (.failed List.mem_cons_self own.symm rfl) fun other found apart known => ?_
    exact stands other found (own ▸ apart) known

theorem Ledger.defers (ledger : Ledger before errors batch (culprit :: culprits))
    (complains : culprit.complaint = some event)
    (accounts : batch.surroundings.errors = complaints culprits ++ errors)
    (owes : batch.tasks[culprit.asker]? =
      some (.ready ticket (.write event (.done (.error culprit.failure)))))
    (first : batch.Foremost culprit.asker)
    (stands : ∀ other task, other ≠ culprit.asker → batch.tasks[other]? = some task →
      Stands (culprit :: culprits) other task.rest)
    (own : place.val ≠ culprit.asker) {task : Task Backend (Except TenantError α)}
    {surroundings : Surroundings Backend σ}
    (rest : Program.Passes (batch.tasks.get place).rest task.rest)
    (tickets : ∀ own, task.readyTicket? = some own →
      own = batch.ticket ∨ batch.ticketAt place = some own)
    (exchanges : surroundings.exchanges = batch.surroundings.exchanges)
    (events : surroundings.events = batch.surroundings.events) :
    Ledger before errors (batch.put place task surroundings) (culprit :: culprits) := by
  have queued := ledger.queued.put place task surroundings tickets
  have here : Stands (culprit :: culprits) place (batch.tasks.get place).rest :=
    stands place _ own (by simp)
  have still : (batch.put place task surroundings).tasks[culprit.asker]? =
      batch.tasks[culprit.asker]? := by rw [getElem?_put, if_neg own]
  refine ⟨queued, within_put ledger.within, ?_,
    .owing complains ?_ (still.trans owes) (first.put ledger.queued tickets ?_) ?_⟩
  · rw [put, exchanges]
    exact ledger.charges
  · exact (Surroundings.errors_of_events events).trans accounts
  · rw [ticketAt_put, if_neg own]
  · intro other found apart known
    by_cases same : place.val = other
    · subst same
      rw [getElem?_put, if_pos rfl] at known
      obtain rfl := Option.some.inj known
      exact here.passes rest
    · rw [getElem?_put, if_neg same] at known
      exact stands other found apart known

theorem Ledger.move_owing (ledger : Ledger before errors batch (culprit :: culprits))
    (complains : culprit.complaint = some event)
    (accounts : batch.surroundings.errors = complaints culprits ++ errors)
    (owes : batch.tasks[culprit.asker]? =
      some (.ready ticket (.write event (.done (.error culprit.failure)))))
    (first : batch.Foremost culprit.asker)
    (stands : ∀ other task, other ≠ culprit.asker → batch.tasks[other]? = some task →
      Stands (culprit :: culprits) other task.rest)
    (moved : batch.move peer place = some next) (foremost : batch.Foremost place) :
    Ledger before errors next (culprit :: culprits) := by
  have turn : batch.ticketAt culprit.asker = some ticket := ticketAt_eq_some_iff.mpr ⟨_, owes, rfl⟩
  by_cases own : place.val = culprit.asker
  · have task := get_eq_of_getElem? place (by rw [own, owes])
    have wrote : next = batch.put place (.ready ticket (.done (.error culprit.failure)))
        (batch.surroundings.write event) := by
      rw [move, task] at moved
      exact (Option.some.inj moved).symm
    subst wrote
    exact ledger.pays complains accounts (own ▸ turn) own stands
  · have idle : batch.ticketAt place = none := by
      refine Option.eq_none_iff_forall_ne_some.mpr fun mine known => ?_
      have low := ledger.queued.behind first turn known own
      have high := foremost mine known culprit.asker ticket turn
      omega
    have unready : (batch.tasks.get place).readyTicket? = none := by
      rw [← ticketAt_get, idle]
    cases move_moves moved with
    | writes task | asks task =>
        rw [task] at unready
        cases unready
    | passes rest tickets exchanges events =>
        exact ledger.defers complains accounts owes first stands own rest tickets exchanges events

end

theorem Ledger.happen (ledger : Ledger before errors batch culprits) (idle : batch.Idle)
    (moment : Moment) (later : List Moment) :
    Ledger before errors (batch.happen moment later) culprits := by
  have queued := ledger.queued.happen moment later
  have requeued (place : Nat) (task : Task Backend (Except TenantError α)) :
      (batch.requeue moment place task).rest = task.rest := by
    obtain same | same := batch.requeue_cases moment place task
    · rw [same]
    · rw [same]
      cases task <;> rfl
  refine ⟨queued, ?_, ledger.charges, ?_⟩
  · rw [Batch.happen, List.length_mapIdx]
    exact ledger.within
  cases ledger.balance with
  | even accounts stands =>
      refine .even accounts fun place task known => ?_
      rw [Batch.happen, List.getElem?_mapIdx, Option.map_eq_some_iff] at known
      obtain ⟨old, found, rfl⟩ := known
      rw [requeued]
      exact stands place old found
  | owing complains accounts owes foremost stands =>
      have unready := idle _ (List.mem_of_getElem? owes)
      cases unready

theorem Ledger.step (quiet : ∀ event ∈ peer.notice, event.level ≠ .error)
    (ledger : Ledger before errors batch culprits) (stepped : batch.step peer = some next) :
    ∃ culprits, Ledger before errors next culprits := by
  obtain ⟨place, moved, foremost⟩ | ⟨idle, moment, later, rfl⟩ := step_turn stepped
  · cases ledger.balance with
    | even accounts stands =>
        exact ledger.move_even quiet accounts stands (move_moves moved) foremost
    | owing complains accounts owes first stands =>
        exact ⟨_, ledger.move_owing complains accounts owes first stands moved foremost⟩
  · exact ⟨culprits, ledger.happen idle moment later⟩

theorem Ledger.run (quiet : ∀ event ∈ peer.notice, event.level ≠ .error)
    (ledger : Ledger before errors batch culprits) :
    ∃ culprits, Ledger before errors (batch.run peer) culprits := by
  fun_induction Batch.run batch peer generalizing culprits with
  | case1 batch stuck => exact ⟨culprits, ledger⟩
  | case2 batch next stepped ih =>
      obtain ⟨culprits, ledger⟩ := ledger.step quiet stepped
      exact ih ledger

theorem ledger_start (surroundings : Surroundings Backend σ) (limit : Nat)
    {programs : List (Program Backend (Except TenantError α))}
    (outspoken : ∀ program ∈ programs, program.Outspoken) :
    Ledger surroundings.exchanges surroundings.errors
      (Batch.start surroundings limit programs) [] := by
  refine ⟨queued_start surroundings limit programs, List.forall_mem_nil _, ?_, .even rfl ?_⟩
  · exact ⟨⟨[], rfl, .slnil⟩, List.forall_mem_nil _, .nil⟩
  · intro place task known
    rw [Batch.start, List.getElem?_map, Option.map_eq_some_iff] at known
    obtain ⟨program, found, rfl⟩ := known
    exact .clear (outspoken program (List.mem_of_getElem? found)) (List.forall_mem_nil _)

/-- When all programs have ended, all is logged, and those that failed by a call are the ones that
the culprits failed. -/
theorem Ledger.settled (ledger : Ledger before errors batch culprits)
    (ended : ∀ task ∈ batch.tasks, task.result?.isSome) :
    batch.surroundings.errors = complaints culprits ++ errors ∧
      ∀ place failure, batch.results[place]? = some (.error failure) ∧ failure.ofCall ↔
        ∃ culprit ∈ culprits, culprit.asker = place ∧ culprit.failure = failure := by
  have rests := results_of_all_ended ended
  cases ledger.balance with
  | owing complains accounts owes foremost stands =>
      have late := ended _ (List.mem_of_getElem? owes)
      cases late
  | even accounts stands =>
      have stand (place : Nat) (result : Except TenantError α)
          (known : batch.results[place]? = some result) :
          Stands culprits place (.done result) := by
        have left : batch.rests[place]? = some (.done result) := by simp [rests, known]
        rw [Batch.rests, List.getElem?_map, Option.map_eq_some_iff] at left
        obtain ⟨task, found, same⟩ := left
        exact same ▸ stands place task found
      refine ⟨accounts, fun place failure => ?_⟩
      constructor
      · rintro ⟨known, called⟩
        cases stand place _ known with
        | clear outspoken clean =>
            rw [Program.Outspoken, called] at outspoken
            cases outspoken
        | failed member own ended =>
            cases ended
            exact ⟨_, member, own, rfl⟩
      · rintro ⟨culprit, member, rfl, rfl⟩
        refine ⟨?_, culprit.raised.ofCall⟩
        have low : culprit.asker < batch.results.length := by
          have same := congrArg List.length rests
          rw [Batch.rests, List.length_map, List.length_map] at same
          exact same ▸ ledger.within culprit member
        have known := List.getElem?_eq_getElem low
        rw [known]
        cases stand _ _ known with
        | clear _ clean => exact absurd rfl (clean culprit member)
        | @failed other within own ended =>
            obtain rfl : other = culprit :=
              List.inj_on_of_nodup_map ledger.charges.distinct within member own
            rw [Program.done.inj ended]

end Batch

end Tenancy
