import Tenancy.Proofs.DeviceApi.Serving

/-!
Runs over a server that serves an estate mirror runs over the estate itself: whatever a program in
words asks, both are asked the same at the same times, and both end alike.
-/

namespace Tenancy

open Web (HttpRequest IsScheme Response)

def Exchange.told (exchange : Exchange Backend) : Nat × Nat × Option Request :=
  (exchange.time, exchange.asker, some exchange.query.told)

def Exchange.read (exchange : Exchange Uplink) : Nat × Nat × Option Request :=
  (exchange.time, exchange.asker, (Uplink.read? exchange.query).map Request.told)

variable {τ α β : Type} {view : τ → Estate}

structure Mirrors (view : τ → Estate) (here : Surroundings Backend Estate)
    (there : Surroundings Uplink τ) : Prop where
  state : view there.state = here.state
  now : there.now = here.now
  signal : there.signal = here.signal
  moments : there.moments = here.moments
  calls : there.exchanges.map Exchange.read = here.exchanges.map Exchange.told

namespace Mirrors

variable {here : Surroundings Backend Estate} {there : Surroundings Uplink τ}

theorem requested (mirrors : Mirrors view here there) : there.requested = here.requested := by
  rw [Surroundings.requested, Surroundings.requested, mirrors.signal]

theorem write (mirrors : Mirrors view here there) (event : Event) :
    Mirrors view (here.write event) there :=
  ⟨mirrors.state, mirrors.now, mirrors.signal, mirrors.moments, mirrors.calls⟩

theorem writeThere (mirrors : Mirrors view here there) (event : Event) :
    Mirrors view here (there.write event) :=
  ⟨mirrors.state, mirrors.now, mirrors.signal, mirrors.moments, mirrors.calls⟩

theorem take (mirrors : Mirrors view here there) (moment : Moment) (later : List Moment) :
    Mirrors view (here.take moment later) (there.take moment later) := by
  refine ⟨mirrors.state, ?_, ?_, rfl, mirrors.calls⟩
  · simp only [Surroundings.take, mirrors.now]
  · simp only [Surroundings.take, mirrors.signal]

theorem passTo (mirrors : Mirrors view here there) (time : Nat) (moments : List Moment) :
    Mirrors view (here.passTo time moments) (there.passTo time moments) := by
  induction moments generalizing here there with
  | nil => exact ⟨mirrors.state, rfl, mirrors.signal, rfl, mirrors.calls⟩
  | cons moment later ih =>
      simp only [Surroundings.passTo]
      split
      · exact ih (mirrors.take moment later)
      · exact ⟨mirrors.state, rfl, mirrors.signal, rfl, mirrors.calls⟩

theorem wait (mirrors : Mirrors view here there) (milliseconds : Nat) :
    Mirrors view (here.wait milliseconds) (there.wait milliseconds) := by
  unfold Surroundings.wait
  split
  · exact mirrors
  · rw [mirrors.now, mirrors.moments]
    exact mirrors.passTo _ _

theorem pauseTo (mirrors : Mirrors view here there) (time : Nat) (moments : List Moment) :
    (there.pauseTo time moments).1 = (here.pauseTo time moments).1 ∧
      Mirrors view (here.pauseTo time moments).2 (there.pauseTo time moments).2 := by
  induction moments generalizing here there with
  | nil => exact ⟨rfl, mirrors.state, rfl, mirrors.signal, rfl, mirrors.calls⟩
  | cons moment later ih =>
      have taken := mirrors.take moment later
      simp only [Surroundings.pauseTo, taken.requested]
      split
      · split
        · exact ⟨rfl, taken⟩
        · exact ih taken
      · exact ⟨rfl, mirrors.state, rfl, mirrors.signal, rfl, mirrors.calls⟩

theorem pause (mirrors : Mirrors view here there) (milliseconds : Nat) :
    (there.pause milliseconds).1 = (here.pause milliseconds).1 ∧
      Mirrors view (here.pause milliseconds).2 (there.pause milliseconds).2 := by
  unfold Surroundings.pause
  rw [mirrors.requested, mirrors.now, mirrors.moments]
  split
  · exact ⟨rfl, mirrors⟩
  · split
    · exact ⟨rfl, mirrors⟩
    · exact mirrors.pauseTo _ _

theorem raise (mirrors : Mirrors view here there) (notice other : List Event) :
    Mirrors view (here.raise notice) (there.raise other) := by
  unfold Surroundings.raise
  rw [mirrors.signal]
  split
  · exact ⟨mirrors.state, mirrors.now, rfl, mirrors.moments, mirrors.calls⟩
  · exact mirrors

end Mirrors

def Surroundings.answered (here : Surroundings Backend Estate) (raiseOnCall : Option Nat)
    (asker : Nat) (request : Request) : Surroundings Backend Estate :=
  ((here.wait (here.state.latency request)).exchange (Estate.peer raiseOnCall) asker request).2

namespace DeviceApi

variable {access : Access} {aliases : List String} {raiseOnCall : Option Nat}
  {server : Peer Uplink τ} {here : Surroundings Backend Estate} {there : Surroundings Uplink τ}

theorem Serves.raised (serves : Serves access.scheme aliases raiseOnCall view server)
    (mirrors : Mirrors view here there) {request : Request} {query : HttpRequest ⊕ Request}
    (meets : Meets access.scheme aliases view there.state query request.told) :
    Mirrors view
      (if (Estate.peer raiseOnCall).raises here.exchanges.length here.state request then
        here.raise (Estate.peer raiseOnCall).notice else here)
      (if server.raises there.exchanges.length there.state query then
        there.raise server.notice else there) := by
  have earlier : there.exchanges.length = here.exchanges.length := by
    simpa using congrArg List.length mirrors.calls
  have same : server.raises there.exchanges.length there.state query =
      (Estate.peer raiseOnCall).raises here.exchanges.length here.state request := by
    rw [serves.raises meets, earlier]
    rfl
  rw [same]
  split
  · exact mirrors.raise _ _
  · exact mirrors

theorem Serves.exchange (serves : Serves access.scheme aliases raiseOnCall view server)
    (mirrors : Mirrors view here there) {request : Request} {query : HttpRequest ⊕ Request}
    (meets : Meets access.scheme aliases view there.state query request.told) (asker : Nat) :
    Mirrors view (here.exchange (Estate.peer raiseOnCall) asker request).2
      (there.exchange server asker query).2 := by
  have raised := serves.raised mirrors meets
  refine ⟨?_, raised.now, raised.signal, raised.moments, ?_⟩
  · rw [Surroundings.exchange_state, Surroundings.exchange_state, serves.keeps meets,
      Estate.respond_told, mirrors.state]
    rfl
  · rw [Surroundings.exchange_exchanges, Surroundings.exchange_exchanges, List.map_cons,
      List.map_cons, mirrors.calls]
    simp only [Exchange.read, Exchange.told, meets.read, Option.map_some, Request.told_told,
      mirrors.now]

theorem Serves.asked (serves : Serves access.scheme aliases raiseOnCall view server)
    (mirrors : Mirrors view here there) {request : Request} {query : HttpRequest ⊕ Request}
    (meets : Meets access.scheme aliases view there.state query request.told) (asker : Nat) :
    Mirrors view (here.answered raiseOnCall asker request)
      ((there.wait (server.latency there.state query)).exchange server asker query).2 := by
  have waits : server.latency there.state query = here.state.latency request := by
    rw [serves.latency meets, mirrors.state, Estate.latency_told]
  have met : Meets access.scheme aliases view
      (there.wait (server.latency there.state query)).state query request.told := by
    rw [Surroundings.wait_state]
    exact meets
  rw [Surroundings.answered, ← waits]
  exact serves.exchange (mirrors.wait _) met asker

theorem Serves.carried (serves : Serves access.scheme aliases raiseOnCall view server)
    (mirrors : Mirrors view here there) (plain : here.state.IsPlain aliases) {request : Request}
    (words : request.IsPlain access.scheme) {reading : Response → Except DeviceError α}
    {program : Program Web.Http (Except DeviceError α)}
    (carries : Carries request.told reading program) (asker : Nat) :
    ∃ response after, Tells response request.told (Estate.respond request.told here.state).1 ∧
      Mirrors view (here.answered raiseOnCall asker request) after ∧
        ∀ next : Except DeviceError α → Program Uplink β,
          ((relay.overHttp program).bind next).run server asker there =
            (next (reading response)).run server asker after := by
  obtain ⟨event, query, next, read, reads⟩ := carries
  let written := there.write event
  let waited := written.wait (server.latency written.state (.inl query))
  have met : Meets access.scheme aliases view written.state (.inl query) request.told :=
    ⟨read, words.told, mirrors.state ▸ plain⟩
  obtain ⟨response, answered, tells⟩ := serves.tells met
  have heard : (waited.exchange server asker (.inl query)).1 = some response := by
    rw [Surroundings.exchange_answer, Surroundings.wait_state, answered]
  refine ⟨response, (waited.exchange server asker (.inl query)).2, ?_,
    serves.asked (mirrors.writeThere event) met asker, fun rest => ?_⟩
  · rw [← mirrors.state]
    exact tells
  · change (((next (waited.exchange server asker (.inl query)).1).via _).bind rest).run server asker
      (waited.exchange server asker (.inl query)).2 = _
    rw [heard, reads]
    rfl

/-- Whatever is asked in words, a manager over a server goes on from there with an answer like that
of the estate. -/
theorem Serves.relayed (web : IsScheme access.scheme)
    (serves : Serves access.scheme aliases raiseOnCall view server)
    (mirrors : Mirrors view here there) (plain : here.state.IsPlain aliases) {request : Request}
    (words : request.IsPlain access.scheme) (fits : Fits access request) (asker : Nat) :
    ∃ answer after, (Tolerance.reworded aliases).alike request
        (Estate.respond request here.state).1 answer ∧
      Mirrors view (here.answered raiseOnCall asker request) after ∧
        ∀ next : request.Answer → Program Uplink β,
          ((relay access request).bind next).run server asker there =
            (next answer).run server asker after := by
  have expected := Estate.respond_expected plain request
  cases request with
  | probe host kind name =>
      obtain ⟨response, after, tells, mirrored, goes⟩ :=
        serves.carried mirrors plain words (probe_carries web words fits) asker
      exact ⟨_, after, probed_alike expected tells, mirrored, goes⟩
  | create host kind payload =>
      obtain ⟨response, after, tells, mirrored, goes⟩ :=
        serves.carried mirrors plain words (create_carries web words fits) asker
      exact ⟨_, after, created_alike expected tells, mirrored, goes⟩
  | list host kind partition =>
      obtain ⟨response, after, tells, mirrored, goes⟩ :=
        serves.carried mirrors plain words (list_carries web words fits) asker
      exact ⟨_, after, listed_alike expected tells, mirrored, goes⟩
  | delete host resource =>
      obtain ⟨response, after, tells, mirrored, goes⟩ :=
        serves.carried mirrors plain words (delete_carries web words fits) asker
      refine ⟨_, after, deleted_alike expected ?_, mirrored, goes⟩
      rw [Request.told, Estate.respond_delete_told] at tells
      exact tells_delete_iff.mp tells
  | releasePort port =>
      have met : Meets access.scheme aliases view there.state (.inr (.releasePort port))
          (Request.releasePort port).told := ⟨rfl, trivial, mirrors.state ▸ plain⟩
      exact ⟨_, _, trivial, serves.asked mirrors met asker, fun next => rfl⟩
  | releaseTag host tag =>
      have met : Meets access.scheme aliases view there.state (.inr (.releaseTag host tag))
          (Request.releaseTag host tag).told := ⟨rfl, trivial, mirrors.state ▸ plain⟩
      refine ⟨_, _, ?_, serves.asked mirrors met asker, fun next => rfl⟩
      have same := serves.answers met
      rw [mirrors.state] at same
      change _ = _
      rw [Surroundings.wait_state]
      exact same.symm

end DeviceApi

theorem Program.exchanges_subset_run {I : Interface} {σ : Type} (program : Program I α)
    (peer : Peer I σ) (asker : Nat) (surroundings : Surroundings I σ) :
    surroundings.exchanges ⊆ (program.run peer asker surroundings).2.exchanges := by
  induction program generalizing surroundings with
  | done result => exact List.Subset.refl _
  | write event next ih => exact ih (surroundings.write event)
  | ask query next ih =>
      have grown : surroundings.exchanges ⊆ ((surroundings.wait
          (peer.latency surroundings.state query)).exchange peer asker query).2.exchanges := by
        simp
      exact List.Subset.trans grown (ih _ _)
  | pause milliseconds next ih =>
      have kept : surroundings.exchanges ⊆ (surroundings.pause milliseconds).2.exchanges := by simp
      exact List.Subset.trans kept (ih _ _)
  | look next ih => exact ih _ surroundings

namespace DeviceApi

variable {access : Access} {aliases : List String} {raiseOnCall : Option Nat}
  {server : Peer Uplink τ} {here : Surroundings Backend Estate} {there : Surroundings Uplink τ}
  {request : Request}

structure RunsMirror (aliases : List String) (view : τ → Estate) (Ends : α → β → Prop)
    (here : α × Surroundings Backend Estate) (there : β × Surroundings Uplink τ) : Prop where
  ends : Ends here.1 there.1
  mirrors : Mirrors view here.2 there.2
  plain : here.2.state.IsPlain aliases

theorem run_ask_answered (next : request.Answer → Program Backend α) (asker : Nat) :
    (.ask request next : Program Backend α).run (Estate.peer raiseOnCall) asker here =
      (next (Estate.respond request here.state).1).run (Estate.peer raiseOnCall) asker
        (here.answered raiseOnCall asker request) := by
  have answers : ((here.wait (here.state.latency request)).exchange (Estate.peer raiseOnCall)
      asker request).1 = (Estate.respond request here.state).1 := by
    rw [Surroundings.exchange_answer, Surroundings.wait_state]
    rfl
  rw [← answers]
  rfl

theorem fits_of_answered {rest : Program Backend α} {asker : Nat}
    (fits : ∀ exchange ∈ (rest.run (Estate.peer raiseOnCall) asker
      (here.answered raiseOnCall asker request)).2.exchanges, Fits access exchange.query) :
    Fits access request := by
  have recorded : ⟨_, asker, request, _⟩ ∈ (here.answered raiseOnCall asker request).exchanges :=
    List.mem_cons_self
  exact fits _ (rest.exchanges_subset_run _ asker _ recorded)

theorem answered_plain (plain : here.state.IsPlain aliases) (asker : Nat) (request : Request) :
    (here.answered raiseOnCall asker request).state.IsPlain aliases := by
  have waited : (here.wait (here.state.latency request)).state.IsPlain aliases := by
    rw [Surroundings.wait_state]
    exact plain
  exact waited.respond request

theorem Serves.run (web : IsScheme access.scheme)
    (serves : Serves access.scheme aliases raiseOnCall view server) {Ends : α → β → Prop}
    {program : Program Backend α} {other : Program Backend β}
    (alike : Program.Alike (Tolerance.reworded aliases).likeness Ends program other)
    {Holds : α → Prop} (keeps : program.Keeps (Request.words access.scheme aliases) Holds)
    (mirrors : Mirrors view here there) (plain : here.state.IsPlain aliases) (asker : Nat)
    (fits : ∀ exchange ∈ (program.run (Estate.peer raiseOnCall) asker here).2.exchanges,
      Fits access exchange.query) :
    RunsMirror aliases view Ends (program.run (Estate.peer raiseOnCall) asker here)
      ((other.via (relay access)).run server asker there) := by
  -- The induction is on the two programs side by side; what they write goes to one end only.
  induction alike generalizing here there with
  | done ends => exact ⟨ends, mirrors, plain⟩
  | write event _ ih => exact ih keeps ((mirrors.write event).writeThere event) plain fits
  | writeLeft _ _ ih => exact ih keeps (mirrors.write _) plain fits
  | writeRight _ _ ih => exact ih keeps (mirrors.writeThere _) plain fits
  | @ask request left right _ ih =>
      obtain ⟨words, later⟩ := keeps
      rw [run_ask_answered] at fits ⊢
      obtain ⟨heard, there', same, mirrored, relays⟩ :=
        serves.relayed web mirrors plain words (fits_of_answered fits) asker
      have via : ((Program.ask request right).via (relay access)).run server asker there =
          ((right heard).via (relay access)).run server asker there' := relays _
      rw [via]
      have known := later _ (Estate.respond_expected plain request)
      exact ih _ heard same known mirrored (answered_plain plain asker request) fits
  | @pause milliseconds left right _ ih =>
      obtain ⟨told, paused⟩ := mirrors.pause milliseconds
      have via : ((Program.pause milliseconds right).via (relay access)).run server asker there =
          ((right (here.pause milliseconds).1).via (relay access)).run server asker
            (there.pause milliseconds).2 := by
        rw [← told]
        rfl
      rw [via]
      have kept : (here.pause milliseconds).2.state.IsPlain aliases := by
        rw [Surroundings.pause_state]
        exact plain
      exact ih _ (keeps _) paused kept fits
  | @look left right _ ih =>
      have via : ((Program.look right).via (relay access)).run server asker there =
          ((right here.requested).via (relay access)).run server asker there := by
        rw [← mirrors.requested]
        rfl
      rw [via]
      exact ih _ (keeps _) mirrors plain fits

end DeviceApi

end Tenancy
