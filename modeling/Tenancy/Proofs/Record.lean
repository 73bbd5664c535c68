import Tenancy.Proofs.Program.Trail

/-!
Records of exchanges, latest first. A record determines the peer's state at each of its points, and
the trails of the programs that run are found in it again.
-/

namespace Tenancy

variable {I : Interface} {σ α : Type}

def Exchange.reply (exchange : Exchange I) : (query : I.Query) × I.Answer query :=
  ⟨exchange.query, exchange.answer⟩

def Exchange.repliesTo (asker : Nat) (exchanges : List (Exchange I)) :
    List ((query : I.Query) × I.Answer query) :=
  ((exchanges.filter (·.asker = asker)).map reply).reverse

theorem Exchange.repliesTo_append (asker : Nat) (later earlier : List (Exchange I)) :
    repliesTo asker (later ++ earlier) = repliesTo asker earlier ++ repliesTo asker later := by
  simp only [repliesTo, List.filter_append, List.map_append, List.reverse_append]

theorem Exchange.reverse_replies_subset (own : Exchange I → Bool) (exchanges : List (Exchange I)) :
    ((exchanges.filter own).map reply).reverse ⊆ exchanges.map reply :=
  fun _ member => (List.filter_sublist.map reply).subset (List.mem_reverse.mp member)

structure Turn (I : Interface) (σ : Type) where
  before : σ
  exchange : Exchange I
  after : σ

namespace Peer

def replay (peer : Peer I σ) (start : σ) : List (Exchange I) → σ
  | [] => start
  | exchange :: earlier => (peer.respond exchange.query (peer.replay start earlier)).2

def turns (peer : Peer I σ) (start : σ) : List (Exchange I) → List (Turn I σ)
  | [] => []
  | exchange :: earlier =>
      ⟨peer.replay start earlier, exchange, peer.replay start (exchange :: earlier)⟩ ::
        peer.turns start earlier

def Answered (peer : Peer I σ) (start : σ) : List (Exchange I) → Prop
  | [] => True
  | exchange :: earlier =>
      exchange.answer = (peer.respond exchange.query (peer.replay start earlier)).1 ∧
        peer.Answered start earlier

theorem mem_turns_iff {peer : Peer I σ} {start : σ} {exchanges : List (Exchange I)}
    {turn : Turn I σ} :
    turn ∈ peer.turns start exchanges ↔
      ∃ later exchange earlier, exchanges = later ++ exchange :: earlier ∧
        turn = ⟨peer.replay start earlier, exchange, peer.replay start (exchange :: earlier)⟩ := by
  induction exchanges with
  | nil => simp [turns]
  | cons first exchanges ih =>
      rw [turns, List.mem_cons, ih]
      constructor
      · rintro (rfl | ⟨later, exchange, earlier, rfl, rfl⟩)
        · exact ⟨[], first, exchanges, rfl, rfl⟩
        · exact ⟨first :: later, exchange, earlier, rfl, rfl⟩
      · rintro ⟨later, exchange, earlier, same, rfl⟩
        cases later with
        | nil =>
            obtain ⟨rfl, rfl⟩ := List.cons.inj same
            exact .inl rfl
        | cons _ later =>
            obtain ⟨rfl, rfl⟩ := List.cons.inj same
            exact .inr ⟨later, exchange, earlier, rfl, rfl⟩

theorem Answered.of_append {peer : Peer I σ} {start : σ} {later earlier : List (Exchange I)}
    (answered : peer.Answered start (later ++ earlier)) : peer.Answered start earlier := by
  induction later with
  | nil => exact answered
  | cons exchange later ih => exact ih answered.2

end Peer

structure Surroundings.Since (peer : Peer I σ) (start : σ) (surroundings : Surroundings I σ) :
    Prop where
  state : surroundings.state = peer.replay start surroundings.exchanges
  answered : peer.Answered start surroundings.exchanges

namespace Surroundings.Since

variable {peer : Peer I σ} {start : σ} {surroundings later : Surroundings I σ}

theorem of_same (since : surroundings.Since peer start)
    (state : later.state = surroundings.state)
    (exchanges : later.exchanges = surroundings.exchanges) : later.Since peer start := by
  constructor
  · rw [state, exchanges]
    exact since.state
  · rw [exchanges]
    exact since.answered

theorem exchange (since : surroundings.Since peer start) (asker : Nat) (query : I.Query) :
    (surroundings.exchange peer asker query).2.Since peer start := by
  constructor
  · rw [exchange_state, exchange_exchanges, Peer.replay, ← since.state]
  · rw [exchange_exchanges]
    exact ⟨by rw [since.state], since.answered⟩

theorem run (since : surroundings.Since peer start) (program : Program I α) (asker : Nat) :
    (program.run peer asker surroundings).2.Since peer start := by
  induction program generalizing surroundings with
  | done result => exact since
  | write event next ih => exact ih (since.of_same rfl rfl)
  | ask query next ih =>
      let milliseconds := peer.latency surroundings.state query
      have waited := since.of_same (surroundings.wait_state milliseconds)
        (surroundings.wait_exchanges milliseconds)
      exact ih _ (waited.exchange asker query)
  | pause milliseconds next ih =>
      exact ih _ (since.of_same (surroundings.pause_state _) (surroundings.pause_exchanges _))
  | look next ih => exact ih _ since

end Surroundings.Since

namespace Trail

theorem answers_append (first second : Trail I) :
    answers (first ++ second) = answers first ++ answers second := by
  induction first with
  | nil => rfl
  | cons sight first ih =>
      cases sight with
      | asked query answer => simp [answers, ih]
      | paused milliseconds requested => exact ih
      | looked requested => exact ih

theorem answers_flatMap {τ : Type} (entries : List τ) (trails : τ → Trail I) :
    answers (entries.flatMap trails) = entries.flatMap fun entry => answers (trails entry) := by
  induction entries with
  | nil => rfl
  | cons entry entries ih => rw [List.flatMap_cons, List.flatMap_cons, answers_append, ih]

theorem mem_answers_iff {trail : Trail I} {query : I.Query} {answer : I.Answer query} :
    ⟨query, answer⟩ ∈ answers trail ↔ .asked query answer ∈ trail := by
  induction trail with
  | nil => simp [answers]
  | cons sight trail ih =>
      cases sight with
      | asked own given =>
          simp only [answers, List.mem_cons, ih]
          refine or_congr_left ⟨?_, ?_⟩
          · intro same
            cases same
            rfl
          · intro same
            cases same
            rfl
      | paused milliseconds requested => simpa [answers] using ih
      | looked requested => simpa [answers] using ih

theorem answers_subset {first second : Trail I} (subset : first ⊆ second) :
    answers first ⊆ answers second :=
  fun _ member => mem_answers_iff.mpr (subset (mem_answers_iff.mp member))

theorem exists_of_answers {trail : Trail I} {query : I.Query} {answer : I.Answer query}
    {first second : List ((query : I.Query) × I.Answer query)}
    (cut : trail.answers = first ++ ⟨query, answer⟩ :: second) :
    ∃ before after, trail = before ++ .asked query answer :: after ∧
      answers before = first ∧ answers after = second := by
  induction trail generalizing first with
  | nil => simp [answers] at cut
  | cons sight trail ih =>
      cases sight with
      | asked own given =>
          cases first with
          | nil =>
              obtain ⟨same, rfl⟩ := List.cons.inj cut
              cases same
              exact ⟨[], trail, rfl, rfl, rfl⟩
          | cons reply first =>
              obtain ⟨rfl, rest⟩ := List.cons.inj cut
              obtain ⟨before, after, rfl, rfl, rfl⟩ := ih rest
              exact ⟨.asked own given :: before, after, rfl, rfl, rfl⟩
      | paused milliseconds requested =>
          obtain ⟨before, after, rfl, rfl, rfl⟩ := ih cut
          exact ⟨.paused milliseconds requested :: before, after, rfl, rfl, rfl⟩
      | looked requested =>
          obtain ⟨before, after, rfl, rfl, rfl⟩ := ih cut
          exact ⟨.looked requested :: before, after, rfl, rfl, rfl⟩

end Trail

/-- The exchange stands on a trail that takes the program to its end. What the trail holds before it
was recorded earlier, what it holds after it was recorded later. -/
def Program.Makes (program : Program I α) (result : α) (later : List (Exchange I))
    (exchange : Exchange I) (earlier : List (Exchange I)) : Prop :=
  ∃ before after : Trail I,
    program.Yields (before ++ .asked exchange.query exchange.answer :: after) result ∧
    before.answers ⊆ earlier.map Exchange.reply ∧ after.answers ⊆ later.map Exchange.reply

theorem Program.Yields.makes {program : Program I α} {trail : Trail I} {result : α}
    {later earlier : List (Exchange I)} {exchange : Exchange I}
    (taken : program.Yields trail result) (own : Exchange I → Bool)
    (answers : trail.answers =
      (((later ++ exchange :: earlier).filter own).map Exchange.reply).reverse)
    (mine : own exchange) : program.Makes result later exchange earlier := by
  have cut : trail.answers =
      ((earlier.filter own).map Exchange.reply).reverse ++
        exchange.reply :: ((later.filter own).map Exchange.reply).reverse := by
    simp [answers, List.filter_cons_of_pos mine]
  obtain ⟨before, after, rfl, first, second⟩ := Trail.exists_of_answers cut
  refine ⟨before, after, taken, ?_, ?_⟩
  · rw [first]
    exact Exchange.reverse_replies_subset own earlier
  · rw [second]
    exact Exchange.reverse_replies_subset own later

theorem Program.trail_answers (program : Program I α) (peer : Peer I σ) (asker : Nat)
    (surroundings : Surroundings I σ) (fresh : surroundings.exchanges = []) :
    (program.trail peer asker surroundings).answers =
      ((program.run peer asker surroundings).2.exchanges.map Exchange.reply).reverse := by
  have recorded := program.run_exchanges peer asker surroundings
  rw [fresh, List.map_nil, List.append_nil] at recorded
  rw [← List.reverse_inj, ← recorded, List.reverse_reverse]
  rfl

end Tenancy
