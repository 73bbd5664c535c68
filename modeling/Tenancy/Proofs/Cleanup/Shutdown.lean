import Tenancy.Proofs.Batch.Single
import Tenancy.Proofs.Cleanup.Safety
import Tenancy.Proofs.Cleanup.Shares
import Tenancy.Proofs.Teardown.Halting

/-!
What a request for shutdown leaves a cleanup to do, whoever answers its requests. At any moment of a
cleanup each appliance has its share of what was seen before and of what is seen after it; once
shutdown is requested, each share comes to a halt by itself.
-/

namespace Tenancy

namespace Undertaking

variable {I : Interface} {σ α β : Type}

/-- The work comes to this moment, with this left to do. Work that is one program is a batch of
one. -/
def Through (undertaking : Undertaking I β α) (peer : Peer I σ)
    (surroundings moment : Surroundings I σ) (left : Undertaking I β α) : Prop :=
  match undertaking with
  | alone program =>
      ∃ batch rest, Batch.Reaches peer (Batch.start surroundings 1 [program]) batch ∧
        batch.surroundings = moment ∧ batch.rests = [rest] ∧ left = alone rest
  | together limit programs conclude =>
      ∃ batch, Batch.Reaches peer (Batch.start surroundings limit programs) batch ∧
        batch.surroundings = moment ∧ left = together limit batch.rests conclude

end Undertaking

namespace Cleanup

open Teardown

structure Share.Halts (retry : RetryPolicy) (partition : String) (share : Share) : Prop where
  taken : share.Taken retry partition
  told : share.after.Tells true
  halts : Teardown.Halts share.host partition share.before share.after share.result
  unbegun : share.before.stage? = none → ∀ request answer, .asked request answer ∈ share.after →
    request.changes = false
  folder : (∀ sight ∈ share.before ++ share.after, sight.ShowsKind) → ∀ answer,
    .asked (.delete share.host (.folder partition)) answer ∈ share.after →
      share.before.stage? = some .folder
  cancelled : (∀ named, (share.before ++ share.after).Names named → named = partition) →
    ∀ host named, share.result = .error (.cancelled host named) →
      host = share.host ∧ named = partition

variable {retry : RetryPolicy} {partition : String} {hosts : List String} {policy : Policy}
  {left : Undertaking Backend (Except TenantError Outcome) (Except TenantError Report)}

theorem Share.Taken.halts {share : Share} (taken : share.Taken retry partition)
    (told : share.after.Tells true) : share.Halts retry partition := by
  have halts := run_halts taken told
  exact ⟨taken, told, halts, halts.unbegun, fun kinds _ => halts.folder kinds,
    fun own _ _ => halts.cancelled_named own⟩

/-- What the shares see of answers is all that a stretch of the record holds. -/
def Recorded (shares : List Share) (part : Share → Trail Backend)
    (calls : List (Exchange Backend)) : Policy → Prop
  | .abortOnFirstFailure =>
      (calls.map Exchange.reply).reverse = Trail.answers (shares.flatMap part)
  | .bestEffort _ =>
      (∀ call ∈ calls, call.asker < shares.length) ∧ ∀ place share, shares[place]? = some share →
        Exchange.repliesTo place calls = (part share).answers

/-- What the shares see before a moment leaves this of a cleanup. In turn, it is seen by one
program, host after host. -/
def Leave (retry : RetryPolicy) (partition : String) (hosts : List String) (shares : List Share) :
    Undertaking Backend (Except TenantError Outcome) (Except TenantError Report) → Prop
  | .alone rest =>
      Successive shares ∧ Program.Leaves (Report.mk <$> inTurn retry partition hosts).run
        (shares.flatMap Share.before) rest
  | .together _ rests _ =>
      ∀ (place : Nat) (share : Share), shares[place]? = some share →
        ∃ rest, rests[place]? = some rest ∧
          Program.Leaves (Teardown.run retry share.host partition).run share.before rest

structure SharedOut (hosts : List String) (policy : Policy) (result : Except TenantError Report)
    (earlier later : List (Exchange Backend)) (shares : List Share) : Prop where
  reported : Reported hosts shares result policy
  earlier : Recorded shares Share.before earlier policy
  later : Recorded shares Share.after later policy

structure Cut {σ : Type} (retry : RetryPolicy) (partition : String) (hosts : List String)
    (policy : Policy) (surroundings moment : Surroundings Backend σ)
    (left : Undertaking Backend (Except TenantError Outcome) (Except TenantError Report))
    (final : Except TenantError Report × Surroundings Backend σ)
    (earlier later : List (Exchange Backend)) (shares : List Share) : Prop where
  grown : moment.exchanges = earlier ++ surroundings.exchanges
  further : final.2.exchanges = later ++ moment.exchanges
  shared : SharedOut hosts policy final.1 earlier later shares
  left : Leave retry partition hosts shares left
  taken : ∀ share ∈ shares, share.Taken retry partition
  told : moment.requested → ∀ share ∈ shares, share.after.Tells true

section

variable {σ : Type} {peer : Peer Backend σ} {surroundings moment : Surroundings Backend σ}

theorem cut_in_turn
    (through : (undertaking retry partition hosts .abortOnFirstFailure).Through peer surroundings
      moment left) :
    ∃ earlier later shares, Cut retry partition hosts .abortOnFirstFailure surroundings moment left
      ((undertaking retry partition hosts .abortOnFirstFailure).run peer surroundings) earlier later
      shares := by
  obtain ⟨batch, rest, reaches, rfl, rests, rfl⟩ := through
  let final := (undertaking retry partition hosts .abortOnFirstFailure).run peer surroundings
  obtain ⟨results, ended⟩ : _ = [final.1] ∧ _ = final.2 :=
    Batch.run_single (Report.mk <$> inTurn retry partition hosts).run peer surroundings
  obtain ⟨earlier, later, grown, further, sole, only, parts⟩ := reaches.parts Nat.zero_lt_one
  obtain ⟨before, after, result, parted⟩ := parts 0 _ rfl
  have found := parted.found
  rw [results] at found
  obtain rfl := Option.some.inj found
  obtain ⟨own, halfway, leaves⟩ := parted.left
  rw [rests] at halfway
  obtain rfl := Option.some.inj halfway
  obtain ⟨outcomes, taken, same⟩ := Action.yields_map_iff.mp parted.taken
  obtain ⟨shares, rfl, rfl, successive, valid, reported⟩ := inTurn_shares taken
  rw [← same] at reported
  -- There is one asker only, so what was replied to it is all that was replied.
  have whole {calls : List (Exchange Backend)} (own : ∀ call ∈ calls, call.asker < 1) :
      Exchange.repliesTo 0 calls = (calls.map Exchange.reply).reverse := by
    rw [Exchange.repliesTo, List.filter_eq_self.mpr]
    intro call member
    simpa using own call member
  refine ⟨earlier, later, shares, grown, ended ▸ further, ⟨reported, ?_, ?_⟩,
    ⟨successive, leaves⟩, valid, fun raised share member sight inside => ?_⟩
  · exact (whole sole).symm.trans parted.earlier.symm
  · exact (whole only).symm.trans parted.later.symm
  · exact parted.told raised sight (List.mem_flatMap.mpr ⟨share, member, inside⟩)

def Share.Parted (retry : RetryPolicy) (partition : String)
    (middle last : Batch Backend σ (Except TenantError Outcome))
    (earlier later : List (Exchange Backend)) (place : Nat) (share : Share) : Prop :=
  Batch.Parted middle last place (Teardown.run retry share.host partition).run earlier later
    share.before share.after share.result

theorem exists_parted {middle last : Batch Backend σ (Except TenantError Outcome)}
    {earlier later : List (Exchange Backend)}
    (parts : ∀ place program,
      (hosts.map fun host => (Teardown.run retry host partition).run)[place]? = some program →
        ∃ before after result,
          Batch.Parted middle last place program earlier later before after result) :
    ∃ shares : List Share, shares.map Share.host = hosts ∧
      hosts.zip last.results = shares.map Share.entry ∧
      ∀ (place : Nat) (share : Share), shares[place]? = some share →
        share.Parted retry partition middle last earlier later place := by
  refine exists_shares hosts last.results
    (fun place share => share.Parted retry partition middle last earlier later place)
    fun place => ?_
  obtain ⟨before, after, result, parted⟩ :=
    parts place (Teardown.run retry hosts[place] partition).run (by simp)
  exact ⟨⟨hosts[place], before, after, result⟩, rfl, parted.found, parted⟩

theorem cut_together {maxParallel : Nat}
    (through : (undertaking retry partition hosts (.bestEffort maxParallel)).Through peer
      surroundings moment left) :
    ∃ earlier later shares, Cut retry partition hosts (.bestEffort maxParallel) surroundings moment
      left ((undertaking retry partition hosts (.bestEffort maxParallel)).run peer surroundings)
      earlier later shares := by
  obtain ⟨batch, reaches, rfl, rfl⟩ := through
  have room : 0 < max maxParallel 1 := by omega
  obtain ⟨earlier, later, grown, further, known, others, parts⟩ := reaches.parts room
  let final := (undertaking retry partition hosts (.bestEffort maxParallel)).run peer surroundings
  let programs := hosts.map fun host => (Teardown.run retry host partition).run
  let ended := (Batch.start surroundings (max maxParallel 1) programs).run peer
  obtain ⟨events, ran⟩ : ∃ events, final =
      (verdict (outcomesOf (hosts.zip ended.results)) (failuresOf (hosts.zip ended.results)),
        { ended.surroundings with events := events }) :=
    conclude_run partition peer 0 ended.surroundings [] [] (hosts.zip ended.results)
  have started : (Batch.start surroundings (max maxParallel 1) programs).rests = programs := by
    simp [Batch.start, Batch.rests, Task.rest, Function.comp_def]
  rw [started] at known others parts
  obtain ⟨shares, named, entries, parted⟩ := exists_parted parts
  have length : programs.length = shares.length := by
    rw [← List.length_map Share.host, named, List.length_map]
  have parted_of_mem {share : Share} (member : share ∈ shares) :
      ∃ place, share.Parted retry partition batch ended earlier later place := by
    obtain ⟨place, found⟩ := List.mem_iff_getElem?.mp member
    exact ⟨place, parted place share found⟩
  rw [entries] at ran
  refine ⟨earlier, later, shares, grown, ?_, ⟨⟨named, ?_⟩, ⟨length ▸ known, ?_⟩,
    ⟨length ▸ others, ?_⟩⟩, ?_, fun share member => ?_, fun raised share member => ?_⟩
  · exact (congrArg (fun final => final.2.exchanges) ran).trans further
  · exact congrArg Prod.fst ran
  · exact fun place share found => (parted place share found).earlier.symm
  · exact fun place share found => (parted place share found).later.symm
  · exact fun place share found => (parted place share found).left
  · obtain ⟨place, parted⟩ := parted_of_mem member
    exact parted.taken
  · obtain ⟨place, parted⟩ := parted_of_mem member
    exact parted.told raised

theorem cut (through : (undertaking retry partition hosts policy).Through peer surroundings moment
      left) :
    ∃ earlier later shares, Cut retry partition hosts policy surroundings moment left
      ((undertaking retry partition hosts policy).run peer surroundings) earlier later shares := by
  cases policy with
  | abortOnFirstFailure => exact cut_in_turn through
  | bestEffort maxParallel => exact cut_together through

theorem through_start :
    (undertaking retry partition hosts policy).Through peer surroundings surroundings
      (undertaking retry partition hosts policy) := by
  cases policy with
  | abortOnFirstFailure => exact ⟨_, _, .refl, rfl, rfl, rfl⟩
  | bestEffort maxParallel =>
      refine ⟨_, .refl, rfl, ?_⟩
      simp [undertaking, Batch.start, Batch.rests, Task.rest, Function.comp_def]

end

/-- Once shutdown is requested, each appliance gets to the end of its stage at most. -/
theorem shutdown_halts {σ : Type} (retry : RetryPolicy) (partition : String) (hosts : List String)
    (policy : Policy) (peer : Peer Backend σ) (surroundings moment : Surroundings Backend σ)
    (left : Undertaking Backend (Except TenantError Outcome) (Except TenantError Report))
    (through : (undertaking retry partition hosts policy).Through peer surroundings moment left)
    (raised : moment.requested) :
    let final := (undertaking retry partition hosts policy).run peer surroundings
    ∃ earlier later shares, moment.exchanges = earlier ++ surroundings.exchanges ∧
      final.2.exchanges = later ++ moment.exchanges ∧
      SharedOut hosts policy final.1 earlier later shares ∧
      Leave retry partition hosts shares left ∧
      ∀ share ∈ shares, share.Halts retry partition := by
  intro final
  obtain ⟨earlier, later, shares, cut⟩ := cut through
  refine ⟨earlier, later, shares, cut.grown, cut.further, cut.shared, cut.left, ?_⟩
  exact fun share member => (cut.taken share member).halts (cut.told raised share member)

theorem shutdown_halts_smallFleet :
    let cleanup := undertaking .default "Project_t" ["h1", "h2"] (.bestEffort 2)
    let programs := ["h1", "h2"].map fun host => (Teardown.run .default host "Project_t").run
    let peer := Estate.peer (some 11)
    let start : Surroundings Backend Estate :=
      ⟨⟨smallFleet, [], []⟩, 0, some ⟨false, true⟩, [], [], []⟩
    let batch := (Batch.start start 2 programs).walk peer 32
    let left := .together 2 batch.rests fun results =>
      (conclude "Project_t" [] [] (["h1", "h2"].zip results)).run
    let final := cleanup.run peer start
    cleanup.Through peer start batch.surroundings left ∧ batch.surroundings.requested ∧
      batch.surroundings.exchanges.length = 11 ∧
      ∃ earlier later shares, batch.surroundings.exchanges = earlier ++ start.exchanges ∧
        final.2.exchanges = later ++ batch.surroundings.exchanges ∧
        SharedOut ["h1", "h2"] (.bestEffort 2) final.1 earlier later shares ∧
        Leave .default "Project_t" ["h1", "h2"] shares left ∧
        ∀ share ∈ shares, share.Halts .default "Project_t" := by
  intro cleanup programs peer start batch left final
  have through : cleanup.Through peer start batch.surroundings left :=
    ⟨batch, Batch.reaches_walk 32 _, rfl, rfl⟩
  have raised : batch.surroundings.requested := by decide +kernel
  have asked : batch.surroundings.exchanges.length = 11 := by decide +kernel
  exact ⟨through, raised, asked, shutdown_halts .default "Project_t" ["h1", "h2"] (.bestEffort 2)
    peer start batch.surroundings left through raised⟩

end Cleanup

end Tenancy
