import Tenancy.Proofs.Batch.Scene
import Tenancy.Proofs.Cleanup.Convergence
import Tenancy.Proofs.Cleanup.Tags

/-!
Teardowns of one partition that run at the same time, their requests in any order. They do not
disturb each other: each takes what another one has removed for gone, and none of them fails.
-/

namespace Tenancy.Cleanup

open Fleet Teardown

def teardowns (partition : String) (passes : List (RetryPolicy × String)) :
    List (Program Backend (Except TenantError Outcome)) :=
  passes.map fun pass => (Teardown.run pass.1 pass.2 partition).run

variable {partition : String} {passes : List (RetryPolicy × String)} {estate : Estate}
  {scene later : Scene Backend Estate (Except TenantError Outcome)} {place : Nat}
  {retry : RetryPolicy} {host : String} {result : Except TenantError Outcome}

theorem ok_of_ended (faultless : estate.faults = [])
    (tracks : Scene.Tracks (teardowns partition passes) (Estate.peer none) estate scene)
    (known : passes[place]? = some (retry, host))
    (ended : scene.rests[place]? = some (.done result)) :
    ∃ outcome trail, result = .ok outcome ∧
      (Teardown.run retry host partition).Succeeds trail outcome ∧
      trail.answers = Exchange.repliesTo place scene.exchanges := by
  have program : (teardowns partition passes)[place]? =
      some (Teardown.run retry host partition).run := by
    simp [teardowns, known]
  obtain ⟨trail, taken, answers, tells⟩ := tracks.yields program ended
  have recorded : trail.answers ⊆ scene.exchanges.map Exchange.reply :=
    answers ▸ Exchange.reverse_replies_subset _ _
  have fine := taken.ensured run_dependable
    (Estate.smooth_of_answered tracks.answered faultless recorded tells)
  cases result with
  | error failure => cases fine
  | ok outcome => exact ⟨outcome, trail, rfl, taken, answers⟩

theorem orderly_of_ended (faultless : estate.faults = [])
    (tracks : Scene.Tracks (teardowns partition passes) (Estate.peer none) estate scene)
    (ended : scene.Ended) :
    Orderly partition (passes.map Prod.snd) True none estate scene.exchanges := by
  refine ⟨tracks.answered, fun later exchange earlier cut => ?_⟩
  obtain ⟨place, program, result, known, left, makes⟩ := tracks.makes ended cut
  rw [teardowns, List.getElem?_map, Option.map_eq_some_iff] at known
  obtain ⟨⟨retry, host⟩, placed, rfl⟩ := known
  obtain ⟨outcome, -, rfl, -⟩ := ok_of_ended faultless tracks placed left
  have inside : host ∈ passes.map Prod.snd :=
    List.mem_map.mpr ⟨_, List.mem_of_getElem? placed, rfl⟩
  exact ⟨retry, host, inside, .ok outcome, makes, fun _ => rfl⟩

theorem fleet_of_tracks
    (tracks : Scene.Tracks (teardowns partition passes) (Estate.peer none) estate scene) :
    scene.state.fleet = Estate.fleetAt none estate scene.exchanges :=
  congrArg Estate.fleet tracks.state

theorem candid_of_faultless (faultless : estate.faults = [])
    (tracks : Scene.Tracks (teardowns partition passes) (Estate.peer none) estate scene) :
    ∀ turn ∈ (Estate.peer none).turns estate scene.exchanges, turn.Candid := by
  refine Estate.candid_of_honest tracks.answered ?_
  rw [faultless]
  exact List.forall_mem_nil _

theorem exists_result (ended : scene.Ended)
    (tracks : Scene.Tracks (teardowns partition passes) (Estate.peer none) estate scene)
    (known : passes[place]? = some (retry, host)) :
    ∃ result, scene.rests[place]? = some (.done result) := by
  have low : place < scene.rests.length := by
    rw [tracks.length, teardowns, List.length_map]
    exact (List.getElem?_eq_some_iff.mp known).1
  obtain ⟨result, done⟩ := ended _ (List.getElem_mem low)
  exact ⟨result, by rw [List.getElem?_eq_getElem low, done]⟩

theorem folder_gone_of_ended (faultless : estate.faults = [])
    (tracks : Scene.Tracks (teardowns partition passes) (Estate.peer none) estate scene)
    (ended : scene.Ended) (known : passes[place]? = some (retry, host))
    (isOpen : (estate.fleet.host host).Open partition) :
    partition ∉ ((Estate.fleetAt none estate scene.exchanges).host host).folders := by
  have orderly := orderly_of_ended faultless tracks ended
  have candid := candid_of_faultless faultless tracks
  obtain ⟨result, done⟩ := exists_result ended tracks known
  obtain ⟨outcome, trail, -, succeeds, answers⟩ := ok_of_ended faultless tracks known done
  have recorded : trail.answers ⊆ scene.exchanges.map Exchange.reply :=
    answers ▸ Exchange.reverse_replies_subset _ _
  cases outcome with
  | removed => exact orderly.folder_gone_of_removed candid succeeds recorded
  | absent => exact orderly.folder_gone_of_absent succeeds recorded
  | notEmpty =>
      have bears := (orderly.bears_of_notEmpty succeeds recorded).2
      exact absurd bears (Host.open_iff.mp isOpen).2

theorem host_of_ended (own : estate.fleet.ListsOwn) (faultless : estate.faults = [])
    (tracks : Scene.Tracks (teardowns partition passes) (Estate.peer none) estate scene)
    (ended : scene.Ended) (known : passes[place]? = some (retry, host)) :
    scene.state.fleet.host host =
      if (estate.fleet.host host).Open partition then (estate.fleet.host host).cleared partition
      else estate.fleet.host host := by
  have orderly := orderly_of_ended faultless tracks ended
  rw [fleet_of_tracks tracks]
  split
  next isOpen =>
    have gone := folder_gone_of_ended faultless tracks ended known isOpen
    exact orderly.cleared_of_folder_gone own.on (candid_of_faultless faultless tracks) isOpen.1
      gone
  next shut => exact orderly.kept_of_not_open (List.nil_append _).symm shut

def alone (partition : String) (estate : Estate) (retry : RetryPolicy) (host : String) : Estate :=
  ((Teardown.run retry host partition).run.run (Estate.peer none) 0 (.start estate)).2.state

theorem host_alone (own : estate.fleet.ListsOwn) (faultless : estate.faults = [])
    (retry : RetryPolicy) (host : String) :
    (alone partition estate retry host).fleet.host host =
      if (estate.fleet.host host).Open partition then (estate.fleet.host host).cleared partition
      else estate.fleet.host host := by
  let program := (Teardown.run retry host partition).run
  let batch : Batch Backend Estate (Except TenantError Outcome) :=
    .start (.start estate) 1 [program]
  have ended : (batch.run (Estate.peer none)).scene.Ended := Batch.ended_scene Nat.zero_lt_one
  have tracks : Scene.Tracks (teardowns partition [(retry, host)]) (Estate.peer none) estate
      (batch.run (Estate.peer none)).scene :=
    Scene.Reaches.tracks (Batch.start_run_scene [program] estate 1)
  have left := (Batch.run_single program (Estate.peer none) (.start estate)).2
  have placed : [(retry, host)][0]? = some (retry, host) := rfl
  rw [alone, ← left]
  exact host_of_ended own faultless tracks ended placed

structure Undisturbed (partition : String) (passes : List (RetryPolicy × String)) (estate : Estate)
    (scene : Scene Backend Estate (Except TenantError Outcome)) : Prop where
  ends : ∃ later, Scene.Reaches (Estate.peer none) scene later ∧ later.Ended
  outcomes : ∀ (place : Nat) retry host result, passes[place]? = some (retry, host) →
    scene.rests[place]? = some (.done result) →
      ∃ outcome : Outcome, result = .ok outcome ∧
        if (estate.fleet.host host).Bears partition then
          outcome = if partition ∈ (estate.fleet.host host).folders then .notEmpty else .absent
        else outcome = .removed ∨ outcome = .absent
  changes : ∀ exchange ∈ scene.exchanges, exchange.query.changes →
    ∃ pass ∈ passes, (estate.fleet.host pass.2).Open partition
  kept : ∀ host, host ∉ passes.map Prod.snd ∨ (estate.fleet.host host).Bears partition →
    scene.state.fleet.host host = estate.fleet.host host
  settled : scene.Ended → ∀ retry host, (retry, host) ∈ passes →
    scene.state.fleet.host host = (alone partition estate retry host).fleet.host host
  released : scene.Ended → ∀ (place : Nat) retry host tag, passes[place]? = some (retry, host) →
    ⟨.probe host .folder partition, .ok true⟩ ∈ Exchange.repliesTo place scene.exchanges →
      ¬ (estate.fleet.host host).Bears partition → estate.fleet.Carries host partition tag →
        ∃ exchange ∈ scene.exchanges, exchange.query = .releaseTag host tag

theorem not_carries_cleared {fleet : Fleet} {tag : UInt16}
    (cleared : fleet.host host = (estate.fleet.host host).cleared partition) :
    ¬ fleet.Carries host partition tag := by
  rintro ⟨object, left, inside, tagged⟩
  have kind := (Resource.fabricTag_eq_some_iff.mp tagged).1
  rw [cleared, Host.cleared, List.mem_filter] at left
  have removable : object.isRemovable partition := by
    simp [Placed.isRemovable, inside, kind, Kind.removable, Kind.drainOrder]
  simp [removable] at left

/-- Passes over one partition, on whatever hosts, do not disturb each other. In whatever order their
requests come, none of them fails, and together they do what one of them would do alone. -/
theorem concurrent_passes_undisturbed (partition : String) (passes : List (RetryPolicy × String))
    (estate : Estate) (own : estate.fleet.ListsOwn) (faultless : estate.faults = [])
    (scene : Scene Backend Estate (Except TenantError Outcome))
    (reached : Scene.Reaches (Estate.peer none) (.start (teardowns partition passes) estate)
      scene) : Undisturbed partition passes estate scene := by
  obtain ⟨later, onward, ended⟩ := Scene.exists_ended (Estate.peer none) scene
  have tracks := reached.tracks
  have whole : Scene.Tracks (teardowns partition passes) (Estate.peer none) estate later :=
    Scene.Reaches.tracks (reached.trans onward)
  have orderly := orderly_of_ended faultless whole ended
  obtain ⟨calls, grown⟩ := onward.grown
  refine ⟨⟨later, onward, ended⟩, ?_, ?_, ?_, ?_, ?_⟩
  · intro place retry host result known done
    obtain ⟨outcome, trail, rfl, succeeds, answers⟩ :=
      ok_of_ended faultless whole known (onward.ended_kept done)
    have recorded : trail.answers ⊆ later.exchanges.map Exchange.reply :=
      answers ▸ Exchange.reverse_replies_subset _ _
    refine ⟨outcome, rfl, ?_⟩
    split
    next bears =>
      have shut : ¬ (estate.fleet.host host).Open partition :=
        fun isOpen => (Host.open_iff.mp isOpen).2 bears
      cases outcome with
      | removed => exact absurd (orderly.open_of_removed succeeds recorded) shut
      | absent =>
          have gone := orderly.folder_gone_of_absent succeeds recorded
          rw [orderly.kept_of_not_open (List.nil_append _).symm shut] at gone
          rw [if_neg gone]
      | notEmpty => rw [if_pos (orderly.bears_of_notEmpty succeeds recorded).1]
    next idle =>
      cases outcome with
      | removed => exact .inl rfl
      | absent => exact .inr rfl
      | notEmpty => exact absurd (orderly.bears_of_notEmpty succeeds recorded).2 idle
  · intro exchange member changes
    have recorded : exchange ∈ later.exchanges := grown ▸ List.mem_append_right _ member
    obtain ⟨after, before, cut⟩ := List.append_of_mem recorded
    obtain ⟨host, inside, isOpen, -⟩ := orderly.open_of_changes cut changes
    obtain ⟨pass, known, rfl⟩ := List.mem_map.mp inside
    exact ⟨pass, known, isOpen⟩
  · intro host spared
    rw [fleet_of_tracks tracks]
    obtain elsewhere | bears := spared
    · exact (orderly.fleetAt_reduced own grown).elsewhere host elsewhere
    · exact orderly.kept_of_not_open grown fun isOpen => (Host.open_iff.mp isOpen).2 bears
  · intro ended retry host member
    obtain ⟨place, known⟩ := List.mem_iff_getElem?.mp member
    rw [host_of_ended own faultless tracks ended known, host_alone own faultless]
  · intro ended place retry host tag known found idle carries
    have orderly := orderly_of_ended faultless tracks ended
    have probed : ⟨.probe host .folder partition, .ok true⟩ ∈
        scene.exchanges.map Exchange.reply := Exchange.reverse_replies_subset _ _ found
    have dwindles := orderly.dwindles
    obtain ⟨after, before, cut, there⟩ := dwindles.probed probed
    rw [cut] at dwindles
    have folder := (dwindles.of_append.shrinks_start.folders host).subset
      (of_decide_eq_true there.symm)
    have cleared := host_of_ended own faultless tracks ended known
    rw [if_pos (Host.open_iff.mpr ⟨folder, idle⟩)] at cleared
    rw [fleet_of_tracks tracks] at cleared
    obtain left | released := orderly.carries_or_released_of_fine own trivial carries
    · exact absurd left (not_carries_cleared cleared)
    · obtain ⟨exchange, member, same⟩ := List.mem_map.mp released
      exact ⟨exchange, member, congrArg Sigma.fst same⟩

theorem concurrent_passes_undisturbed_smallFleet :
    let passes := [(.default, "h1"), (.default, "h1"), (.default, "h2")]
    let estate : Estate := ⟨smallFleet, [("h1", 3)], []⟩
    let batch := Batch.start (.start estate) 3 (teardowns "Project_t" passes)
    let scene := (batch.run (Estate.peer none)).scene
    estate.fleet.ListsOwn ∧ estate.faults = [] ∧
      Scene.Reaches (Estate.peer none) (.start (teardowns "Project_t" passes) estate) scene ∧
      scene.Ended ∧ Undisturbed "Project_t" passes estate scene := by
  intro passes estate batch scene
  have own : estate.fleet.ListsOwn := listsOwn_of_hosts (by decide)
  have reached : Scene.Reaches (Estate.peer none) (.start (teardowns "Project_t" passes) estate)
      scene := Batch.start_run_scene _ _ _
  have ended : scene.Ended := Batch.ended_scene (Nat.zero_lt_succ 2)
  exact ⟨own, rfl, reached, ended,
    concurrent_passes_undisturbed "Project_t" passes estate own rfl scene reached⟩

end Tenancy.Cleanup
