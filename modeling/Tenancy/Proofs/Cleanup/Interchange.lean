import Tenancy.Proofs.Tolerance

/-!
For every deletion, that it succeeds and that there is nothing to delete are interchangeable
answers. Nothing depends on which of the two comes: not the calls and their times, not the result,
and no event that is graver than those for debugging.
-/

namespace Tenancy

/-- Answers to a run by call position: the call that comes first is answered as number zero. -/
structure AnswerScript where
  latency : Nat → Request → Nat
  raises : Nat → Request → Bool
  notice : List Event
  answer : Nat → (request : Request) → request.Answer

namespace AnswerScript

def peer (script : AnswerScript) : Peer Backend Nat where
  latency position request := script.latency position request
  raises earlier _ request := script.raises earlier request
  respond request position := (script.answer position request, position + 1)
  notice := script.notice

/-- The same script, but that deletions may succeed in one and find nothing in the other. -/
structure Interchanged (script other : AnswerScript) : Prop where
  latency : script.latency = other.latency
  raises : script.raises = other.raises
  notice : script.notice = other.notice
  deletes : ∀ position host resource,
    script.answer position (.delete host resource) = other.answer position (.delete host resource) ∨
      Teardown.isGone (script.answer position (.delete host resource)) ∧
        Teardown.isGone (other.answer position (.delete host resource))
  others : ∀ position request, (∀ host resource, request ≠ .delete host resource) →
    script.answer position request = other.answer position request

variable {script other : AnswerScript}

theorem Interchanged.peer (interchanged : script.Interchanged other) :
    Peer.Alike Tolerance.strict.likeness Eq script.peer other.peer := by
  refine ⟨interchanged.notice, ?_, ?_, ?_, ?_⟩
  · rintro position _ rfl request
    exact congrFun (congrFun interchanged.latency position) request
  · rintro position _ rfl earlier request
    exact congrFun (congrFun interchanged.raises earlier) request
  · rintro position _ rfl request
    by_cases deletes : ∃ host resource, request = .delete host resource
    · obtain ⟨host, resource, rfl⟩ := deletes
      obtain same | gone := interchanged.deletes position host resource
      · exact Tolerance.strict_alike same
      · exact .inl gone
    · exact Tolerance.strict_alike (interchanged.others position request fun host resource own =>
        deletes ⟨host, resource, own⟩)
  · rintro position _ rfl request
    rfl

end AnswerScript

namespace Cleanup

theorem undertaking_alike (retry : RetryPolicy) (partition : String) (hosts : List String)
    (policy : Policy) :
    Undertaking.Alike Tolerance.strict.likeness Tolerance.strict.Ends Tolerance.strict.Ends
      (undertaking retry partition hosts policy) (undertaking retry partition hosts policy) := by
  cases policy with
  | abortOnFirstFailure =>
      refine .alone ?_
      rw [← bind_pure_comp]
      exact (inTurn_alike hosts).bind fun outcomes => Action.alike_pure (Report.mk outcomes)
  | bestEffort maxParallel =>
      refine .together _ ?_ fun results others ends => ?_
      · rw [List.forall₂_map_left_iff, List.forall₂_map_right_iff, List.forall₂_same]
        exact fun host _ => Teardown.run_alike
      · have same : List.Forall₂ Eq results others := ends.imp fun _ _ ends => ends.eq
        rw [List.forall₂_eq_eq_eq] at same
        rw [same]
        exact conclude_alike [] [] _

structure SameConduct {σ : Type} (run other : Except TenantError Report × Surroundings Backend σ) :
    Prop where
  result : run.1 = other.1
  calls : run.2.exchanges.map Exchange.question = other.2.exchanges.map Exchange.question
  now : run.2.now = other.2.now
  signal : run.2.signal = other.2.signal
  events : run.2.events.filter (·.level.rank < Level.debug.rank) =
    other.2.events.filter (·.level.rank < Level.debug.rank)

/-- Runs of a cleanup whose answers differ only in that some deletions succeed in one run and find
nothing in the other go the same way, with every policy and whenever shutdown is requested. -/
theorem success_and_absence_interchangeable (naming : Naming) (retry : RetryPolicy)
    (service : Service) (policy : Policy) (surroundings : Surroundings Backend Nat)
    (script other : AnswerScript) (interchanged : script.Interchanged other) :
    SameConduct ((ofService naming retry service policy).run script.peer surroundings)
      ((ofService naming retry service policy).run other.peer surroundings) := by
  have start : Surroundings.Alike Tolerance.strict.likeness Eq surroundings surroundings := by
    refine ⟨rfl, rfl, rfl, rfl, List.forall₂_same.mpr fun exchange _ => ?_, rfl⟩
    exact .intro exchange.time exchange.asker exchange.query (Tolerance.strict_alike rfl)
  obtain ⟨ends, alike⟩ :=
    (undertaking_alike retry (naming.folderName service.tenant) service.hosts policy).run
      interchanged.peer start
  exact ⟨ends.eq, alike.calls, alike.now, alike.signal, alike.heard⟩

def scripted (deleted : (host : String) → Resource → Except DeviceError Unit) : AnswerScript where
  latency _ _ := 2
  raises _ _ := false
  notice := []
  answer
    | _, .probe .. => .ok true
    | _, .create host .. => .error (.other host "full")
    | _, .list _ kind partition =>
        if kind ∈ [.vlan, .routeDomain] then .ok [⟨kind, "x", partition, some 17⟩] else .ok []
    | _, .delete host resource => deleted host resource
    | _, .releasePort _ => .ok ()
    | _, .releaseTag .. => .ok ()

def absence (host : String) (resource : Resource) : Except DeviceError Unit :=
  .error (.notFound host resource.kind resource.name)

theorem success_and_absence_interchangeable_scripted :
    let script := scripted fun host resource =>
      if resource.kind = .routeDomain then absence host resource else .ok ()
    let other := scripted fun host resource =>
      if resource.kind = .routeDomain then .ok () else absence host resource
    let service : Service := ⟨"t", none, [⟨"h1"⟩, ⟨"h2"⟩]⟩
    let cleanup := ofService .default .default service .abortOnFirstFailure
    script.Interchanged other ∧ (cleanup.run script.peer (.start 0)).1.isOk ∧
      (cleanup.run script.peer (.start 0)).2.exchanges.length = 30 ∧
      SameConduct (cleanup.run script.peer (.start 0)) (cleanup.run other.peer (.start 0)) := by
  intro script other service cleanup
  have interchanged : script.Interchanged other := by
    refine ⟨rfl, rfl, rfl, fun position host resource => .inr ?_, fun position request others => ?_⟩
    · simp only [script, other, scripted, absence]
      split <;> exact ⟨rfl, rfl⟩
    · cases request with
      | delete host resource => exact absurd rfl (others host resource)
      | probe | create | list | releasePort | releaseTag => rfl
  have ends : (cleanup.run script.peer (.start 0)).1.isOk := by decide +kernel
  have asked : (cleanup.run script.peer (.start 0)).2.exchanges.length = 30 := by decide +kernel
  exact ⟨interchanged, ends, asked,
    success_and_absence_interchangeable _ _ _ _ (.start 0) script other interchanged⟩

end Cleanup

end Tenancy
