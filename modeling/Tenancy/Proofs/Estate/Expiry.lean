import Tenancy.Proofs.Estate
import Tenancy.Proofs.Estate.Locality

/-!
Sessions that expire while objects are drained. Under faults of this kind a host answers all that it
is asked as it would without them, but that a deletion may seem to fail; and this one may have been
carried out.
-/

namespace Tenancy

def Request.drains : Request → Bool
  | .delete _ resource => resource.kind ∈ Kind.drainOrder
  | .probe .. | .create .. | .list .. | .releasePort _ | .releaseTag .. => false

theorem Request.of_drains {request : Request} (drains : request.drains) :
    ∃ host resource, request = .delete host resource := by
  cases request with
  | delete host resource => exact ⟨host, resource, rfl⟩
  | probe | create | list | releasePort | releaseTag => cases drains

structure Fault.Expires (fault : Fault) : Prop where
  answers : fault.answer.sort = .authExpired
  befalls : ∀ request, fault.befalls request → request.drains

theorem Fault.expires_of_kind {fault : Fault} {kind : Kind}
    (answers : fault.answer.sort = .authExpired) (deletes : fault.operation = .delete)
    (named : fault.kind = some kind) (drained : kind ∈ Kind.drainOrder) : fault.Expires := by
  refine ⟨answers, fun request befalls => ?_⟩
  obtain ⟨operation, -, agreed, -⟩ := Fault.befalls_iff.mp befalls
  rw [deletes] at operation
  cases request with
  | delete host resource =>
      rw [named] at agreed
      obtain rfl : kind = resource.kind := of_decide_eq_true agreed
      exact decide_eq_true drained
  | probe | create | list | releasePort | releaseTag => cases operation

theorem Fault.strike?_expires {request : Request} {faults : List Fault}
    (expires : ∀ fault ∈ faults, fault.Expires) :
    (∀ fault ∈ (strike? request faults).1, fault.Expires ∧ request.drains) ∧
      ∀ fault ∈ (strike? request faults).2, fault.Expires := by
  obtain ⟨struck, left⟩ := @strike?_forall request faults Expires
    (fun _ _ _ own => ⟨own.answers, own.befalls⟩) expires
  refine ⟨fun fault same => ?_, left⟩
  obtain ⟨own, befalls⟩ := struck fault same
  exact ⟨own, own.befalls request befalls⟩

namespace Estate

def Reply.expired : Reply → Bool
  | ⟨.delete .., .error source⟩ => source.isAuthExpired
  | _ => false

def Patient (limit : Nat) (replies : List Reply) : Prop :=
  ∀ request run, run <:+: replies → (∀ reply ∈ run, reply.1 = request ∧ reply.expired) →
    run.length < limit

theorem Patient.of_infix {limit : Nat} {some all : List Reply} (patient : Patient limit all)
    (part : some <:+: all) : Patient limit some :=
  fun request run inside => patient request run (inside.trans part)

/-- The fleet has given these replies, truly but for sessions that seemed to expire, and has come to
another one by that. -/
inductive Excused : Fleet → List Reply → Fleet → Prop
  | done (fleet) : Excused fleet [] fleet
  | served {fleet later final} (request : Request)
      (rest : Excused (comply fleet request).2 later final) :
      Excused fleet (⟨request, (comply fleet request).1⟩ :: later) final
  | expired {fleet next later final host resource} (reporter detail : String)
      (drains : Request.drains (.delete host resource))
      (carried : next = fleet ∨ next = removed fleet host resource)
      (rest : Excused next later final) :
      Excused fleet (⟨.delete host resource, .error (.authExpired reporter detail)⟩ :: later) final

variable {estate : Estate} {fleet final : Fleet} {host : String} {resource : Resource}
  {first second replies : List Reply}

theorem Excused.split (excused : Excused fleet (first ++ second) final) :
    ∃ middle, Excused fleet first middle ∧ Excused middle second final := by
  induction first generalizing fleet with
  | nil => exact ⟨fleet, .done fleet, excused⟩
  | cons reply first ih =>
      cases excused with
      | served request rest =>
          obtain ⟨middle, before, after⟩ := ih rest
          exact ⟨middle, .served request before, after⟩
      | expired reporter detail drains carried rest =>
          obtain ⟨middle, before, after⟩ := ih rest
          exact ⟨middle, .expired reporter detail drains carried before, after⟩

theorem Excused.of_delete {answer : Except DeviceError Unit}
    (excused : Excused fleet (⟨.delete host resource, answer⟩ :: replies) final) :
    answer = (comply fleet (.delete host resource)).1 ∧
        Excused (comply fleet (.delete host resource)).2 replies final ∨
      ∃ reporter detail next, answer = .error (.authExpired reporter detail) ∧
        (next = fleet ∨ next = removed fleet host resource) ∧ Excused next replies final := by
  cases excused with
  | served request rest => exact .inl ⟨rfl, rest⟩
  | expired reporter detail drains carried rest =>
      exact .inr ⟨reporter, detail, _, rfl, carried, rest⟩

theorem comply_delete (fleet : Fleet) (host : String) (resource : Resource) :
    (comply fleet (.delete host resource)).2 = removed fleet host resource := by
  rw [comply, removed]
  split
  · rfl
  · rfl

theorem removed_removed (fleet : Fleet) (host : String) (resource : Resource) :
    removed (removed fleet host resource) host resource = removed fleet host resource := by
  have gone := removed_not_holds fleet host resource
  rw [removed, if_neg (by rw [gone]; exact Bool.false_ne_true)]

theorem serve_excused {other : Fleet} {request : Request} {struck : Option Fault}
    (strikes : ∀ fault ∈ struck, fault.Expires ∧ request.drains)
    (placed : request.host? = some host) (same : fleet.host host = other.host host) :
    ∃ next, next.host host = (serve other request struck).2.host host ∧
      ∀ later final, Excused next later final →
        Excused fleet (⟨request, (serve other request struck).1⟩ :: later) final := by
  cases struck with
  | none =>
      obtain ⟨answer, state⟩ := comply_of_host placed same
      refine ⟨(comply fleet request).2, state, fun later final rest => ?_⟩
      rw [serve, ← answer]
      exact .served request rest
  | some fault =>
      obtain ⟨expires, drains⟩ := strikes fault rfl
      obtain ⟨own, resource, rfl⟩ := Request.of_drains drains
      obtain rfl : own = host := Option.some.inj placed
      have answer : (serve other (.delete own resource) (some fault)).1 =
          .error (.authExpired (fault.answer.host.getD own) fault.answer.message) := by
        rw [serve, fail, FaultAnswer.deviceError, expires.answers]
      rw [answer]
      cases carried : fault.applied with
      | false =>
          refine ⟨fleet, ?_, fun later final => .expired _ _ drains (.inl rfl)⟩
          simpa [serve, fail, carried] using same
      | true =>
          refine ⟨removed fleet own resource, ?_, fun later final => .expired _ _ drains (.inr rfl)⟩
          simp [serve, fail, carried, host_removed, same]

/-- What an estate with faults of this kind tells of a host, a fleet with the same host tells too,
if some sessions are taken to have expired. -/
theorem excused_of_tells (expires : ∀ fault ∈ estate.faults, fault.Expires)
    (same : fleet.host host = estate.fleet.host host) (told : estate.Tells replies) :
    ∃ final, Excused fleet (repliesOf host replies) final ∧
      final.host host = (estate.after replies).fleet.host host := by
  induction replies generalizing estate fleet with
  | nil => exact ⟨fleet, .done fleet, same⟩
  | cons reply replies ih =>
      obtain ⟨request, answer⟩ := reply
      obtain ⟨answered, told⟩ := told
      obtain rfl : answer = (respond request estate).1 := answered
      obtain ⟨strikes, left⟩ := @Fault.strike?_expires request _ expires
      by_cases placed : request.host? = some host
      · obtain ⟨next, state, onward⟩ := serve_excused strikes placed same
        obtain ⟨final, rest, ended⟩ := ih left state told
        rw [repliesOf, List.filter_cons_of_pos (by simpa using placed)]
        exact ⟨final, onward _ _ rest, ended⟩
      · have state := same.trans (serve_elsewhere (Fault.strike? request estate.faults).1 placed).symm
        rw [repliesOf, List.filter_cons_of_neg (by simpa using placed)]
        exact ih left state told

theorem comply_not_expired (fleet : Fleet) (request : Request) :
    Reply.expired ⟨request, (comply fleet request).1⟩ = false := by
  cases request with
  | delete host resource =>
      rw [comply]
      split
      · rfl
      · rfl
  | probe | create | list | releasePort | releaseTag => rfl

theorem Excused.drains_of_expired (excused : Excused fleet replies final) :
    ∀ reply ∈ replies, reply.expired → reply.1.drains := by
  induction excused with
  | done fleet => exact List.forall_mem_nil _
  | @served fleet _ _ request rest ih =>
      refine List.forall_mem_cons.mpr ⟨fun expired => ?_, ih⟩
      rw [comply_not_expired] at expired
      cases expired
  | expired reporter detail drains carried rest ih =>
      exact List.forall_mem_cons.mpr ⟨fun _ => drains, ih⟩

theorem not_expired_of_tells (none : estate.faults = []) (told : estate.Tells replies) :
    ∀ reply ∈ replies, reply.expired = false := by
  induction replies generalizing estate with
  | nil => exact List.forall_mem_nil _
  | cons reply replies ih =>
      obtain ⟨request, answer⟩ := reply
      obtain ⟨answered, told⟩ := told
      obtain rfl : answer = (respond request estate).1 := answered
      rw [respond_of_no_faults request estate none] at told ⊢
      have rest := @ih { estate with fleet := (comply estate.fleet request).2 } none told
      exact List.forall_mem_cons.mpr ⟨comply_not_expired estate.fleet request, rest⟩

def faultless (estate : Estate) (fleet : Fleet) : Estate := ⟨fleet, estate.latencies, []⟩

theorem respond_faultless (estate : Estate) (fleet : Fleet) (request : Request) :
    respond request (estate.faultless fleet) =
      ((comply fleet request).1, estate.faultless (comply fleet request).2) :=
  respond_of_no_faults request (estate.faultless fleet) rfl

theorem Excused.tells (excused : Excused fleet replies final)
    (still : ∀ reply ∈ replies, reply.1.drains = false) (estate : Estate) :
    (estate.faultless fleet).Tells replies ∧
      (estate.faultless fleet).after replies = estate.faultless final := by
  induction excused with
  | done fleet => exact ⟨trivial, rfl⟩
  | @served fleet later final request rest ih =>
      rw [List.forall_mem_cons] at still
      obtain ⟨told, state⟩ := ih still.2
      rw [Tells, after, List.foldl_cons, respond_faultless]
      exact ⟨⟨rfl, told⟩, state⟩
  | expired reporter detail drains carried rest ih =>
      rw [List.forall_mem_cons] at still
      rw [still.1] at drains
      cases drains

end Estate

end Tenancy
