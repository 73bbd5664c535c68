import Tenancy.Estate
import Tenancy.Proofs.Program.Trail

/-!
What a fleet does with a request, whatever faults strike it: reads change nothing and a listing that
succeeds is true; a deletion removes what answers to the resource or nothing, and never nothing if
it succeeds.
-/

namespace Tenancy

def Request.changes : Request → Bool
  | .probe .. | .list .. => false
  | .create .. | .delete .. | .releasePort _ | .releaseTag .. => true

def Sight.changes : Sight Backend → Bool
  | .asked request _ => request.changes
  | .paused .. | .looked _ => false

namespace Fault

variable {request : Request} {fault : Fault} {faults : List Fault}

theorem befalls_iff :
    fault.befalls request ↔ fault.operation = request.operation ∧
      agrees fault.host request.host? ∧ agrees fault.kind request.kind? ∧
      agrees fault.name request.name? ∧ agrees fault.tag request.tag? := by
  simp [befalls, and_assoc]

theorem strike?_cons :
    strike? request (fault :: faults) =
      if !fault.befalls request || fault.skip = 0 && fault.times = some 0 then
        ((strike? request faults).1, fault :: (strike? request faults).2)
      else if fault.skip = 0 then
        (some fault, { fault with times := fault.times.map (· - 1) } :: faults)
      else
        ((strike? request faults).1,
          { fault with skip := fault.skip - 1 } :: (strike? request faults).2) :=
  rfl

theorem strike?_forall {P : Fault → Prop}
    (counted : ∀ fault skip times, P fault → P { fault with skip := skip, times := times })
    (all : ∀ fault ∈ faults, P fault) :
    (∀ fault ∈ (strike? request faults).1, P fault ∧ fault.befalls request) ∧
      ∀ fault ∈ (strike? request faults).2, P fault := by
  induction faults with
  | nil => simp [strike?]
  | cons fault faults ih =>
      obtain ⟨own, others⟩ := List.forall_mem_cons.mp all
      obtain ⟨struck, left⟩ := ih others
      rw [strike?_cons]
      split
      · exact ⟨struck, List.forall_mem_cons.mpr ⟨own, left⟩⟩
      next meets =>
        simp only [Bool.or_eq_true, Bool.not_eq_true', not_or, Bool.not_eq_false] at meets
        split
        · refine ⟨?_, List.forall_mem_cons.mpr ⟨counted fault _ _ own, others⟩⟩
          intro striking same
          obtain rfl := Option.some.inj same
          exact ⟨own, meets.1⟩
        · exact ⟨struck, List.forall_mem_cons.mpr ⟨counted fault _ _ own, left⟩⟩

end Fault

namespace Estate

def Serves (before : Fleet) : (request : Request) → request.Answer → Fleet → Prop
  | .probe .., _, after => after = before
  | .create .., _, _ => True
  | .list host kind partition, answer, after =>
      after = before ∧
        ∀ resources, answer = .ok resources → resources = (before.host host).listing kind partition
  | .delete host resource, answer, after =>
      (after = before ∨ after = removed before host resource) ∧
        (answer = .ok () → after = removed before host resource)
  | .releasePort _, _, after => after = before
  | .releaseTag .., _, after => after = before

theorem comply_serves (fleet : Fleet) (request : Request) :
    Serves fleet request (comply fleet request).1 (comply fleet request).2 := by
  cases request with
  | delete host resource =>
      simp only [comply]
      split
      · exact ⟨.inr rfl, fun _ => rfl⟩
      · exact ⟨.inl rfl, fun succeeded => nomatch succeeded⟩
  | create => trivial
  | list => exact ⟨rfl, fun resources same => (Except.ok.inj same).symm⟩
  | probe | releasePort | releaseTag => rfl

theorem fail_serves (fleet : Fleet) (fault : Fault) (request : Request) :
    Serves fleet request (fail fleet fault request).1 (fail fleet fault request).2 := by
  cases request with
  | delete host resource =>
      simp only [fail]
      split
      · exact ⟨.inr rfl, fun succeeded => nomatch succeeded⟩
      · exact ⟨.inl rfl, fun succeeded => nomatch succeeded⟩
  | create => trivial
  | list => exact ⟨rfl, fun resources succeeded => nomatch succeeded⟩
  | probe | releasePort | releaseTag => rfl

theorem respond_serves (request : Request) (estate : Estate) :
    Serves estate.fleet request (respond request estate).1 (respond request estate).2.fleet := by
  unfold respond
  rcases Fault.strike? request estate.faults with ⟨struck, faults⟩
  cases struck with
  | none => exact comply_serves estate.fleet request
  | some fault => exact fail_serves estate.fleet fault request

theorem respond_of_no_faults (request : Request) (estate : Estate) (none : estate.faults = []) :
    respond request estate =
      ((comply estate.fleet request).1,
        { estate with fleet := (comply estate.fleet request).2 }) := by
  simp [respond, none, Fault.strike?]

theorem respond_probe {host name : String} {kind : Kind} {estate : Estate} {there : Bool}
    (answered : (respond (.probe host kind name) estate).1 = .ok there) :
    there = decide (name ∈ (estate.fleet.host host).folders) := by
  unfold respond at answered
  rcases found : Fault.strike? (.probe host kind name) estate.faults with ⟨fault, left⟩
  simp only [found] at answered
  cases fault with
  | none => exact (Except.ok.inj answered).symm
  | some fault => cases answered

theorem respond_probe_fleet (host name : String) (kind : Kind) (estate : Estate) :
    (respond (.probe host kind name) estate).2.fleet = estate.fleet :=
  respond_serves (.probe host kind name) estate

theorem respond_create {host : String} {kind : Kind} {payload : Json} {estate : Estate}
    {resource : Resource}
    (answered : (respond (.create host kind payload) estate).1 = .ok resource) :
    (respond (.create host kind payload) estate).2.fleet =
      estate.fleet.change host (·.addFolder (Request.payloadName payload)) := by
  unfold respond at answered ⊢
  rcases found : Fault.strike? (.create host kind payload) estate.faults with ⟨fault, left⟩
  simp only [found] at answered ⊢
  cases fault with
  | none => rfl
  | some fault => cases answered

theorem respond_create_of_error {host : String} {kind : Kind} {payload : Json} {estate : Estate}
    {source : DeviceError}
    (answered : (respond (.create host kind payload) estate).1 = .error source) :
    (respond (.create host kind payload) estate).2.fleet = estate.fleet := by
  unfold respond at answered ⊢
  rcases found : Fault.strike? (.create host kind payload) estate.faults with ⟨fault, left⟩
  simp only [found] at answered ⊢
  cases fault with
  | none => cases answered
  | some fault => rfl

theorem Serves.fleet_of_reads {before after : Fleet} {request : Request} {answer : request.Answer}
    (serves : Serves before request answer after) (reads : request.changes = false) :
    after = before := by
  cases request with
  | probe => exact serves
  | list => exact serves.1
  | create | delete | releasePort | releaseTag => cases reads

theorem run_fleet_of_reads {α : Type} (program : Program Backend α) (raiseOnCall : Option Nat)
    (asker : Nat) (surroundings : Surroundings Backend Estate)
    (reads : ∀ sight ∈ program.trail (peer raiseOnCall) asker surroundings,
      sight.changes = false) :
    (program.run (peer raiseOnCall) asker surroundings).2.state.fleet =
      surroundings.state.fleet := by
  induction program generalizing surroundings with
  | done result => rfl
  | write event next ih => exact ih _ reads
  | ask request next ih =>
      simp only [Program.trail, List.forall_mem_cons] at reads
      have rest := ih _ _ reads.2
      have first := (respond_serves request surroundings.state).fleet_of_reads reads.1
      exact rest.trans (by simpa [peer] using first)
  | pause milliseconds next ih =>
      simp only [Program.trail, List.forall_mem_cons] at reads
      exact (ih _ _ reads.2).trans (by simp)
  | look next ih =>
      simp only [Program.trail, List.forall_mem_cons] at reads
      exact ih _ _ reads.2

end Estate

end Tenancy
