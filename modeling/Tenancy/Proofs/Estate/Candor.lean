import Tenancy.Proofs.Estate.Dwindling

/-!
Faults that tell the truth: one that answers to a deletion that the object is not found also carries
the deletion out. A fleet with only such faults is candid at every turn.
-/

namespace Tenancy

def Fault.IsHonest (fault : Fault) : Prop :=
  fault.operation = .delete → fault.answer.sort = .notFound → fault.applied

instance (fault : Fault) : Decidable fault.IsHonest := inferInstanceAs (Decidable (_ → _ → _))

theorem Fault.strike?_honest (request : Request) {faults : List Fault}
    (honest : ∀ fault ∈ faults, fault.IsHonest) :
    (∀ fault, (strike? request faults).1 = some fault →
      fault.IsHonest ∧ fault.operation = request.operation) ∧
    ∀ fault ∈ (strike? request faults).2, fault.IsHonest := by
  obtain ⟨struck, left⟩ :=
    @strike?_forall request faults IsHonest (fun _ _ _ own => own) honest
  exact ⟨fun fault same => ⟨(struck fault same).1, (befalls_iff.mp (struck fault same).2).1⟩, left⟩

namespace Estate

theorem respond_honest {estate : Estate} (honest : ∀ fault ∈ estate.faults, fault.IsHonest)
    (request : Request) : ∀ fault ∈ (respond request estate).2.faults, fault.IsHonest :=
  (Fault.strike?_honest request honest).2

theorem not_holds_of_respond {estate : Estate} (honest : ∀ fault ∈ estate.faults, fault.IsHonest)
    {host : String} {resource : Resource} {source : DeviceError}
    (answered : (respond (.delete host resource) estate).1 = .error source)
    (notFound : source.isNotFound) :
    ((respond (.delete host resource) estate).2.fleet.host host).holds resource = false := by
  have struck := (Fault.strike?_honest (.delete host resource) honest).1
  unfold respond at answered ⊢
  rcases found : Fault.strike? (.delete host resource) estate.faults with ⟨fault, left⟩
  rw [found] at struck
  simp only [found] at answered ⊢
  cases fault with
  | none =>
      simp only [comply] at answered ⊢
      cases holds : (estate.fleet.host host).holds resource with
      | true => simp [holds] at answered
      | false => simp [holds]
  | some fault =>
      obtain ⟨truth, operation⟩ := struck fault rfl
      obtain rfl := Except.error.inj answered
      have sort : fault.answer.sort = .notFound := by
        unfold FaultAnswer.deviceError at notFound
        split at notFound
        next => cases notFound
        next same => exact same
        next => cases notFound
      simp only [fail, truth operation sort]
      exact removed_not_holds _ host resource

theorem candid_of_honest {raiseOnCall : Option Nat} {start : Estate}
    {exchanges : List (Exchange Backend)} (answered : (peer raiseOnCall).Answered start exchanges)
    (honest : ∀ fault ∈ start.faults, fault.IsHonest) :
    ∀ turn ∈ (peer raiseOnCall).turns start exchanges, turn.Candid := by
  have left (earlier : List (Exchange Backend)) :
      ∀ fault ∈ ((peer raiseOnCall).replay start earlier).faults, fault.IsHonest := by
    induction earlier with
    | nil => exact honest
    | cons exchange earlier ih => exact respond_honest ih exchange.query
  intro turn passed
  obtain ⟨later, exchange, earlier, rfl, rfl⟩ := Peer.mem_turns_iff.mp passed
  have given := answered.of_append.1
  intro host resource source same notFound
  obtain ⟨_, _, query, answer⟩ := exchange
  cases same
  exact not_holds_of_respond (left earlier) given.symm notFound

end Estate

end Tenancy
