import Tenancy.Proofs.Estate
import Tenancy.Proofs.Fleet
import Tenancy.Proofs.Program.Muting
import Tenancy.Proofs.Record

/-!
What a host answers is a matter of this host and of the faults that name it, if each fault names a
host or befalls ports only. So whatever is asked elsewhere meanwhile, a host answers as if nobody
else asked anything.
-/

namespace Tenancy

/-- The fault befalls ports only, or what goes to one host. -/
def Fault.IsApart (fault : Fault) : Prop :=
  fault.operation = .releasePort ∨ fault.host.isSome

def Fault.names (host : String) (fault : Fault) : Bool :=
  fault.operation ≠ .releasePort && fault.host = some host

namespace Fault

variable {host : String} {request : Request} {fault : Fault} {faults : List Fault}

theorem operation_ne_of_host (placed : request.host? = some host) :
    request.operation ≠ .releasePort := by
  cases request with
  | releasePort => cases placed
  | probe | create | list | delete | releaseTag => exact nofun

theorem names_of_befalls (placed : request.host? = some host) (apart : fault.IsApart)
    (befalls : fault.befalls request) : fault.names host := by
  obtain ⟨operation, agreed, -⟩ := befalls_iff.mp befalls
  have other := operation_ne_of_host placed
  rw [← operation] at other
  obtain ⟨named, found⟩ := Option.isSome_iff_exists.mp (apart.resolve_left other)
  rw [found, placed] at agreed
  have same : named = host := by simpa [agrees] using agreed
  simp [names, other, found, same]

theorem host_of_befalls (own : fault.names host) (befalls : fault.befalls request) :
    request.host? = some host := by
  obtain ⟨operation, agreed, -⟩ := befalls_iff.mp befalls
  simp only [names, Bool.and_eq_true, decide_eq_true_eq] at own
  rw [own.2] at agreed
  cases request with
  | releasePort => exact absurd operation own.1
  | probe | create | list | delete | releaseTag =>
      simpa [agrees, Request.host?, eq_comm] using agreed

theorem strike?_of_host (placed : request.host? = some host)
    (apart : ∀ fault ∈ faults, fault.IsApart) :
    (strike? request faults).1 = (strike? request (faults.filter (names host))).1 ∧
      (strike? request faults).2.filter (names host) =
        (strike? request (faults.filter (names host))).2 := by
  induction faults with
  | nil => exact ⟨rfl, rfl⟩
  | cons fault faults ih =>
      rw [List.forall_mem_cons] at apart
      obtain ⟨struck, left⟩ := ih apart.2
      by_cases own : fault.names host
      · rw [List.filter_cons_of_pos own, strike?_cons, strike?_cons]
        split
        · exact ⟨struck, (List.filter_cons_of_pos own).trans (congrArg (List.cons _) left)⟩
        · split
          · exact ⟨rfl, List.filter_cons_of_pos own⟩
          · have counted : names host { fault with skip := fault.skip - 1 } := own
            exact ⟨struck, (List.filter_cons_of_pos counted).trans (congrArg (List.cons _) left)⟩
      · -- A fault of another host lets the request pass, and it is not counted.
        have passes : fault.befalls request = false :=
          Bool.eq_false_iff.mpr fun befalls => own (names_of_befalls placed apart.1 befalls)
        rw [List.filter_cons_of_neg own, strike?_cons, if_pos (by simp [passes])]
        exact ⟨struck, (List.filter_cons_of_neg own).trans left⟩

theorem strike?_elsewhere (elsewhere : request.host? ≠ some host) :
    (strike? request faults).2.filter (names host) = faults.filter (names host) := by
  induction faults with
  | nil => rfl
  | cons fault faults ih =>
      rw [strike?_cons]
      by_cases own : fault.names host
      · have passes : fault.befalls request = false :=
          Bool.eq_false_iff.mpr fun befalls => elsewhere (host_of_befalls own befalls)
        rw [if_pos (by simp [passes]), List.filter_cons_of_pos own, List.filter_cons_of_pos own, ih]
      · rw [List.filter_cons_of_neg own]
        split
        · exact (List.filter_cons_of_neg own).trans ih
        · split
          · exact List.filter_cons_of_neg own
          · have counted : ¬ names host { fault with skip := fault.skip - 1 } := own
            exact (List.filter_cons_of_neg counted).trans ih

theorem strike?_apart (apart : ∀ fault ∈ faults, fault.IsApart) :
    ∀ fault ∈ (strike? request faults).2, fault.IsApart :=
  (strike?_forall (fun _ _ _ own => own) apart).2

end Fault

namespace Estate

structure Agrees (host : String) (left right : Estate) : Prop where
  same : left.fleet.host host = right.fleet.host host
  faults : left.faults.filter (Fault.names host) = right.faults.filter (Fault.names host)
  leftApart : ∀ fault ∈ left.faults, fault.IsApart
  rightApart : ∀ fault ∈ right.faults, fault.IsApart

variable {host : String} {request : Request} {left right : Estate}

theorem comply_of_host {first second : Fleet} (placed : request.host? = some host)
    (same : first.host host = second.host host) :
    (comply first request).1 = (comply second request).1 ∧
      (comply first request).2.host host = (comply second request).2.host host := by
  cases request with
  | releasePort => cases placed
  | probe | list | releaseTag =>
      obtain rfl := Option.some.inj placed
      simp [comply, same]
  | create own kind payload =>
      obtain rfl := Option.some.inj placed
      simp [comply, Fleet.host_change, same]
  | delete own resource =>
      obtain rfl := Option.some.inj placed
      rw [comply, comply, same]
      split
      · simp [host_removed, same]
      · exact ⟨rfl, same⟩

theorem fail_of_host {first second : Fleet} {fault : Fault} (placed : request.host? = some host)
    (same : first.host host = second.host host) :
    (fail first fault request).1 = (fail second fault request).1 ∧
      (fail first fault request).2.host host = (fail second fault request).2.host host := by
  cases request with
  | releasePort => cases placed
  | probe | create | list | releaseTag => exact ⟨rfl, same⟩
  | delete own resource =>
      obtain rfl := Option.some.inj placed
      rw [fail, fail]
      split
      · simp [host_removed, same]
      · exact ⟨rfl, same⟩

def serve (fleet : Fleet) (request : Request) : Option Fault → request.Answer × Fleet
  | none => comply fleet request
  | some fault => fail fleet fault request

theorem respond_eq (request : Request) (estate : Estate) :
    respond request estate =
      ((serve estate.fleet request (Fault.strike? request estate.faults).1).1,
        { estate with
          fleet := (serve estate.fleet request (Fault.strike? request estate.faults).1).2
          faults := (Fault.strike? request estate.faults).2 }) :=
  rfl

theorem serve_of_host {first second : Fleet} (struck : Option Fault)
    (placed : request.host? = some host) (same : first.host host = second.host host) :
    (serve first request struck).1 = (serve second request struck).1 ∧
      (serve first request struck).2.host host = (serve second request struck).2.host host := by
  cases struck with
  | none => exact comply_of_host placed same
  | some fault => exact fail_of_host placed same

theorem serve_elsewhere {fleet : Fleet} (struck : Option Fault)
    (elsewhere : request.host? ≠ some host) :
    (serve fleet request struck).2.host host = fleet.host host := by
  cases request with
  | probe | list | releasePort | releaseTag => cases struck <;> rfl
  | create own kind payload =>
      have other : host ≠ own := fun same => elsewhere (congrArg some same.symm)
      cases struck with
      | none => simp [serve, comply, Fleet.host_change, other]
      | some fault => rfl
  | delete own resource =>
      have other : host ≠ own := fun same => elsewhere (congrArg some same.symm)
      have kept : (removed fleet own resource).host host = fleet.host host := by
        simp [host_removed, other]
      cases struck with
      | none =>
          rw [serve, comply]
          split
          · exact kept
          · rfl
      | some fault =>
          rw [serve, fail]
          split
          · exact kept
          · rfl

theorem respond_of_host (agrees : Agrees host left right) (placed : request.host? = some host) :
    (respond request left).1 = (respond request right).1 ∧
      Agrees host (respond request left).2 (respond request right).2 := by
  obtain ⟨struckLeft, faultsLeft⟩ := Fault.strike?_of_host placed agrees.leftApart
  obtain ⟨struckRight, faultsRight⟩ := Fault.strike?_of_host placed agrees.rightApart
  rw [agrees.faults, ← struckRight] at struckLeft
  rw [agrees.faults, ← faultsRight] at faultsLeft
  rw [respond_eq, respond_eq, struckLeft]
  obtain ⟨answer, fleet⟩ :=
    serve_of_host (Fault.strike? request right.faults).1 placed agrees.same
  exact ⟨answer, fleet, faultsLeft, Fault.strike?_apart agrees.leftApart,
    Fault.strike?_apart agrees.rightApart⟩

theorem respond_elsewhere (agrees : Agrees host left right)
    (elsewhere : request.host? ≠ some host) : Agrees host (respond request left).2 right := by
  rw [respond_eq]
  exact ⟨(serve_elsewhere _ elsewhere).trans agrees.same,
    (Fault.strike?_elsewhere elsewhere).trans agrees.faults,
    Fault.strike?_apart agrees.leftApart, agrees.rightApart⟩

abbrev Reply := (request : Request) × request.Answer

def Tells (estate : Estate) : List Reply → Prop
  | [] => True
  | reply :: later =>
      reply.2 = (respond reply.1 estate).1 ∧ (respond reply.1 estate).2.Tells later

def after (estate : Estate) (replies : List Reply) : Estate :=
  replies.foldl (fun estate reply => (respond reply.1 estate).2) estate

theorem tells_append {estate : Estate} {first second : List Reply} :
    estate.Tells (first ++ second) ↔ estate.Tells first ∧ (estate.after first).Tells second := by
  induction first generalizing estate with
  | nil => simp [Tells, after]
  | cons reply first ih => simp [Tells, after, ih, and_assoc]

theorem after_append {estate : Estate} {first second : List Reply} :
    estate.after (first ++ second) = (estate.after first).after second :=
  List.foldl_append

/-- What a record holds the estate has told, and it has come to what is left of it by that. -/
theorem tells_of_since {raiseOnCall : Option Nat} {start : Estate}
    {surroundings : Surroundings Backend Estate}
    (since : surroundings.Since (peer raiseOnCall) start) :
    start.Tells (surroundings.exchanges.map Exchange.reply).reverse ∧
      surroundings.state = start.after (surroundings.exchanges.map Exchange.reply).reverse := by
  obtain ⟨state, answered⟩ := since
  rw [state]
  generalize surroundings.exchanges = exchanges at answered
  induction exchanges with
  | nil => exact ⟨trivial, rfl⟩
  | cons exchange earlier ih =>
      obtain ⟨answer, answered⟩ := answered
      obtain ⟨told, came⟩ := ih answered
      rw [List.map_cons, List.reverse_cons]
      refine ⟨tells_append.mpr ⟨told, ?_, trivial⟩, ?_⟩
      · rw [← came]
        exact answer
      · rw [after_append, ← came]
        rfl

def repliesOf (host : String) (replies : List Reply) : List Reply :=
  replies.filter fun reply => reply.1.host? = some host

theorem repliesOf_append (host : String) (first second : List Reply) :
    repliesOf host (first ++ second) = repliesOf host first ++ repliesOf host second :=
  List.filter_append _ _

theorem repliesOf_flatMap {τ : Type} (host : String) (entries : List τ)
    (replies : τ → List Reply) :
    repliesOf host (entries.flatMap replies) =
      entries.flatMap fun entry => repliesOf host (replies entry) :=
  List.filter_flatMap

theorem repliesOf_repliesTo {asker : Nat} {exchanges : List (Exchange Backend)}
    (own : ∀ exchange ∈ exchanges, exchange.query.host? = some host → exchange.asker = asker) :
    repliesOf host (Exchange.repliesTo asker exchanges) =
      repliesOf host (exchanges.map Exchange.reply).reverse := by
  simp only [repliesOf, Exchange.repliesTo, List.filter_reverse, List.filter_map,
    List.filter_filter]
  refine congrArg List.reverse (congrArg (List.map Exchange.reply) (List.filter_congr ?_))
  intro exchange member
  rw [Function.comp_apply, Bool.and_eq_left_iff_imp, decide_eq_true_eq]
  exact fun here => decide_eq_true (own exchange member here)

/-- A host tells what it tells, whatever is asked elsewhere meanwhile. -/
theorem tells_repliesOf {replies : List Reply} (agrees : Agrees host left right)
    (told : left.Tells replies) :
    right.Tells (repliesOf host replies) ∧
      Agrees host (left.after replies) (right.after (repliesOf host replies)) := by
  induction replies generalizing left right with
  | nil => exact ⟨trivial, agrees⟩
  | cons reply replies ih =>
      obtain ⟨answer, told⟩ := told
      by_cases placed : reply.1.host? = some host
      · obtain ⟨same, onward⟩ := respond_of_host agrees placed
        obtain ⟨rest, final⟩ := ih onward told
        rw [repliesOf, List.filter_cons_of_pos (by simpa using placed)]
        exact ⟨⟨answer.trans same, rest⟩, final⟩
      · rw [repliesOf, List.filter_cons_of_neg (by simpa using placed)]
        exact ih (respond_elsewhere agrees placed) told

theorem agrees_refl (apart : ∀ fault ∈ left.faults, fault.IsApart) : Agrees host left left :=
  ⟨rfl, rfl, apart, apart⟩

end Estate

end Tenancy
