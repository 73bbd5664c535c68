import Tenancy.Proofs.Batch.Pace
import Tenancy.Proofs.Estate.Locality

/-!
A program that heeds no port has one way to go only as long as one estate answers it and shutdown
is not requested. Its calls, their times and its result are then a matter of the two.
-/

namespace Tenancy

def Estate.Reply.mute (reply : Estate.Reply) : Estate.Reply := ⟨reply.1, reply.1.mute reply.2⟩

namespace Trail

def placed (trail : Trail Backend) : List Estate.Reply :=
  trail.answers.filter fun reply => reply.1.host?.isSome

structure ToldBy (estate : Estate) (trail : Trail Backend) : Prop where
  calm : trail.Tells false
  told : estate.Tells trail.placed

variable {request : Request} {answer : request.Answer} {first second later : Trail Backend}

theorem placed_asked (placed : request.host?.isSome) :
    Trail.placed (.asked request answer :: later) = ⟨request, answer⟩ :: later.placed :=
  List.filter_cons_of_pos placed

theorem placed_port (port : request.host? = none) :
    Trail.placed (.asked request answer :: later) = later.placed :=
  List.filter_cons_of_neg (by simp [port])

theorem Alike.cons {one other : Sight Backend} (alike : Alike first second)
    (same : one.mute = other.mute) : Alike (one :: first) (other :: second) := by
  rw [Alike, List.map_cons, List.map_cons, same, alike]

theorem placed_mute (trail : Trail Backend) : placed (trail.map Sight.mute) = trail.placed := by
  induction trail with
  | nil => rfl
  | cons sight trail ih =>
      cases sight with
      | paused | looked => exact ih
      | asked request answer =>
          rw [List.map_cons, Sight.mute]
          cases port : request.host? with
          | none => rw [placed_port port, placed_port port, ih]
          | some host =>
              have known : request.host?.isSome := by rw [port]; rfl
              rw [placed_asked known, placed_asked known, Request.mute_of_host known, ih]

theorem Alike.placed (alike : first.Alike second) : first.placed = second.placed := by
  rw [← placed_mute first, alike, placed_mute]

theorem calls_mute (cost : Request → Nat) (start : Nat) (trail : Trail Backend) :
    calls (I := Backend) cost start (trail.map Sight.mute) =
      (trail.calls cost start).map fun call => (call.1, Estate.Reply.mute call.2) := by
  induction trail generalizing start with
  | nil => rfl
  | cons sight trail ih =>
      cases sight with
      | asked request answer =>
          rw [List.map_cons, Sight.mute, calls, calls, List.map_cons, ih]
          rfl
      | paused milliseconds requested => exact ih _
      | looked requested => exact ih _

theorem Alike.calls (alike : first.Alike second) (cost : Request → Nat) (start : Nat) :
    (Trail.calls (I := Backend) cost start first).map
        (fun call => (call.1, Estate.Reply.mute call.2)) =
      (Trail.calls (I := Backend) cost start second).map
        fun call => (call.1, Estate.Reply.mute call.2) := by
  rw [← calls_mute, ← calls_mute, alike]

theorem Alike.answers (alike : first.Alike second) :
    (Trail.answers first).map Estate.Reply.mute = (Trail.answers second).map Estate.Reply.mute := by
  have timed (trail : Trail Backend) : (Trail.answers trail).map Estate.Reply.mute =
      ((Trail.calls (I := Backend) (fun _ => 0) 0 trail).map
        fun call => (call.1, Estate.Reply.mute call.2)).map Prod.snd := by
    rw [← Trail.calls_replies 0 trail, List.map_map, List.map_map]
    rfl
  rw [timed, timed, alike.calls]

end Trail

namespace Program

variable {α : Type} {request : Request} {first second : Trail Backend} {left right : α}

theorem Heedless.of_asked {next : request.Answer → Program Backend α}
    (heedless : Heedless (.ask request next)) {given answer : request.Answer}
    (same : request.mute given = request.mute answer) (taken : (next answer).Yields first left)
    (alike : second.Alike first) : (next given).Yields second left := by
  have whole := heedless (.asked request answer :: first) (.asked request given :: second) left
    ⟨answer, first, rfl, taken⟩ (alike.cons (congrArg (Sight.asked (I := Backend) request) same))
  obtain ⟨_, _, cut, rest⟩ := whole
  cases cut
  exact rest

theorem Heedless.of_paused {milliseconds : Nat} {next : Bool → Program Backend α}
    (heedless : Heedless (.pause milliseconds next)) (requested : Bool) :
    (next requested).Heedless := by
  intro trail other result taken alike
  obtain ⟨_, _, cut, rest⟩ := heedless (.paused milliseconds requested :: trail)
    (.paused milliseconds requested :: other) result ⟨_, _, rfl, taken⟩ (alike.cons rfl)
  cases cut
  exact rest

theorem Heedless.of_looked {next : Bool → Program Backend α} (heedless : Heedless (.look next))
    (requested : Bool) : (next requested).Heedless := by
  intro trail other result taken alike
  obtain ⟨_, _, cut, rest⟩ := heedless (.looked requested :: trail) (.looked requested :: other)
    result ⟨_, _, rfl, taken⟩ (alike.cons rfl)
  cases cut
  exact rest

theorem determined {program : Program Backend α} {estate : Estate} (heedless : program.Heedless)
    (one : program.Yields first left) (other : program.Yields second right)
    (told : first.ToldBy estate) (likewise : second.ToldBy estate) :
    first.Alike second ∧ left = right := by
  induction program generalizing estate first second with
  | done result =>
      obtain ⟨rfl, rfl⟩ := one
      obtain ⟨rfl, rfl⟩ := other
      exact ⟨rfl, rfl⟩
  | write event next ih => exact ih heedless one other told likewise
  | pause milliseconds next ih =>
      obtain ⟨requested, first, rfl, one⟩ := one
      obtain ⟨requested', second, rfl, other⟩ := other
      obtain ⟨rfl, calm⟩ := Trail.tells_cons_paused.mp told.calm
      obtain ⟨rfl, calm'⟩ := Trail.tells_cons_paused.mp likewise.calm
      obtain ⟨alike, same⟩ :=
        ih false (heedless.of_paused false) one other ⟨calm, told.told⟩ ⟨calm', likewise.told⟩
      exact ⟨alike.cons rfl, same⟩
  | look next ih =>
      obtain ⟨requested, first, rfl, one⟩ := one
      obtain ⟨requested', second, rfl, other⟩ := other
      obtain ⟨rfl, calm⟩ := Trail.tells_cons_looked.mp told.calm
      obtain ⟨rfl, calm'⟩ := Trail.tells_cons_looked.mp likewise.calm
      obtain ⟨alike, same⟩ :=
        ih false (heedless.of_looked false) one other ⟨calm, told.told⟩ ⟨calm', likewise.told⟩
      exact ⟨alike.cons rfl, same⟩
  | ask request next ih =>
      obtain ⟨answer, first, rfl, one⟩ := one
      obtain ⟨given, second, rfl, other⟩ := other
      obtain ⟨whole, told⟩ := told
      obtain ⟨whole', likewise⟩ := likewise
      have calm := Trail.tells_cons_asked.mp whole
      have calm' := Trail.tells_cons_asked.mp whole'
      have left : (next answer).Heedless :=
        fun _ _ _ taken alike => heedless.of_asked rfl taken alike
      cases port : request.host? with
      | some host =>
          have known : request.host?.isSome := by rw [port]; rfl
          rw [Trail.placed_asked known] at told likewise
          obtain ⟨here, told⟩ := told
          obtain ⟨there, likewise⟩ := likewise
          obtain rfl : answer = given := here.trans there.symm
          obtain ⟨alike, same⟩ := ih answer left one other ⟨calm, told⟩ ⟨calm', likewise⟩
          exact ⟨alike.cons rfl, same⟩
      | none =>
          rw [Trail.placed_port port] at told likewise
          -- The other answer of the keeper of ports leads on by the same trail.
          have muted := Request.mute_of_port port answer given
          have onward := heedless.of_asked muted other (rfl : Trail.Alike second second)
          obtain ⟨alike, same⟩ := ih answer left one onward ⟨calm, told⟩ ⟨calm', likewise⟩
          exact ⟨alike.cons (congrArg (Sight.asked (I := Backend) request) muted), same⟩

end Program

end Tenancy
