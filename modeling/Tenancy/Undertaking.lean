import Tenancy.Batch

/-!
Work that is one program, or programs side by side with one more that goes on with their results.
-/

namespace Tenancy

inductive Undertaking (I : Interface) (β α : Type)
  | alone (program : Program I α)
  | together (limit : Nat) (programs : List (Program I β)) (conclude : List β → Program I α)

namespace Undertaking

variable {I J : Interface} {σ α β γ : Type}

/-- The same work with every query worked out by a program over other queries. -/
def via (undertaking : Undertaking I β α)
    (client : (query : I.Query) → Program J (I.Answer query)) : Undertaking J β α :=
  match undertaking with
  | alone program => alone (program.via client)
  | together limit programs conclude =>
      together limit (programs.map (·.via client)) fun results => (conclude results).via client

def andThen (undertaking : Undertaking I β α) (rest : α → Program I γ) : Undertaking I β γ :=
  match undertaking with
  | alone program => alone (program.bind rest)
  | together limit programs conclude =>
      together limit programs fun results => (conclude results).bind rest

/-- Does the work in its surroundings. Programs side by side are told apart by their place. -/
def run (undertaking : Undertaking I β α) (peer : Peer I σ) (surroundings : Surroundings I σ) :
    α × Surroundings I σ :=
  match undertaking with
  | alone program => program.run peer 0 surroundings
  | together limit programs conclude =>
      let batch := (Batch.start surroundings limit programs).run peer
      (conclude batch.results).run peer 0 batch.surroundings

end Undertaking

end Tenancy
