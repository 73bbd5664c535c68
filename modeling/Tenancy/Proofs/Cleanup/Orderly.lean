import Tenancy.Proofs.Estate.Dwindling
import Tenancy.Proofs.Teardown.Order

/-!
Records of teardowns of one partition, however they ran: in turn, side by side or mixed in any
other way. All that is known of the order of their requests is that each of them was due.
-/

namespace Tenancy.Cleanup

open Teardown

/-- The fleet's own answers, each on the trail that the teardown of one of these hosts took to its
end. If all is `fine`, none of these teardowns failed. -/
structure Orderly (partition : String) (hosts : List String) (fine : Prop)
    (raiseOnCall : Option Nat) (start : Estate) (exchanges : List (Exchange Backend)) : Prop where
  answered : (Estate.peer raiseOnCall).Answered start exchanges
  made : ∀ later exchange earlier, exchanges = later ++ exchange :: earlier →
    ∃ retry, ∃ host ∈ hosts, ∃ ended,
      Program.Makes (Teardown.run retry host partition).run ended later exchange earlier ∧
        (fine → ended.isOk)

namespace Orderly

variable {partition : String} {hosts : List String} {fine : Prop} {raiseOnCall : Option Nat}
  {start : Estate} {exchanges later earlier : List (Exchange Backend)} {exchange : Exchange Backend}

theorem due (orderly : Orderly partition hosts fine raiseOnCall start exchanges)
    (cut : exchanges = later ++ exchange :: earlier) :
    ∃ host ∈ hosts, ∃ seen : Trail Backend,
      seen.answers ⊆ earlier.map Exchange.reply ∧ Due host partition seen exchange.query := by
  obtain ⟨retry, host, member, ended, ⟨before, after, taken, early, -⟩, -⟩ :=
    orderly.made later exchange earlier cut
  exact ⟨host, member, before, early, Teardown.run_asks taken.asks⟩

theorem dwindles (orderly : Orderly partition hosts fine raiseOnCall start exchanges) :
    Estate.Dwindles raiseOnCall start exchanges := by
  refine ⟨orderly.answered, fun exchange member => ?_⟩
  obtain ⟨later, earlier, cut⟩ := List.append_of_mem member
  obtain ⟨host, -, seen, -, due⟩ := orderly.due cut
  generalize exchange.query = query at due
  cases due <;> simp [Request.operation]

theorem dwindles_of_cut (orderly : Orderly partition hosts fine raiseOnCall start exchanges)
    (cut : exchanges = later ++ earlier) : Estate.Dwindles raiseOnCall start earlier :=
  Estate.Dwindles.of_append (cut ▸ orderly.dwindles)

end Orderly

end Tenancy.Cleanup
