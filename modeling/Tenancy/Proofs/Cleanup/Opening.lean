import Tenancy.Proofs.Cleanup.Safety
import Tenancy.Proofs.Fleet.Frame
import Tenancy.Proofs.Teardown.Gate

/-!
Which hosts a cleanup touches: only those that had the tenant's folder and no traffic in it when the
cleanup began. All others keep all that they have, and for them the cleanup only reads.
-/

namespace Tenancy

namespace Host

def Open (partition : String) (host : Host) : Prop :=
  partition ∈ host.folders ∧
    ∀ object ∈ host.objects, object.listedIn = partition →
      object.resource.kind ∉ Kind.loadBearing

instance (partition : String) (host : Host) : Decidable (host.Open partition) :=
  inferInstanceAs (Decidable (_ ∧ _))

def Bears (partition : String) (host : Host) : Prop :=
  ∃ object ∈ host.objects, object.listedIn = partition ∧ object.resource.kind ∈ Kind.loadBearing

instance (partition : String) (host : Host) : Decidable (host.Bears partition) :=
  inferInstanceAs (Decidable (∃ _ ∈ _, _ ∧ _))

def cleared (partition : String) (host : Host) : Host :=
  ⟨host.folders.filter (· ≠ partition), host.objects.filter (!·.isRemovable partition)⟩

variable {partition : String} {host : Host}

theorem open_iff : host.Open partition ↔ partition ∈ host.folders ∧ ¬ host.Bears partition := by
  simp only [Open, Bears, not_exists, not_and]

theorem cleared_of_lacks (gone : partition ∉ host.folders)
    (lacks : ∀ object ∈ host.objects, object.isRemovable partition = false) :
    host.cleared partition = host := by
  have folders : host.folders.filter (· ≠ partition) = host.folders := by
    refine List.filter_eq_self.mpr fun name member => decide_eq_true ?_
    rintro rfl
    exact gone member
  have objects : host.objects.filter (!·.isRemovable partition) = host.objects :=
    List.filter_eq_self.mpr fun object member => by rw [lacks object member]; rfl
  rw [cleared, folders, objects]

theorem not_open_cleared : ¬ (host.cleared partition).Open partition := by
  rintro ⟨there, -⟩
  simp [cleared] at there

end Host

theorem Fleet.Reduced.cleared {partition : String} {hosts : List String} {before after : Fleet}
    (reduced : Reduced partition hosts before after) (host : String) :
    (after.host host).cleared partition = (before.host host).cleared partition := by
  rw [Host.cleared, Host.cleared, reduced.otherFolders, reduced.otherObjects]

namespace Estate

open Fleet

namespace Dwindles

variable {raiseOnCall : Option Nat} {start : Estate} {earlier : List (Exchange Backend)}
  {host name : String}

theorem probed (dwindles : Dwindles raiseOnCall start earlier) {kind : Kind} {there : Bool}
    (found : ⟨.probe host kind name, .ok there⟩ ∈ earlier.map Exchange.reply) :
    ∃ after before, earlier = after ++ before ∧
      there = decide (name ∈ ((fleetAt raiseOnCall start before).host host).folders) := by
  obtain ⟨exchange, member, same⟩ := List.mem_map.mp found
  obtain ⟨after, before, rfl⟩ := List.append_of_mem member
  refine ⟨after ++ [exchange], before, by simp, ?_⟩
  have answered := dwindles.of_append.answered.1
  obtain ⟨_, _, query, answer⟩ := exchange
  cases same
  exact respond_probe answered.symm

theorem sameFrame (dwindles : Dwindles raiseOnCall start earlier) :
    SameFrame (fleetAt raiseOnCall start earlier) start.fleet := by
  induction earlier with
  | nil => exact .refl _
  | cons exchange earlier ih =>
      have whole : Dwindles raiseOnCall start ([exchange] ++ earlier) := dwindles
      refine .trans ?_ (ih whole.of_append)
      by_cases same : fleetAt raiseOnCall start (exchange :: earlier) =
        fleetAt raiseOnCall start earlier
      · rw [same]
        exact .refl _
      · obtain ⟨host, resource, -, removed⟩ := dwindles.serves.removed_of_ne
          (dwindles.calm exchange List.mem_cons_self) same
        rw [removed]
        exact removed_sameFrame _ _ _

end Dwindles

end Estate

theorem Teardown.Due.host_of_delete {host other partition : String} {resource : Resource}
    {seen : Trail Backend} (due : Due host partition seen (.delete other resource)) :
    other = host := by
  cases due <;> rfl

namespace Cleanup

open Fleet Teardown

namespace Orderly

variable {partition : String} {hosts : List String} {fine : Prop} {raiseOnCall : Option Nat}
  {start : Estate} {exchanges later earlier : List (Exchange Backend)}
  {exchange : Exchange Backend} {host : String}

theorem drainOrder_not_bearing : ∀ kind ∈ Kind.drainOrder, kind ∉ Kind.loadBearing := by decide

theorem bearing_kept (orderly : Orderly partition hosts fine raiseOnCall start exchanges)
    (cut : exchanges = later ++ earlier) {object : Placed}
    (there : object ∈ (start.fleet.host host).objects)
    (bears : object.resource.kind ∈ Kind.loadBearing) :
    object ∈ ((Estate.fleetAt raiseOnCall start earlier).host host).objects := by
  refine Classical.not_not.mp fun lost => ?_
  obtain ⟨after, exchange, before, rfl, had, gone⟩ :=
    Estate.exists_loss (fun fleet => object ∈ (fleet.host host).objects) there lost
  rw [← List.append_assoc] at cut
  have rest := cut.trans (List.append_cons _ exchange before)
  have dwindles := orderly.dwindles_of_cut cut
  have changed : Estate.fleetAt raiseOnCall start (exchange :: before) ≠
      Estate.fleetAt raiseOnCall start before := fun same => gone (same ▸ had)
  obtain ⟨other, resource, asked, removed⟩ := dwindles.serves.removed_of_ne
    (dwindles.calm exchange List.mem_cons_self) changed
  rw [removed] at gone
  obtain ⟨-, answers⟩ := Estate.answersTo_of_removed had gone
  rw [(Host.answersTo_iff.mp answers).1] at bears
  obtain ⟨own, -, seen, known, due⟩ := orderly.due cut
  rw [asked] at due
  cases due with
  | object drained listed found =>
      obtain ⟨shown, -, rfl, same, -⟩ := (orderly.dwindles_of_cut rest).of_mem_listed
        (known (Trail.mem_answers_iff.mpr listed)) found
      exact drainOrder_not_bearing _ (same ▸ drained) bears
  | routeDomain => simp [Resource.routeDomain, Kind.loadBearing] at bears
  | folder => simp [Resource.folder, Kind.loadBearing] at bears

theorem open_of_opening (orderly : Orderly partition hosts fine raiseOnCall start exchanges)
    (cut : exchanges = later ++ earlier) {domains : List Resource}
    (known : (opening host partition domains).answers ⊆ earlier.map Exchange.reply) :
    (start.fleet.host host).Open partition := by
  have dwindles := orderly.dwindles_of_cut cut
  constructor
  · obtain ⟨after, before, rfl, there⟩ :=
      dwindles.probed (known (Trail.mem_answers_iff.mpr (List.mem_cons_self)))
    have folder := of_decide_eq_true there.symm
    exact (dwindles.of_append.shrinks_start.folders host).subset folder
  · intro object member shown bears
    have listed : ⟨.list host object.resource.kind partition, .ok []⟩ ∈
        earlier.map Exchange.reply := by
      refine known (Trail.mem_answers_iff.mpr ?_)
      generalize object.resource.kind = kind at bears
      simp only [Kind.loadBearing, List.mem_cons, List.not_mem_nil, or_false] at bears
      obtain rfl | rfl := bears <;> simp [opening]
    obtain ⟨after, before, rfl, none⟩ := dwindles.listed listed
    have left := orderly.bearing_kept (cut.trans (List.append_assoc later after before).symm)
      member bears
    have seen := Host.mem_listing_iff.mpr ⟨object, left, rfl, rfl, shown⟩
    exact absurd (none ▸ seen) List.not_mem_nil

theorem open_of_changes (orderly : Orderly partition hosts fine raiseOnCall start exchanges)
    (cut : exchanges = later ++ exchange :: earlier) (changes : exchange.query.changes) :
    ∃ host ∈ hosts, (start.fleet.host host).Open partition ∧
      ∃ seen : Trail Backend, seen.answers ⊆ earlier.map Exchange.reply ∧
        Due host partition seen exchange.query := by
  obtain ⟨retry, host, member, ended, ⟨before, after, taken, early, -⟩, -⟩ :=
    orderly.made later exchange earlier cut
  have rest := cut.trans (List.append_cons later exchange earlier)
  obtain ⟨domains, later, same, -⟩ | gated := run_yields taken
  · obtain ⟨middle, rfl⟩ := prefix_of_changes (opening_reads domains) same.symm changes
    have opened : (opening host partition domains).answers ⊆ earlier.map Exchange.reply :=
      List.Subset.trans (Trail.answers_subset (List.subset_append_left _ _)) early
    exact ⟨host, member, orderly.open_of_opening rest opened, _, early, run_asks taken.asks⟩
  · have read := gated.reads (.asked exchange.query exchange.answer) (by simp)
    rw [Sight.changes, changes] at read
    cases read

/-- An exchange that changes the fleet is a deletion on an open host, and its time has come. -/
theorem deletion_of_change (orderly : Orderly partition hosts fine raiseOnCall start exchanges)
    (cut : exchanges = later ++ exchange :: earlier)
    (changed : Estate.fleetAt raiseOnCall start (exchange :: earlier) ≠
      Estate.fleetAt raiseOnCall start earlier) :
    ∃ host resource, (start.fleet.host host).Open partition ∧
      exchange.query = .delete host resource ∧
      Estate.fleetAt raiseOnCall start (exchange :: earlier) =
        Estate.removed (Estate.fleetAt raiseOnCall start earlier) host resource ∧
      ∃ seen : Trail Backend, seen.answers ⊆ earlier.map Exchange.reply ∧
        Due host partition seen (.delete host resource) := by
  have dwindles := orderly.dwindles_of_cut cut
  obtain ⟨host, resource, asked, removed⟩ := dwindles.serves.removed_of_ne
    (dwindles.calm exchange List.mem_cons_self) changed
  obtain ⟨other, -, isOpen, seen, known, due⟩ := orderly.open_of_changes cut (by rw [asked]; rfl)
  rw [asked] at due
  obtain rfl := due.host_of_delete
  exact ⟨host, resource, isOpen, asked, removed, seen, known, due⟩

theorem kept_of_not_open (orderly : Orderly partition hosts fine raiseOnCall start exchanges)
    (cut : exchanges = later ++ earlier) (shut : ¬ (start.fleet.host host).Open partition) :
    (Estate.fleetAt raiseOnCall start earlier).host host = start.fleet.host host := by
  refine Classical.not_not.mp fun lost => ?_
  obtain ⟨after, exchange, before, rfl, same, other⟩ :=
    Estate.exists_loss (fun later => later.host host = start.fleet.host host) rfl lost
  rw [← List.append_assoc] at cut
  have changed : Estate.fleetAt raiseOnCall start (exchange :: before) ≠
      Estate.fleetAt raiseOnCall start before := fun still => other (still ▸ same)
  obtain ⟨name, resource, isOpen, -, removed, -⟩ := orderly.deletion_of_change cut changed
  rw [removed, Estate.host_removed, if_neg] at other
  · exact other same
  · rintro rfl
    exact shut isOpen

/-- The folder goes last: once it is gone, so is all that may be removed. -/
theorem cleared_of_folder_gone (orderly : Orderly partition hosts fine raiseOnCall start exchanges)
    (own : start.fleet.ListsOwnOn partition hosts)
    (candid : ∀ turn ∈ (Estate.peer raiseOnCall).turns start exchanges, turn.Candid)
    (there : partition ∈ (start.fleet.host host).folders)
    (gone : partition ∉ ((Estate.fleetAt raiseOnCall start exchanges).host host).folders) :
    (Estate.fleetAt raiseOnCall start exchanges).host host =
      (start.fleet.host host).cleared partition := by
  have reduced := orderly.fleetAt_reduced_on own (List.nil_append exchanges).symm
  obtain ⟨after, exchange, before, cut, had, lost⟩ :=
    Estate.exists_loss (fun fleet => partition ∈ (fleet.host host).folders) there gone
  have lacks := (orderly.takes own cut).lacks_of_folder candid had lost
  have dwindles := orderly.dwindles
  rw [cut, List.append_cons] at dwindles
  have shrinks := dwindles.shrinks
  rw [← List.append_cons, ← cut] at shrinks
  refine ((reduced.cleared host).symm.trans (Host.cleared_of_lacks gone ?_)).symm
  intro object left
  have absent := lacks object ((shrinks.objects host).subset left)
  simp only [Placed.isRemovable, Bool.and_eq_false_imp, decide_eq_true_eq, decide_eq_false_iff_not]
  exact fun inside removable => absent inside (List.mem_append_right _ removable)

section

variable {retry : RetryPolicy} {trail : Trail Backend}

theorem open_of_removed (orderly : Orderly partition hosts fine raiseOnCall start exchanges)
    (succeeds : (Teardown.run retry host partition).Succeeds trail .removed)
    (known : trail.answers ⊆ exchanges.map Exchange.reply) :
    (start.fleet.host host).Open partition := by
  obtain ⟨domains, later, rfl, -⟩ | gated := run_yields succeeds
  · have opened : (opening host partition domains).answers ⊆ exchanges.map Exchange.reply :=
      List.Subset.trans (Trail.answers_subset (List.subset_append_left _ _)) known
    exact orderly.open_of_opening (List.nil_append exchanges).symm opened
  · cases gated

theorem folder_gone_of_removed (orderly : Orderly partition hosts fine raiseOnCall start exchanges)
    (candid : ∀ turn ∈ (Estate.peer raiseOnCall).turns start exchanges, turn.Candid)
    (succeeds : (Teardown.run retry host partition).Succeeds trail .removed)
    (known : trail.answers ⊆ exchanges.map Exchange.reply) :
    partition ∉ ((Estate.fleetAt raiseOnCall start exchanges).host host).folders := by
  obtain ⟨answer, gone, deleted⟩ := (run_succeeds_removed_iff.mp succeeds).folder
  have absent := orderly.dwindles.not_holds candid (isGone_iff.mp gone)
    (known (Trail.mem_answers_iff.mpr deleted))
  exact of_decide_eq_false absent

theorem folder_gone_of_absent (orderly : Orderly partition hosts fine raiseOnCall start exchanges)
    (succeeds : (Teardown.run retry host partition).Succeeds trail .absent)
    (known : trail.answers ⊆ exchanges.map Exchange.reply) :
    partition ∉ ((Estate.fleetAt raiseOnCall start exchanges).host host).folders := by
  obtain ⟨_, _, -, removes⟩ | gated := run_yields succeeds
  · cases removes _ rfl
  · cases gated with
    | absent =>
        have dwindles := orderly.dwindles
        obtain ⟨after, before, cut, there⟩ :=
          dwindles.probed (known (Trail.mem_answers_iff.mpr List.mem_cons_self))
        have missing := of_decide_eq_false there.symm
        rw [cut] at dwindles ⊢
        exact fun left => missing ((dwindles.shrinks.folders host).subset left)

theorem bears_of_notEmpty (orderly : Orderly partition hosts fine raiseOnCall start exchanges)
    (succeeds : (Teardown.run retry host partition).Succeeds trail .notEmpty)
    (known : trail.answers ⊆ exchanges.map Exchange.reply) :
    partition ∈ (start.fleet.host host).folders ∧ (start.fleet.host host).Bears partition := by
  have listed (kind : Kind) (bears : kind ∈ Kind.loadBearing) (first : Resource)
      (others : List Resource) (shown : .asked (.list host kind partition)
        (.ok (first :: others)) ∈ trail) : (start.fleet.host host).Bears partition := by
    obtain ⟨object, member, -, rfl, inside⟩ := orderly.dwindles.of_mem_listed
      (known (Trail.mem_answers_iff.mpr shown)) List.mem_cons_self
    exact ⟨object, member, inside, bears⟩
  have probed (found : .asked (.probe host .folder partition) (.ok true) ∈ trail) :
      partition ∈ (start.fleet.host host).folders := by
    have dwindles := orderly.dwindles
    obtain ⟨after, before, cut, there⟩ :=
      dwindles.probed (known (Trail.mem_answers_iff.mpr found))
    rw [cut] at dwindles
    exact (dwindles.of_append.shrinks_start.folders host).subset (of_decide_eq_true there.symm)
  obtain ⟨_, _, -, removes⟩ | gated := run_yields succeeds
  · cases removes _ rfl
  · cases gated with
    | addressesLeft domains address addresses =>
        exact ⟨probed (by simp), listed .virtualAddress (by decide) address addresses (by simp)⟩
    | nodesLeft domains node nodes =>
        exact ⟨probed (by simp), listed .node (by decide) node nodes (by simp)⟩

end

end Orderly

namespace Pass

variable {pass : Pass} {fleet : Fleet} {later earlier : List (Exchange Backend)}
  {exchange : Exchange Backend} {host : String}

theorem open_of_changes (cut : pass.exchanges fleet = later ++ exchange :: earlier)
    (changes : exchange.query.changes) :
    ∃ host ∈ pass.service.hosts, (fleet.host host).Open pass.partition ∧
      ∃ seen : Trail Backend, seen.answers ⊆ earlier.map Exchange.reply ∧
        Due host pass.partition seen exchange.query :=
  (pass.orderly fleet).open_of_changes cut changes

theorem deletion_of_change (cut : pass.exchanges fleet = later ++ exchange :: earlier)
    (changed : pass.fleetAt fleet (exchange :: earlier) ≠ pass.fleetAt fleet earlier) :
    ∃ host resource, (fleet.host host).Open pass.partition ∧
      exchange.query = .delete host resource ∧
      pass.fleetAt fleet (exchange :: earlier) =
        Estate.removed (pass.fleetAt fleet earlier) host resource ∧
      ∃ seen : Trail Backend, seen.answers ⊆ earlier.map Exchange.reply ∧
        Due host pass.partition seen (.delete host resource) :=
  (pass.orderly fleet).deletion_of_change cut changed

theorem reads_of_none_open
    (shut : ∀ host ∈ pass.service.hosts, ¬ (fleet.host host).Open pass.partition) :
    (∀ exchange ∈ pass.exchanges fleet, exchange.query.changes = false) ∧
      pass.fleetAfter fleet = fleet := by
  have reads : ∀ exchange ∈ pass.exchanges fleet, exchange.query.changes = false := by
    intro exchange member
    obtain ⟨later, earlier, cut⟩ := List.append_of_mem member
    refine Bool.eq_false_iff.mpr fun changes => ?_
    obtain ⟨host, inside, isOpen, -⟩ := open_of_changes cut changes
    exact shut host inside isOpen
  refine ⟨reads, ?_⟩
  rw [fleetAfter_eq]
  refine Classical.not_not.mp fun lost => ?_
  obtain ⟨after, exchange, before, cut, same, other⟩ := exists_loss (· = fleet) rfl lost
  have changed : pass.fleetAt fleet (exchange :: before) ≠ pass.fleetAt fleet before :=
    fun still => other (still.trans same)
  obtain ⟨_, _, -, asked, -⟩ := deletion_of_change cut changed
  have read := reads exchange (by simp [cut])
  rw [asked] at read
  cases read

end Pass

end Cleanup

end Tenancy
