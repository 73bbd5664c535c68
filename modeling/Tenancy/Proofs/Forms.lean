import Mathlib.Data.List.Perm.Basic
import Tenancy.Proofs.DeviceApi.Reading
import Tenancy.Proofs.Stored

/-!
What a record is read from. Of an object only the members that bear the names of fields matter, in
whatever order they stand and whatever stands beside them.
-/

namespace Tenancy

open Json (Field Layout Node)
open Json.Node (AreNamed Members Spells valuesOf)
open Json.Layout (valueOf? values?_object named_of_values?)

namespace Json.Layout

variable {layout : Layout} {fields : List Field} {members others : Members} {field : Field}

/-- The same members in another order, beside other ones of unknown names. -/
inductive Rearranged (layout : Layout) : Members → Members → Prop
  | permuted {members others : Members} (perm : members.Perm others) :
      Rearranged layout members others
  | inserted (before after : Members) {name : String} (unknown : layout.knows name = false)
      (value : Node) : Rearranged layout (before ++ after) (before ++ (some name, value) :: after)
  | removed (before after : Members) {name : String} (unknown : layout.knows name = false)
      (value : Node) : Rearranged layout (before ++ (some name, value) :: after) (before ++ after)
  | trans {members others further : Members} (first : Rearranged layout members others)
      (second : Rearranged layout others further) : Rearranged layout members further

theorem ne_of_unknown {name : String} (unknown : layout.knows name = false)
    (known : field ∈ layout.fields) : field.name ≠ name := by
  intro same
  have found : layout.knows name = true := List.any_eq_true.mpr ⟨field, known, by simpa using same⟩
  exact absurd (unknown.symm.trans found) Bool.false_ne_true

theorem valuesOf_insert {name other : String} (differ : other ≠ name) (before after : Members)
    (value : Node) :
    valuesOf other (before ++ (some name, value) :: after) = valuesOf other (before ++ after) := by
  have apart : ¬ some name = some other := fun same => differ (Option.some.inj same).symm
  simp [valuesOf, List.filter_append, apart]

theorem named_insert (before after : Members) (name : String) (value : Node) :
    AreNamed (before ++ (some name, value) :: after) ↔ AreNamed (before ++ after) := by
  simp [AreNamed, or_imp, forall_and]

theorem Rearranged.keeps (rearranged : Rearranged layout members others) :
    (AreNamed others ↔ AreNamed members) ∧
      ∀ field ∈ layout.fields, (valuesOf field.name others).Perm (valuesOf field.name members) := by
  induction rearranged with
  | permuted perm =>
      refine ⟨⟨fun named member known => named member (perm.subset known),
        fun named member known => named member (perm.symm.subset known)⟩, fun field _ => ?_⟩
      exact ((perm.filter _).map _).symm
  | inserted before after unknown value =>
      refine ⟨named_insert before after _ value, fun field known => ?_⟩
      rw [valuesOf_insert (ne_of_unknown unknown known)]
  | removed before after unknown value =>
      refine ⟨(named_insert before after _ value).symm, fun field known => ?_⟩
      rw [valuesOf_insert (ne_of_unknown unknown known)]
  | trans _ _ first second =>
      exact ⟨second.1.trans first.1, fun field known =>
        (second.2 field known).trans (first.2 field known)⟩

theorem valueOf?_perm (perm : (valuesOf field.name others).Perm (valuesOf field.name members)) :
    valueOf? others field = valueOf? members field := by
  unfold valueOf?
  generalize valuesOf field.name others = values at perm
  match hown : valuesOf field.name members, perm with
  | [], perm => rw [perm.eq_nil]
  | [value], perm => rw [List.perm_singleton.mp perm]
  | first :: second :: rest, perm =>
      match values, perm.length_eq with
      | _ :: _ :: _, _ => rfl

theorem mapM_congr {read other : Field → Option (Option Node)}
    (same : ∀ field ∈ fields, read field = other field) : fields.mapM read = fields.mapM other := by
  induction fields with
  | nil => rfl
  | cons field fields ih =>
      obtain ⟨first, rest⟩ := List.forall_mem_cons.mp same
      rw [List.mapM_cons, List.mapM_cons, first, ih rest]

theorem map_mapM_congr {read other : Field → Option (Option Node)}
    {complete : Option Node → Option Node}
    (same : ∀ field ∈ fields, (read field).map complete = (other field).map complete) :
    (fields.mapM read).map (List.map complete) = (fields.mapM other).map (List.map complete) := by
  induction fields with
  | nil => rfl
  | cons field fields ih =>
      obtain ⟨first, rest⟩ := List.forall_mem_cons.mp same
      have parts (read : Field → Option (Option Node)) :
          ((field :: fields).mapM read).map (List.map complete) =
            ((read field).map complete).bind fun value =>
              ((fields.mapM read).map (List.map complete)).map (value :: ·) := by
        rw [List.mapM_cons]
        cases read field <;> cases fields.mapM read <;> rfl
      rw [parts read, parts other, first, ih rest]

theorem mapM_eq_none {read : Field → Option (Option Node)} (known : field ∈ fields)
    (refused : read field = none) : fields.mapM read = none := by
  induction fields with
  | nil => cases known
  | cons first fields ih =>
      rw [List.mapM_cons]
      obtain rfl | later := List.mem_cons.mp known
      · rw [refused]
        rfl
      · rw [ih later]
        cases read first <;> rfl

theorem values?_unnamed (unnamed : ¬ AreNamed members) :
    layout.values? (.object members) = none := by
  by_contra some
  obtain ⟨values, read⟩ := Option.ne_none_iff_exists'.mp some
  exact unnamed (named_of_values? read)

theorem values?_rearranged (isOpen : layout.closed = false) (rearranged : Rearranged layout members others) :
    layout.values? (.object others) = layout.values? (.object members) := by
  obtain ⟨names, same⟩ := rearranged.keeps
  by_cases named : AreNamed members
  · rw [values?_object isOpen named, values?_object isOpen (names.mpr named)]
    exact mapM_congr fun field known => valueOf?_perm (same field known)
  · rw [values?_unnamed named, values?_unnamed (mt names.mp named)]

theorem values?_refused (isOpen : layout.closed = false) (known : field ∈ layout.fields)
    (refused : valueOf? members field = none) : layout.values? (.object members) = none := by
  by_cases named : AreNamed members
  · rw [values?_object isOpen named, mapM_eq_none known refused]
  · exact values?_unnamed named

theorem valueOf?_repeated (repeated : 2 ≤ (valuesOf field.name members).length) :
    valueOf? members field = none := by
  unfold valueOf?
  split
  next absent => simp [absent] at repeated
  next single => simp [single] at repeated
  next => rfl

theorem valueOf?_missing (missing : valuesOf field.name members = []) :
    valueOf? members field = if field.optional then some none else none := by
  rw [valueOf?, missing]

theorem valuesOf_cons (name other : String) (value : Node) (members : Members) :
    valuesOf other ((some name, value) :: members) =
      if name = other then value :: valuesOf other members else valuesOf other members := by
  by_cases same : name = other <;> simp [valuesOf, same]

def drop (name : String) (members : Members) : Members := members.filter (·.1 ≠ some name)

theorem named_drop {name : String} (named : AreNamed members) : AreNamed (drop name members) :=
  fun member known => named member (List.mem_filter.mp known).1

theorem valuesOf_drop (name other : String) (members : Members) :
    valuesOf other (drop name members) = if name = other then [] else valuesOf other members := by
  simp only [valuesOf, drop, List.filter_filter]
  split
  next same =>
    subst same
    simp
  next differ =>
    congr 1
    refine List.filter_congr fun member _ => ?_
    by_cases own : member.1 = some other
    · simp [own, Ne.symm differ]
    · simp [own]

theorem mapM_drop {name : String} (optional : ∀ field ∈ fields, field.name = name → field.optional)
    {values : List (Option Node)} (read : fields.mapM (valueOf? members) = some values) :
    fields.mapM (valueOf? (drop name members)) = some
      (fields.zipWith (fun field value => if field.name = name then none else value) values) := by
  induction fields generalizing values with
  | nil => rfl
  | cons field fields ih =>
      obtain ⟨own, others⟩ := List.forall_mem_cons.mp optional
      simp only [List.mapM_cons, Option.bind_eq_bind, Option.bind_eq_some_iff, Option.pure_def,
        Option.some.injEq] at read
      obtain ⟨value, first, values, rest, rfl⟩ := read
      have dropped := valuesOf_drop name field.name members
      have first : valueOf? (drop name members) field =
          some (if field.name = name then none else value) := by
        by_cases same : field.name = name
        · rw [if_pos same.symm] at dropped
          rw [valueOf?_missing dropped, if_pos (own same), if_pos same]
        · rw [if_neg (Ne.symm same)] at dropped
          rw [valueOf?, dropped, if_neg same]
          exact first
      rw [List.mapM_cons, first, ih others rest]
      rfl

def listing (fields : List Field) (values : List Node) : Members :=
  fields.zipWith (fun field value => (some field.name, value)) values

theorem valuesOf_listing {name : String} (unknown : name ∉ fields.map (·.name))
    (values : List Node) : valuesOf name (listing fields values) = [] := by
  induction fields generalizing values with
  | nil => rfl
  | cons field fields ih =>
      cases values with
      | nil => rfl
      | cons value values =>
          rw [List.map_cons, List.mem_cons, not_or] at unknown
          rw [listing, List.zipWith_cons_cons, valuesOf_cons, if_neg (Ne.symm unknown.1)]
          exact ih unknown.2 values

theorem mapM_listing (distinct : (fields.map (·.name)).Nodup) {values : List Node}
    (all : values.length = fields.length) :
    fields.mapM (valueOf? (listing fields values)) = some (values.map some) := by
  induction fields generalizing values with
  | nil =>
      rw [List.length_eq_zero_iff.mp all]
      rfl
  | cons field fields ih =>
      match values, all with
      | value :: values, all =>
          obtain ⟨fresh, distinct⟩ := List.nodup_cons.mp distinct
          have rest := ih distinct (Nat.succ.inj all)
          have first : valueOf? (listing (field :: fields) (value :: values)) field =
              some (some value) := by
            rw [valueOf?, listing, List.zipWith_cons_cons, valuesOf_cons, if_pos rfl]
            exact valuesOf_listing fresh values ▸ rfl
          have others : ∀ other ∈ fields,
              valueOf? (listing (field :: fields) (value :: values)) other =
                valueOf? (listing fields values) other := by
            intro other known
            have differ : field.name ≠ other.name := fun same =>
              fresh (List.mem_map.mpr ⟨other, known, same.symm⟩)
            rw [valueOf?, listing, List.zipWith_cons_cons, valuesOf_cons, if_neg differ]
            rfl
          rw [List.mapM_cons, first, mapM_congr others, rest]
          rfl

theorem named_listing (fields : List Field) (values : List Node) :
    AreNamed (listing fields values) := by
  induction fields generalizing values with
  | nil => exact nofun
  | cons field fields ih =>
      cases values with
      | nil => exact nofun
      | cons value values => exact List.forall_mem_cons.mpr ⟨rfl, ih values⟩

theorem fromItems?_all {values : List Node} (all : values.length = fields.length) :
    fromItems? fields values = some (values.map some) := by
  induction fields generalizing values with
  | nil =>
      rw [List.length_eq_zero_iff.mp all]
      rfl
  | cons field fields ih =>
      match values, all with
      | value :: values, all =>
          rw [fromItems?, ih (Nat.succ.inj all)]
          rfl

end Json.Layout

inductive Form
  | appliance
  | resource
  | service
  | retry
  | settings
  | item
  | collection
  deriving DecidableEq

namespace Form

abbrev Value : Form → Type
  | appliance => Appliance
  | resource => Resource
  | service => Service
  | retry => RetryPolicy
  | settings => Settings
  | item => DeviceApi.Item
  | collection => List DeviceApi.Item

def layout : Form → Layout
  | appliance => Appliance.layout
  | resource => Resource.layout
  | service => Service.layout
  | retry => RetryPolicy.layout
  | settings => Settings.layout
  | item => DeviceApi.Item.layout
  | collection => ⟨[⟨"items", true⟩], false⟩

def ofNode? : (form : Form) → Node → Option form.Value
  | appliance => Appliance.ofNode?
  | resource => Resource.ofNode?
  | service => Service.ofNode?
  | retry => RetryPolicy.ofNode?
  | settings => Settings.ofNode?
  | item => DeviceApi.Item.ofNode?
  | collection => DeviceApi.itemsOfNode?

def omittable : List (Form × String) :=
  [(resource, "tag"), (service, "traffic_group"), (item, "partition"), (item, "tag"),
    (collection, "items")]

def filler : Form → Node
  | collection => .array []
  | _ => .null

theorem layout_open (form : Form) : form.layout.closed = false := by
  cases form <;> rfl

def fill (form : Form) (values : List (Option Node)) : List (Option Node) :=
  values.map (·.or (some form.filler))

def without (form : Form) (name : String) (values : List (Option Node)) : List (Option Node) :=
  form.layout.fields.zipWith (fun field value => if field.name = name then none else value) values

structure Builds (form : Form) (build? : List (Option Node) → Option form.Value) : Prop where
  built (node : Node) : form.ofNode? node = (form.layout.values? node).bind build?
  filled (values : List (Option Node)) : build? (form.fill values) = build? values
  omitted {name : String} (omittable : (form, name) ∈ omittable) {values : List (Option Node)}
    (accepted : (build? values).isSome) : (build? (form.without name values)).isSome

section

theorem appliance_builds : ∃ build?, Builds appliance build? := by
  refine ⟨_, fun node => rfl, fun values => ?_, fun known => by simp [omittable] at known⟩
  rcases values with _ | ⟨_ | hostname, _ | ⟨other, values⟩⟩ <;> rfl

theorem resource_builds : ∃ build?, Builds resource build? := by
  refine ⟨_, fun node => rfl, fun values => ?_, fun {name} known values accepted => ?_⟩
  · rcases values with _ | ⟨_ | kind, _ | ⟨_ | name, _ | ⟨_ | partition, _ | ⟨_ | tag,
      _ | ⟨other, values⟩⟩⟩⟩⟩ <;> first
        | rfl
        | simp [fill, filler, Kind.ofNode?, Node.text?, optionalField?, Node.optional?]
  · obtain rfl : name = "tag" := by simpa [omittable] using known
    split at accepted
    next kind name partition tag =>
      obtain ⟨record, read⟩ := Option.isSome_iff_exists.mp accepted
      simp only [Option.bind_eq_bind, Option.bind_eq_some_iff] at read
      obtain ⟨_, kind, _, name, _, partition, -⟩ := read
      simp [without, layout, Resource.layout, kind, name, partition, optionalField?]
    next => cases accepted

theorem service_builds : ∃ build?, Builds service build? := by
  refine ⟨_, fun node => rfl, fun values => ?_, fun {name} known values accepted => ?_⟩
  · rcases values with _ | ⟨_ | tenant, _ | ⟨_ | group, _ | ⟨_ | appliances,
      _ | ⟨other, values⟩⟩⟩⟩ <;> first
        | rfl
        | simp [fill, filler, Node.text?, Node.items?, optionalField?, Node.optional?]
  · obtain rfl : name = "traffic_group" := by simpa [omittable] using known
    split at accepted
    next tenant group appliances =>
      obtain ⟨record, read⟩ := Option.isSome_iff_exists.mp accepted
      simp only [Option.bind_eq_bind, Option.bind_eq_some_iff] at read
      obtain ⟨_, tenant, _, -, _, listed, _, appliances, -⟩ := read
      simp [without, layout, Service.layout, tenant, listed, appliances, optionalField?]
    next => cases accepted

theorem retry_builds : ∃ build?, Builds retry build? := by
  refine ⟨_, fun node => rfl, fun values => ?_, fun known => by simp [omittable] at known⟩
  rcases values with _ | ⟨_ | attempts, _ | ⟨_ | interval, _ | ⟨other, values⟩⟩⟩ <;> first
    | rfl
    | simp [fill, filler, Span.ofNode?, Layout.values?, Node.natBelow?]

theorem settings_builds : ∃ build?, Builds settings build? := by
  refine ⟨_, fun node => rfl, fun values => ?_, fun known => by simp [omittable] at known⟩
  rcases values with _ | ⟨_ | group, _ | ⟨_ | retry, _ | ⟨other, values⟩⟩⟩ <;> first
    | rfl
    | simp [fill, filler, RetryPolicy.ofNode?, Layout.values?, Node.text?]

theorem item_builds : ∃ build?, Builds item build? := by
  refine ⟨_, fun node => rfl, fun values => ?_, fun {name} known values accepted => ?_⟩
  · rcases values with _ | ⟨_ | name, _ | ⟨_ | partition, _ | ⟨_ | tag,
      _ | ⟨other, values⟩⟩⟩⟩ <;> rfl
  · have known : name = "partition" ∨ name = "tag" := by simpa [omittable] using known
    split at accepted
    next own partition tag =>
      obtain ⟨record, read⟩ := Option.isSome_iff_exists.mp accepted
      simp only [Option.bind_eq_bind, Option.bind_eq_some_iff] at read
      obtain ⟨_, own, _, partition, _, tag, -⟩ := read
      obtain rfl | rfl := known
      · have absent : optionalField? Node.text? none = some none := rfl
        simp [without, layout, DeviceApi.Item.layout, own, absent, tag]
      · have absent : optionalField? tagOfNode? none = some none := rfl
        simp [without, layout, DeviceApi.Item.layout, own, partition, absent]
    next => cases accepted

theorem collection_builds : ∃ build?, Builds collection build? := by
  refine ⟨_, fun node => rfl, fun values => ?_, fun {name} known values accepted => ?_⟩
  · rcases values with _ | ⟨_ | items, _ | ⟨other, values⟩⟩ <;> rfl
  · obtain rfl : name = "items" := by simpa [omittable] using known
    rcases values with _ | ⟨_ | items, _ | ⟨other, values⟩⟩
    · cases accepted
    · simp [without, layout]
    · cases accepted
    · simp [without, layout]
    · cases accepted

theorem exists_build (form : Form) : ∃ build?, Builds form build? := by
  cases form with
  | appliance => exact appliance_builds
  | resource => exact resource_builds
  | service => exact service_builds
  | retry => exact retry_builds
  | settings => exact settings_builds
  | item => exact item_builds
  | collection => exact collection_builds

end

variable {form : Form} {members others : Members} {field : Field} {name : String}

theorem omittable_iff (known : field ∈ form.layout.fields) :
    (form, field.name) ∈ omittable ↔ field.optional := by
  revert known field
  cases form <;> decide

theorem distinct (form : Form) : (form.layout.fields.map (·.name)).Nodup := by
  cases form <;> decide

theorem ofNode?_congr {node other : Node}
    (same : (form.layout.values? node).map form.fill = (form.layout.values? other).map form.fill) :
    form.ofNode? node = form.ofNode? other := by
  obtain ⟨build?, builds⟩ := exists_build form
  have filled (node : Node) :
      form.ofNode? node = ((form.layout.values? node).map form.fill).bind build? := by
    rw [builds.built]
    cases form.layout.values? node with
    | none => rfl
    | some values => exact (builds.filled values).symm
  rw [filled, filled, same]

theorem ofNode?_refused (known : field ∈ form.layout.fields)
    (refused : valueOf? members field = none) : form.ofNode? (.object members) = none := by
  obtain ⟨build?, builds⟩ := exists_build form
  rw [builds.built, Layout.values?_refused form.layout_open known refused, Option.bind_none]

theorem values?_filled (omitted : (form, name) ∈ omittable) (missing : valuesOf name members = []) :
    (form.layout.values? (.object members)).map form.fill =
      (form.layout.values? (.object ((some name, form.filler) :: members))).map form.fill := by
  by_cases named : AreNamed members
  · have namedToo : AreNamed ((some name, form.filler) :: members) :=
      List.forall_mem_cons.mpr ⟨rfl, named⟩
    rw [values?_object form.layout_open named, values?_object form.layout_open namedToo]
    refine Layout.map_mapM_congr fun field known => ?_
    have values := Layout.valuesOf_cons name field.name form.filler members
    by_cases same : name = field.name
    · subst same
      rw [if_pos rfl, missing] at values
      rw [Layout.valueOf?_missing missing, if_pos ((omittable_iff known).mp omitted), valueOf?,
        values]
      rfl
    · rw [if_neg same] at values
      rw [valueOf?, valueOf?, values]
  · have unnamed : ¬ AreNamed ((some name, form.filler) :: members) :=
      fun all => named (List.forall_mem_cons.mp all).2
    rw [Layout.values?_unnamed named, Layout.values?_unnamed unnamed]

theorem ofNode?_omitted (omitted : (form, name) ∈ omittable)
    (accepted : (form.ofNode? (.object members)).isSome) :
    (form.ofNode? (.object (Layout.drop name members))).isSome := by
  obtain ⟨build?, builds⟩ := exists_build form
  rw [builds.built] at accepted ⊢
  obtain ⟨record, read⟩ := Option.isSome_iff_exists.mp accepted
  obtain ⟨values, given, built⟩ := Option.bind_eq_some_iff.mp read
  have named := named_of_values? given
  rw [values?_object form.layout_open named] at given
  have optional : ∀ field ∈ form.layout.fields, field.name = name → field.optional := by
    rintro field known rfl
    exact (omittable_iff known).mp omitted
  rw [values?_object form.layout_open (Layout.named_drop named), Layout.mapM_drop optional given,
    Option.bind_some]
  exact builds.omitted omitted (by rw [built]; rfl)

theorem ofNode?_listed {values : List Node} (all : values.length = form.layout.fields.length)
    (rearranged : Layout.Rearranged form.layout (Layout.listing form.layout.fields values) members) :
    form.ofNode? (.object members) = form.ofNode? (.array values) := by
  refine ofNode?_congr (congrArg _ ?_)
  rw [Layout.values?_rearranged form.layout_open rearranged,
    values?_object form.layout_open (Layout.named_listing _ _),
    Layout.mapM_listing form.distinct all, Layout.values?, Layout.fromItems?_all all]

def decode? (form : Form) (text : List UInt8) : Option form.Value :=
  Tenancy.decode? form.ofNode? text

theorem decode?_spelled {text : List UInt8} {node : Node} (spelled : Spells text node) :
    form.decode? text = form.ofNode? node := by
  rw [decode?, Tenancy.decode?, Json.Node.read?_of_spells spelled, Option.bind_some]

/-- How a text of an object decodes. It does not matter what is written for a member of unknown name,
nor how the members are spelled and ordered. -/
structure ReadsFields (form : Form) : Prop where
  rearranged {text other : List UInt8} {members others : Members}
    (spelled : Spells text (.object members)) (spelledToo : Spells other (.object others))
    (rearranged : Layout.Rearranged form.layout members others) :
    form.decode? other = form.decode? text
  unnamed {text : List UInt8} {members : Members} (spelled : Spells text (.object members))
    (unnamed : ¬ AreNamed members) : form.decode? text = none
  repeated {text : List UInt8} {members : Members} (spelled : Spells text (.object members))
    {field : Field} (known : field ∈ form.layout.fields)
    (repeated : 2 ≤ (valuesOf field.name members).length) : form.decode? text = none
  required {text : List UInt8} {members : Members} (spelled : Spells text (.object members))
    {field : Field} (known : field ∈ form.layout.fields)
    (kept : (form, field.name) ∉ omittable) (missing : valuesOf field.name members = []) :
    form.decode? text = none
  omitted {text shorter : List UInt8} {members : Members} {name : String}
    (omitted : (form, name) ∈ omittable) (spelled : Spells text (.object members))
    (spelledToo : Spells shorter (.object (Layout.drop name members)))
    (accepted : (form.decode? text).isSome) : (form.decode? shorter).isSome
  filled {text longer : List UInt8} {members : Members} {name : String}
    (omitted : (form, name) ∈ omittable) (spelled : Spells text (.object members))
    (missing : valuesOf name members = [])
    (spelledToo : Spells longer (.object ((some name, form.filler) :: members))) :
    form.decode? text = form.decode? longer
  listed {text row : List UInt8} {members : Members} {values : List Node}
    (spelled : Spells text (.object members)) (spelledToo : Spells row (.array values))
    (all : values.length = form.layout.fields.length)
    (rearranged : Layout.Rearranged form.layout
      (Layout.listing form.layout.fields values) members) : form.decode? text = form.decode? row

/-- Decoding depends on the members of known names only. -/
theorem reads_fields (form : Form) : ReadsFields form := by
  constructor
  case rearranged =>
    intro text other members others spelled spelledToo rearranged
    rw [decode?_spelled spelled, decode?_spelled spelledToo]
    exact ofNode?_congr (congrArg _ (Layout.values?_rearranged form.layout_open rearranged))
  case unnamed =>
    intro text members spelled unnamed
    obtain ⟨build?, builds⟩ := exists_build form
    rw [decode?_spelled spelled, builds.built, Layout.values?_unnamed unnamed, Option.bind_none]
  case repeated =>
    intro text members spelled field known repeated
    rw [decode?_spelled spelled]
    exact ofNode?_refused known (Layout.valueOf?_repeated repeated)
  case required =>
    intro text members spelled field known kept missing
    rw [decode?_spelled spelled]
    refine ofNode?_refused known ?_
    rw [Layout.valueOf?_missing missing, if_neg (mt (omittable_iff known).mpr kept)]
  case omitted =>
    intro text shorter members name omitted spelled spelledToo accepted
    rw [decode?_spelled spelled] at accepted
    rw [decode?_spelled spelledToo]
    exact ofNode?_omitted omitted accepted
  case filled =>
    intro text longer members name omitted spelled missing spelledToo
    rw [decode?_spelled spelled, decode?_spelled spelledToo]
    exact ofNode?_congr (values?_filled omitted missing)
  case listed =>
    intro text row members values spelled spelledToo all rearranged
    rw [decode?_spelled spelled, decode?_spelled spelledToo]
    exact ofNode?_listed all rearranged

example : item.decode?
    "\x7b\"x\":[1e999,\"\\ud800\"],\"tag\":7,\"\\u0078\":\x7b\x7d,\"name\":\"n\"\x7d".toUTF8.toList =
      some ⟨"n", none, some 7⟩ := by
  cbv

end Form

end Tenancy
