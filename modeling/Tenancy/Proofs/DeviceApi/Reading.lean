import Mathlib.Data.List.Forall2
import Tenancy.DeviceApi

/-!
What a body says. A record is read from the members of an object that bear the names of its fields,
whatever stands beside them, or from an array of its fields.
-/

namespace Tenancy

open Json (Field Layout Node)

namespace Json.Node

abbrev Members := List (Option String × Node)

def valuesOf (name : String) (members : Members) : List Node :=
  (members.filter (·.1 = some name)).map (·.2)

def AreNamed (members : Members) : Prop := ∀ member ∈ members, member.1.isSome

inductive Agree (names : List String) : Node → Node → Prop
  | intro {members others} (named : AreNamed members) (namedToo : AreNamed others)
      (same : ∀ name ∈ names, valuesOf name members = valuesOf name others) :
      Agree names (.object members) (.object others)

theorem filter_named {members : Members} (named : AreNamed members) (name : String) :
    ((members.map fun member => (member.1.getD "", member.2)).filter (·.1 == name)).map (·.2) =
      valuesOf name members := by
  induction members with
  | nil => rfl
  | cons member members ih =>
      obtain ⟨known, named⟩ := List.forall_mem_cons.mp named
      obtain ⟨own, same⟩ := Option.isSome_iff_exists.mp known
      have rest := ih named
      rw [valuesOf] at rest ⊢
      simp only [List.map_cons, List.filter_cons, same, Option.getD_some, beq_iff_eq,
        Option.some.injEq, decide_eq_true_eq]
      split
      · rw [List.map_cons, List.map_cons, rest]
      · exact rest

theorem mapM_named {members : Members} (named : AreNamed members) :
    (members.mapM fun member => member.1.map (·, member.2)) =
      some (members.map fun member => (member.1.getD "", member.2)) := by
  induction members with
  | nil => rfl
  | cons member members ih =>
      obtain ⟨known, named⟩ := List.forall_mem_cons.mp named
      obtain ⟨own, same⟩ := Option.isSome_iff_exists.mp known
      rw [List.mapM_cons, ih named, same, List.map_cons, same]
      rfl

end Json.Node

open Json.Node (Agree AreNamed Members valuesOf)

namespace Json.Layout

def valueOf? (members : Members) (field : Field) : Option (Option Node) :=
  match valuesOf field.name members with
  | [] => if field.optional then some none else none
  | [value] => some (some value)
  | _ => none

theorem valueOf?_eq_some_iff {members : Members} {field : Field} {value : Option Node} :
    valueOf? members field = some value ↔
      valuesOf field.name members = value.toList ∧ (value = none → field.optional) := by
  unfold valueOf?
  split
  next absent =>
    rw [absent]
    cases value <;> simp
  next node one =>
    rw [one]
    cases value with
    | none => simp
    | some own => simp only [Option.some.injEq, Option.toList_some, List.cons.injEq, and_true,
        reduceCtorEq, false_imp_iff]
  next many repeated =>
    refine ⟨nofun, fun ⟨same, _⟩ => ?_⟩
    cases value with
    | none => exact absurd same many
    | some node => exact absurd same (repeated node)

theorem values?_object {layout : Layout} (isOpen : layout.closed = false) {members : Members}
    (named : AreNamed members) :
    layout.values? (.object members) = layout.fields.mapM (valueOf? members) := by
  have read : layout.values? (.object members) = fromMembers? layout.fields
      (members.map fun member => (member.1.getD "", member.2)) := by
    simp only [values?, Json.Node.mapM_named named, isOpen, Bool.false_and, Bool.false_eq_true,
      if_false, Option.bind_eq_bind, Option.bind_some]
  rw [read, fromMembers?]
  simp only [Json.Node.filter_named named]
  rfl

theorem named_of_values? {layout : Layout} {members : Members} {values : List (Option Node)}
    (read : layout.values? (.object members) = some values) : AreNamed members := by
  obtain ⟨named, known, -⟩ := Option.bind_eq_some_iff.mp read
  clear read
  induction members generalizing named with
  | nil => exact nofun
  | cons member members ih =>
      simp only [List.mapM_cons, Option.bind_eq_bind, Option.bind_eq_some_iff] at known
      obtain ⟨_, first, rest, others, -⟩ := known
      rw [Option.map_eq_some_iff] at first
      obtain ⟨own, same, -⟩ := first
      exact List.forall_mem_cons.mpr ⟨by rw [same]; rfl, ih rest others⟩

theorem mapM_valueOf?_congr {fields : List Field} {members others : Members}
    (same : ∀ name ∈ fields.map (·.name), valuesOf name members = valuesOf name others) :
    fields.mapM (valueOf? members) = fields.mapM (valueOf? others) := by
  induction fields with
  | nil => rfl
  | cons field fields ih =>
      obtain ⟨first, rest⟩ := List.forall_mem_cons.mp same
      have own : valueOf? members field = valueOf? others field := by
        rw [valueOf?, valueOf?, first]
      rw [List.mapM_cons, List.mapM_cons, own, ih rest]

theorem values?_congr {layout : Layout} (isOpen : layout.closed = false) {node other : Node}
    (agree : Agree (layout.fields.map (·.name)) node other) :
    layout.values? node = layout.values? other := by
  obtain ⟨named, namedToo, same⟩ := agree
  rw [values?_object isOpen named, values?_object isOpen namedToo, mapM_valueOf?_congr same]

end Json.Layout

namespace DeviceApi

inductive Given {τ : Type} (reads : Node → τ → Prop) : List Node → Option τ → Prop
  | missing : Given reads [] none
  | null : Given reads [.null] none
  | value {node value} (read : reads node value) : Given reads [node] (some value)

def IsText (node : Node) (text : String) : Prop := node = .string (some text)

def IsTag (node : Node) (tag : UInt16) : Prop :=
  ∃ digits, node = .number digits ∧ digits.all Char.isDigit ∧
    Nat.ofDigitChars 10 digits 0 = tag.toNat

inductive IsItem : Node → Item → Prop
  | object {members item} (named : AreNamed members)
      (name : valuesOf "name" members = [.string (some item.name)])
      (partition : Given IsText (valuesOf "partition" members) item.partition)
      (tag : Given IsTag (valuesOf "tag" members) item.tag) : IsItem (.object members) item
  | array {partition tag item} (partitioned : Given IsText partition item.partition)
      (tagged : Given IsTag tag item.tag) (ordered : partition = [] → tag = []) :
      IsItem (.array (.string (some item.name) :: partition ++ tag)) item

/-- What is said of the items of a collection. They may be left out, but not be null. -/
inductive Holds : List Node → List Item → Prop
  | missing : Holds [] []
  | listed {nodes items} (shown : List.Forall₂ IsItem nodes items) : Holds [.array nodes] items

inductive IsCollection : Node → List Item → Prop
  | object {members items} (named : AreNamed members)
      (held : Holds (valuesOf "items" members) items) : IsCollection (.object members) items
  | array {values items} (held : Holds values items) : IsCollection (.array values) items

theorem optional?_of_ne_null {τ : Type} {decode : Node → Option τ} {node : Node}
    (other : node ≠ .null) : node.optional? decode = (decode node).map some := by
  cases node with
  | null => exact absurd rfl other
  | _ => rfl

theorem given_iff {τ : Type} {decode : Node → Option τ} {reads : Node → τ → Prop}
    (known : ∀ node value, decode node = some value ↔ reads node value)
    (empty : decode .null = none) (field : Option Node) (value : Option τ) :
    optionalField? decode field = some value ↔ Given reads field.toList value := by
  constructor
  · intro read
    cases field with
    | none =>
        obtain rfl := Option.some.inj read
        exact .missing
    | some node =>
        rw [optionalField?] at read
        by_cases null : node = .null
        · subst null
          obtain rfl := Option.some.inj read
          exact .null
        · rw [optional?_of_ne_null null] at read
          obtain ⟨own, decoded, rfl⟩ := Option.map_eq_some_iff.mp read
          exact .value ((known node own).mp decoded)
  · intro given
    generalize same : field.toList = nodes at given
    cases given with
    | missing =>
        obtain rfl := Option.toList_eq_nil_iff.mp same
        rfl
    | null =>
        obtain rfl := Option.toList_eq_singleton_iff.mp same
        rfl
    | @value node own read =>
        obtain rfl := Option.toList_eq_singleton_iff.mp same
        have decoded := (known node own).mpr read
        have other : node ≠ .null := by
          rintro rfl
          cases empty.symm.trans decoded
        rw [optionalField?, optional?_of_ne_null other, decoded, Option.map_some]

theorem Given.exists_field {τ : Type} {reads : Node → τ → Prop} {nodes : List Node}
    {value : Option τ} (given : Given reads nodes value) :
    ∃ field : Option Node, nodes = field.toList := by
  cases given with
  | missing => exact ⟨none, rfl⟩
  | null => exact ⟨some .null, rfl⟩
  | value => exact ⟨some _, rfl⟩

theorem text?_iff (node : Node) (text : String) : node.text? = some text ↔ IsText node text := by
  unfold IsText
  cases node <;> simp [Node.text?]

theorem tagOfNode?_iff (node : Node) (tag : UInt16) :
    tagOfNode? node = some tag ↔ IsTag node tag := by
  constructor
  · intro read
    obtain ⟨number, small, rfl⟩ := Option.map_eq_some_iff.mp read
    unfold Node.natBelow? at small
    split at small
    next digits =>
      simp only [Option.ite_none_right_eq_some, Option.some.injEq] at small
      obtain ⟨plain, below, rfl⟩ := small
      exact ⟨digits, rfl, plain, (UInt16.toNat_ofNat_of_lt' below).symm⟩
    next => cases small
  · rintro ⟨digits, rfl, plain, value⟩
    have small : (Node.number digits).natBelow? UInt16.size = some tag.toNat := by
      have value : digits.foldl (fun value digit => 10 * value + (digit.toNat - 48)) 0 =
          tag.toNat := value
      rw [Node.natBelow?, if_pos plain, value]
      exact if_pos tag.toNat_lt
    rw [tagOfNode?, small, Option.map_some, UInt16.ofNat_toNat]

theorem fromItems?_iff {items : List Node} {name partition tag : Option Node} :
    Layout.fromItems? Item.layout.fields items = some [name, partition, tag] ↔
      ∃ node, name = some node ∧ items = node :: partition.toList ++ tag.toList ∧
        (partition = none → tag = none) := by
  constructor
  · intro read
    match items with
    | [] => cases read
    | [first] =>
        cases read
        exact ⟨first, rfl, rfl, fun _ => rfl⟩
    | [first, second] =>
        cases read
        exact ⟨first, rfl, rfl, nofun⟩
    | [first, second, third] =>
        cases read
        exact ⟨first, rfl, rfl, nofun⟩
    | first :: second :: third :: fourth :: rest => cases read
  · rintro ⟨node, rfl, rfl, ordered⟩
    match partition, tag with
    | none, none => rfl
    | none, some tag => cases ordered rfl
    | some partition, none => rfl
    | some partition, some tag => rfl

theorem ofNode?_eq_some_iff {node : Node} {item : Item} :
    Item.ofNode? node = some item ↔ ∃ partition tag,
      Item.layout.values? node = some [some (.string (some item.name)), partition, tag] ∧
        Given IsText partition.toList item.partition ∧ Given IsTag tag.toList item.tag := by
  constructor
  · intro read
    obtain ⟨values, known, read⟩ := Option.bind_eq_some_iff.mp read
    split at read
    next name partition tag =>
      simp only [Option.bind_eq_bind, Option.bind_eq_some_iff, Option.pure_def,
        Option.some.injEq] at read
      obtain ⟨text, named, place, placed, mark, marked, rfl⟩ := read
      obtain rfl := (text?_iff name text).mp named
      exact ⟨partition, tag, known, (given_iff text?_iff rfl partition place).mp placed,
        (given_iff tagOfNode?_iff rfl tag mark).mp marked⟩
    next => cases read
  · rintro ⟨partition, tag, known, placed, marked⟩
    have place := (given_iff text?_iff rfl partition item.partition).mpr placed
    have mark := (given_iff tagOfNode?_iff rfl tag item.tag).mpr marked
    rw [Item.ofNode?, known]
    simp only [Option.bind_eq_bind, Option.bind_some, Node.text?, place, mark, Option.pure_def]

theorem item_values?_object {members : Members} {name : Node} {partition tag : Option Node} :
    Item.layout.values? (.object members) = some [some name, partition, tag] ↔
      AreNamed members ∧ valuesOf "name" members = [name] ∧
        valuesOf "partition" members = partition.toList ∧ valuesOf "tag" members = tag.toList := by
  have fields (named : AreNamed members) :
      Item.layout.values? (.object members) = some [some name, partition, tag] ↔
        Layout.valueOf? members ⟨"name", false⟩ = some (some name) ∧
          Layout.valueOf? members ⟨"partition", true⟩ = some partition ∧
            Layout.valueOf? members ⟨"tag", true⟩ = some tag := by
    rw [Layout.values?_object rfl named]
    simp only [Item.layout, List.mapM_cons, List.mapM_nil, Option.bind_eq_bind,
      Option.bind_eq_some_iff, Option.pure_def, Option.some.injEq]
    constructor
    · rintro ⟨_, first, _, ⟨_, second, _, ⟨_, third, _, rfl, rfl⟩, rfl⟩, same⟩
      cases same
      exact ⟨first, second, third⟩
    · rintro ⟨first, second, third⟩
      exact ⟨_, first, _, ⟨_, second, _, ⟨_, third, _, rfl, rfl⟩, rfl⟩, rfl⟩
  simp only [Layout.valueOf?_eq_some_iff] at fields
  constructor
  · intro read
    have named := Layout.named_of_values? read
    obtain ⟨⟨first, -⟩, ⟨second, -⟩, third, -⟩ := (fields named).mp read
    exact ⟨named, first, second, third⟩
  · rintro ⟨named, first, second, third⟩
    exact (fields named).mpr ⟨⟨first, nofun⟩, ⟨second, fun _ => trivial⟩, third, fun _ => trivial⟩

theorem ofNode?_iff (node : Node) (item : Item) :
    Item.ofNode? node = some item ↔ IsItem node item := by
  rw [ofNode?_eq_some_iff]
  constructor
  · rintro ⟨partition, tag, known, placed, marked⟩
    cases node with
    | object members =>
        obtain ⟨named, name, place, mark⟩ := item_values?_object.mp known
        exact .object named name (place ▸ placed) (mark ▸ marked)
    | array items =>
        obtain ⟨_, ⟨⟩, rfl, ordered⟩ := fromItems?_iff.mp known
        refine .array placed marked fun empty => ?_
        rw [ordered (Option.toList_eq_nil_iff.mp empty), Option.toList_none]
    | _ => cases known
  · intro shown
    cases shown with
    | object named name placed marked =>
        obtain ⟨partition, place⟩ := placed.exists_field
        obtain ⟨tag, mark⟩ := marked.exists_field
        exact ⟨partition, tag, item_values?_object.mpr ⟨named, name, place, mark⟩, place ▸ placed,
          mark ▸ marked⟩
    | array placed marked ordered =>
        obtain ⟨partition, rfl⟩ := placed.exists_field
        obtain ⟨tag, rfl⟩ := marked.exists_field
        refine ⟨partition, tag, fromItems?_iff.mpr ⟨_, rfl, rfl, fun absent => ?_⟩, placed, marked⟩
        exact Option.toList_eq_nil_iff.mp (ordered (by rw [absent]; rfl))

theorem mapM_eq_some_iff {nodes : List Node} {items : List Item} :
    nodes.mapM Item.ofNode? = some items ↔ List.Forall₂ IsItem nodes items := by
  induction nodes generalizing items with
  | nil => simp [eq_comm]
  | cons node nodes ih =>
      simp only [List.mapM_cons, Option.bind_eq_bind, Option.bind_eq_some_iff, Option.pure_def,
        Option.some.injEq, ofNode?_iff, ih]
      constructor
      · rintro ⟨item, first, rest, others, rfl⟩
        exact .cons first others
      · intro shown
        cases shown with
        | cons first others => exact ⟨_, first, _, others, rfl⟩

theorem Holds.exists_field {nodes : List Node} {items : List Item} (held : Holds nodes items) :
    ∃ field : Option Node, nodes = field.toList := by
  cases held with
  | missing => exact ⟨none, rfl⟩
  | listed => exact ⟨some _, rfl⟩

theorem holds_iff {field : Option Node} {items : List Item} :
    (field.elim (some []) fun node => node.items?.bind (·.mapM Item.ofNode?)) = some items ↔
      Holds field.toList items := by
  constructor
  · intro read
    cases field with
    | none =>
        obtain rfl := Option.some.inj read
        exact .missing
    | some node =>
        obtain ⟨nodes, listed, read⟩ := Option.bind_eq_some_iff.mp read
        cases node with
        | array =>
            obtain rfl := Option.some.inj listed
            exact .listed (mapM_eq_some_iff.mp read)
        | _ => cases listed
  · intro held
    generalize same : field.toList = nodes at held
    cases held with
    | missing =>
        obtain rfl := Option.toList_eq_nil_iff.mp same
        rfl
    | listed shown =>
        obtain rfl := Option.toList_eq_singleton_iff.mp same
        exact mapM_eq_some_iff.mpr shown

theorem itemsOfNode?_eq_some_iff {node : Node} {items : List Item} :
    itemsOfNode? node = some items ↔ ∃ field,
      Layout.values? ⟨[⟨"items", true⟩], false⟩ node = some [field] ∧ Holds field.toList items := by
  simp only [← holds_iff]
  constructor
  · intro read
    obtain ⟨values, known, read⟩ := Option.bind_eq_some_iff.mp read
    split at read
    next => exact ⟨none, known, read⟩
    next listed => exact ⟨some listed, known, read⟩
    next => cases read
  · rintro ⟨field, known, read⟩
    rw [itemsOfNode?, known]
    cases field <;> exact read

theorem collection_values?_object {members : Members} {field : Option Node} :
    Layout.values? ⟨[⟨"items", true⟩], false⟩ (.object members) = some [field] ↔
      AreNamed members ∧ valuesOf "items" members = field.toList := by
  have one (named : AreNamed members) :
      Layout.values? ⟨[⟨"items", true⟩], false⟩ (.object members) = some [field] ↔
        valuesOf "items" members = field.toList := by
    rw [Layout.values?_object rfl named, List.mapM_cons, List.mapM_nil]
    simp [Option.bind_eq_some_iff, Layout.valueOf?_eq_some_iff]
  exact ⟨fun read => ⟨Layout.named_of_values? read, (one (Layout.named_of_values? read)).mp read⟩,
    fun ⟨named, told⟩ => (one named).mpr told⟩

theorem collection_values?_array {nodes : List Node} {field : Option Node} :
    Layout.values? ⟨[⟨"items", true⟩], false⟩ (.array nodes) = some [field] ↔
      nodes = field.toList := by
  constructor
  · intro read
    match nodes with
    | [] =>
        cases read
        rfl
    | [first] =>
        cases read
        rfl
    | first :: second :: rest => cases read
  · rintro rfl
    cases field <;> rfl

theorem itemsOfNode?_iff (node : Node) (items : List Item) :
    itemsOfNode? node = some items ↔ IsCollection node items := by
  rw [itemsOfNode?_eq_some_iff]
  constructor
  · rintro ⟨field, known, held⟩
    cases node with
    | object members =>
        obtain ⟨named, told⟩ := collection_values?_object.mp known
        exact .object named (told ▸ held)
    | array nodes =>
        obtain rfl := collection_values?_array.mp known
        exact .array held
    | _ => cases known
  · intro shown
    cases shown with
    | object named held =>
        obtain ⟨field, told⟩ := held.exists_field
        exact ⟨field, collection_values?_object.mpr ⟨named, told⟩, told ▸ held⟩
    | array held =>
        obtain ⟨field, rfl⟩ := held.exists_field
        exact ⟨field, collection_values?_array.mpr rfl, held⟩

theorem ofNode?_congr {node other : Node} (agree : Agree ["name", "partition", "tag"] node other) :
    Item.ofNode? node = Item.ofNode? other := by
  have values : Item.layout.values? node = Item.layout.values? other :=
    Layout.values?_congr rfl agree
  rw [Item.ofNode?, values, Item.ofNode?]

theorem itemsOfNode?_congr {node other : Node} (agree : Agree ["items"] node other) :
    itemsOfNode? node = itemsOfNode? other := by
  have values : Layout.values? ⟨[⟨"items", true⟩], false⟩ node =
      Layout.values? ⟨[⟨"items", true⟩], false⟩ other :=
    Layout.values?_congr rfl agree
  rw [itemsOfNode?, values, itemsOfNode?]

end DeviceApi

end Tenancy
