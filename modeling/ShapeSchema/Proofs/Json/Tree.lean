import ShapeSchema.Json.Tree
import ShapeSchema.Proofs.Except
import ShapeSchema.Proofs.Lists
import ShapeSchema.Proofs.JsonSchema.Pruning

/-!
# `ShapeSchema.Proofs.Json.Tree`: trees that hold a value

Most trees have something wrong with them: a fault, a key written twice, or more nesting than is
allowed. `Tree.Holds depth tree value` says that a tree has none of this and that its value is
`value`. It is the meeting point of the two origins of a tree. A tree of a text holds what
`Tree.valueWithin` reads from it, as long as no object repeats a key (`holds_of_valueWithin`), and
the tree of a value in memory holds that value (`holds_ofJson`).

A tree that holds a value can be skipped without a fault as well (`Holds.skipFault?_eq_none`), which
is why a reader may pass over the fields that it does not know.
-/

set_option autoImplicit false

namespace ShapeSchema

namespace Json

/-- A key that is read without a fault. -/
structure Key.Reads (key : Key) (name : String) : Prop where
  name : key.name = .ok name
  colon : key.colon = none

namespace Tree

/-- No object of the tree repeats a key. -/
inductive Regular : Tree → Prop
  | null (span : Span) : Regular (.null span)
  | bool (b : Bool) (span : Span) : Regular (.bool b span)
  | number (n : Except SyntaxError Number) (span : Span) : Regular (.number n span)
  | string (s : Except SyntaxError String) (span : Span) : Regular (.string s span)
  | array (start : Nat) {items : List Tree} (ending : Ending)
      (values : ∀ item ∈ items, Regular item) : Regular (.array start items ending)
  | object (start : Nat) {fields : List (Key × Tree)} (ending : Ending)
      (distinct : (fields.filterMap fun f => f.1.name.toOption).Nodup)
      (values : ∀ field ∈ fields, Regular field.2) : Regular (.object start fields ending)
  | broken (start : Nat) (fault : HardFault) : Regular (.broken start fault)

mutual

/-- Whether no object of the tree repeats a key. -/
def isRegular : Tree → Bool
  | .array _ items _ => regularItems items
  | .object _ fields _ =>
    decide (fields.filterMap fun f => f.1.name.toOption).Nodup && regularFields fields
  | .null _ | .bool _ _ | .number _ _ | .string _ _ | .broken _ _ => true

/-- Whether all items of an array are regular. -/
def regularItems : List Tree → Bool
  | [] => true
  | item :: items => isRegular item && regularItems items

/-- Whether the values of all fields of an object are regular. -/
def regularFields : List (Key × Tree) → Bool
  | [] => true
  | (_, value) :: fields => isRegular value && regularFields fields

end

/-- The check of the items goes through all of them. -/
theorem regularItems_iff {items : List Tree} :
    regularItems items = true ↔ ∀ item ∈ items, item.isRegular = true := by
  induction items with
  | nil => simp [regularItems]
  | cons item items ih => simp [regularItems, ih]

/-- The check of the fields goes through all of their values. -/
theorem regularFields_iff {fields : List (Key × Tree)} :
    regularFields fields = true ↔ ∀ f ∈ fields, f.2.isRegular = true := by
  induction fields with
  | nil => simp [regularFields]
  | cons f fields ih => simp [regularFields, ih]

mutual

/-- A tree that passes the check repeats no key. -/
theorem regular_of_isRegular : ∀ {tree : Tree}, tree.isRegular = true → tree.Regular
  | .null span, _ => .null span
  | .bool b span, _ => .bool b span
  | .number n span, _ => .number n span
  | .string s span, _ => .string s span
  | .array start items ending, h => .array start ending (regular_of_regularItems h)
  | .object start fields ending, h => by
    rw [isRegular, Bool.and_eq_true, decide_eq_true_iff] at h
    exact .object start ending h.1 (regular_of_regularFields h.2)
  | .broken start fault, _ => .broken start fault

/-- Items that pass the check repeat no key. -/
theorem regular_of_regularItems :
    ∀ {items : List Tree}, regularItems items = true → ∀ item ∈ items, item.Regular
  | [], _, _, mem => by cases mem
  | first :: items, h, item, mem => by
    rw [regularItems, Bool.and_eq_true] at h
    have head := regular_of_isRegular h.1
    rcases List.mem_cons.1 mem with same | later
    · rwa [same]
    · exact regular_of_regularItems h.2 item later

/-- Field values that pass the check repeat no key. -/
theorem regular_of_regularFields :
    ∀ {fields : List (Key × Tree)}, regularFields fields = true → ∀ f ∈ fields, f.2.Regular
  | [], _, _, mem => by cases mem
  | (key, tree) :: fields, h, f, mem => by
    rw [regularFields, Bool.and_eq_true] at h
    have head := regular_of_isRegular h.1
    rcases List.mem_cons.1 mem with same | later
    · rwa [same]
    · exact regular_of_regularFields h.2 f later

end

/-- The check decides regularity. -/
theorem isRegular_iff {tree : Tree} : tree.isRegular = true ↔ tree.Regular := by
  refine ⟨regular_of_isRegular, fun h => ?_⟩
  induction h with
  | array _ _ _ ih => exact regularItems_iff.2 ih
  | object _ _ distinct _ ih => simp [isRegular, distinct, regularFields_iff.2 ih]
  | _ => rfl

instance : DecidablePred Regular := fun _ => decidable_of_iff _ isRegular_iff

/-- The tree is a faultless notation of a value that may nest `depth` deep, and no object in it
repeats a key. -/
structure Holds (depth : Depth) (tree : Tree) (value : Json) : Prop where
  regular : tree.Regular
  value : tree.valueWithin depth = .ok value

/-- The fields of an object hold its entries. -/
abbrev HoldEntries (depth : Depth) : List (Key × Tree) → List (String × Json) → Prop :=
  List.Forall₂ fun field entry => Key.Reads field.1 entry.1 ∧ Holds depth field.2 entry.2

/-! ### Items and fields -/

/-- The items of an array are read exactly if the array is closed and each of them is. -/
theorem itemValues_eq_ok_iff {depth : Depth} {items : List Tree} {ending : Ending}
    {values : List Json} (index : Nat) :
    itemValues depth index items ending = .ok values ↔
      (∃ stop, ending = .closed stop) ∧
        List.Forall₂ (fun tree value => tree.valueWithin depth = .ok value) items values := by
  induction items generalizing index values with
  | nil => cases ending <;> cases values <;> simp [itemValues]
  | cons item items ih =>
    simp only [itemValues, except_bind_eq_ok_iff, mapError_eq_ok_iff, ih]
    constructor
    · rintro ⟨value, first, rest, ⟨closed, each⟩, same⟩
      cases same
      exact ⟨closed, .cons first each⟩
    · rintro ⟨closed, each⟩
      cases each with
      | cons first each => exact ⟨_, first, _, ⟨closed, each⟩, rfl⟩

/-- The colon behind a key passes exactly if there is no fault at it. -/
theorem checkColon_eq_ok_iff {key : Key} {u : Unit} :
    key.checkColon = .ok u ↔ key.colon = none := by
  rw [Key.checkColon]
  cases key.colon <;> simp

/-- The fields of an object are read exactly if the object is closed and each of them is. -/
theorem fieldValues_eq_ok_iff {depth : Depth} {fields : List (Key × Tree)} {ending : Ending}
    {entries : List (String × Json)} :
    fieldValues depth fields ending = .ok entries ↔
      (∃ stop, ending = .closed stop) ∧
        List.Forall₂ (fun f e => Key.Reads f.1 e.1 ∧ f.2.valueWithin depth = .ok e.2)
          fields entries := by
  induction fields generalizing entries with
  | nil => cases ending <;> cases entries <;> simp [fieldValues]
  | cons field fields ih =>
    obtain ⟨key, tree⟩ := field
    simp only [fieldValues, except_bind_eq_ok_iff, mapError_eq_ok_iff, checkColon_eq_ok_iff, ih]
    constructor
    · rintro ⟨name, hname, _, hcolon, value, first, rest, ⟨closed, each⟩, same⟩
      cases same
      exact ⟨closed, .cons ⟨⟨hname, hcolon⟩, first⟩ each⟩
    · rintro ⟨closed, each⟩
      cases each with
      | cons first each =>
        obtain ⟨reads, first⟩ := first
        exact ⟨_, reads.name, (), reads.colon, _, first, _, ⟨closed, each⟩, rfl⟩

/-! ### Arrays and objects -/

/-- A tree holds a value exactly if it is regular and the value is read from it. -/
theorem holds_iff {depth : Depth} {tree : Tree} {value : Json} :
    Holds depth tree value ↔ tree.Regular ∧ tree.valueWithin depth = .ok value :=
  ⟨fun h => ⟨h.regular, h.value⟩, fun h => ⟨h.1, h.2⟩⟩

/-- The names of fields that are read are the keys of the entries. -/
theorem names_of_forall₂ {fields : List (Key × Tree)} {entries : List (String × Json)}
    {p : Key × Tree → String × Json → Prop}
    (each : List.Forall₂ (fun f e => Key.Reads f.1 e.1 ∧ p f e) fields entries) :
    fields.filterMap (fun f => f.1.name.toOption) = entries.map Prod.fst := by
  induction each with
  | nil => rfl
  | cons first _ ih => simp [first.1.name, ih]

/-- Items hold values exactly if they are regular and the values are read from them. -/
theorem forall₂_holds_iff {depth : Depth} {items : List Tree} {values : List Json} :
    List.Forall₂ (Holds depth) items values ↔ (∀ item ∈ items, item.Regular) ∧
      List.Forall₂ (fun tree value => tree.valueWithin depth = .ok value) items values := by
  show List.Forall₂ (fun tree value => Holds depth tree value) items values ↔ _
  simp only [holds_iff, List.forall₂_and_left]

/-- Fields hold entries exactly if their values are regular and the entries are read from them. -/
theorem holdEntries_iff {depth : Depth} {fields : List (Key × Tree)}
    {entries : List (String × Json)} :
    HoldEntries depth fields entries ↔ (∀ f ∈ fields, f.2.Regular) ∧
      List.Forall₂ (fun f e => Key.Reads f.1 e.1 ∧ f.2.valueWithin depth = .ok e.2)
        fields entries := by
  simp only [HoldEntries, holds_iff, ← List.forall₂_and_left, and_left_comm]

/-- An array holds exactly the array of what its items hold. -/
theorem holds_array_iff {depth : Depth} {start : Nat} {items : List Tree} {ending : Ending}
    {value : Json} :
    Holds depth (.array start items ending) value ↔
      ∃ inner stop values, depth.enter start = .ok inner ∧ ending = .closed stop ∧
        value = .array values ∧ List.Forall₂ (Holds inner) items values := by
  constructor
  · rintro ⟨regular, h⟩
    cases regular with | array _ _ regular
    simp only [valueWithin, except_bind_eq_ok_iff, itemValues_eq_ok_iff] at h
    obtain ⟨inner, room, values, ⟨⟨stop, closed⟩, each⟩, same⟩ := h
    exact ⟨inner, stop, values, room, closed, (Except.ok.inj same).symm,
      forall₂_holds_iff.2 ⟨regular, each⟩⟩
  · rintro ⟨inner, stop, values, room, rfl, rfl, each⟩
    obtain ⟨regular, each⟩ := forall₂_holds_iff.1 each
    have read : itemValues inner 0 items (.closed stop) = .ok values :=
      (itemValues_eq_ok_iff 0).2 ⟨⟨stop, rfl⟩, each⟩
    refine ⟨.array start _ regular, ?_⟩
    rw [valueWithin, room]
    show (do return Json.array (← itemValues inner 0 items (.closed stop))) = _
    rw [read]
    rfl

/-- An object holds exactly the object of what its fields hold, if its keys are distinct. -/
theorem holds_object_iff {depth : Depth} {start : Nat} {fields : List (Key × Tree)}
    {ending : Ending} {value : Json} :
    Holds depth (.object start fields ending) value ↔
      ∃ inner stop entries, depth.enter start = .ok inner ∧ ending = .closed stop ∧
        value = .object entries ∧ (entries.map Prod.fst).Nodup ∧
        HoldEntries inner fields entries := by
  constructor
  · -- Without repeated names the collected entries are the entries themselves.
    rintro ⟨regular, h⟩
    cases regular with | object _ _ distinct regular
    simp only [valueWithin, except_bind_eq_ok_iff, fieldValues_eq_ok_iff] at h
    obtain ⟨inner, room, entries, ⟨⟨stop, closed⟩, each⟩, same⟩ := h
    rw [names_of_forall₂ each] at distinct
    rw [Entries.collect_eq_self distinct] at same
    exact ⟨inner, stop, entries, room, closed, (Except.ok.inj same).symm, distinct,
      holdEntries_iff.2 ⟨regular, each⟩⟩
  · rintro ⟨inner, stop, entries, room, rfl, rfl, distinct, each⟩
    obtain ⟨regular, each⟩ := holdEntries_iff.1 each
    have read : fieldValues inner fields (.closed stop) = .ok entries :=
      fieldValues_eq_ok_iff.2 ⟨⟨stop, rfl⟩, each⟩
    refine ⟨.object start _ (by rwa [names_of_forall₂ each]) regular, ?_⟩
    rw [valueWithin, room]
    show (do return Json.object (Entries.collect (← fieldValues inner fields (.closed stop)))) = _
    rw [read]
    exact congrArg (fun es => Except.ok (Json.object es)) (Entries.collect_eq_self distinct)

/-- The forms of a tree that holds a value, one for each form of the value. -/
inductive HeldForm (depth : Depth) : Tree → Json → Prop
  | null (span : Span) : HeldForm depth (.null span) .null
  | bool (b : Bool) (span : Span) : HeldForm depth (.bool b span) (.bool b)
  | number (n : Number) (span : Span) : HeldForm depth (.number (.ok n) span) (.number n)
  | string (s : String) (span : Span) : HeldForm depth (.string (.ok s) span) (.string s)
  | array {inner : Depth} {start stop : Nat} {items : List Tree} {values : List Json}
      (room : depth.enter start = .ok inner) (each : List.Forall₂ (Holds inner) items values) :
      HeldForm depth (.array start items (.closed stop)) (.array values)
  | object {inner : Depth} {start stop : Nat} {fields : List (Key × Tree)}
      {entries : List (String × Json)} (room : depth.enter start = .ok inner)
      (distinct : (entries.map Prod.fst).Nodup) (each : HoldEntries inner fields entries) :
      HeldForm depth (.object start fields (.closed stop)) (.object entries)

/-- A tree that holds a value has the form of the value. -/
theorem Holds.form {depth : Depth} {tree : Tree} {value : Json} (h : Holds depth tree value) :
    HeldForm depth tree value := by
  -- A tree holds a value of its own form, and a part that could not be read holds none.
  cases tree with
  | null span =>
    cases h.value
    exact .null span
  | bool b span =>
    cases h.value
    exact .bool b span
  | number n span =>
    cases n with
    | error => cases h.value
    | ok n =>
      cases h.value
      exact .number n span
  | string s span =>
    cases s with
    | error => cases h.value
    | ok s =>
      cases h.value
      exact .string s span
  | array start items ending =>
    obtain ⟨inner, stop, values, room, rfl, rfl, each⟩ := holds_array_iff.1 h
    exact .array room each
  | object start fields ending =>
    obtain ⟨inner, stop, entries, room, rfl, rfl, distinct, each⟩ := holds_object_iff.1 h
    exact .object room distinct each
  | broken => cases h.value

/-! ### Skipping -/

/-- A closed array is skipped without a fault if each of its items is. -/
theorem skipItems?_eq_none {items : List Tree} (stop : Nat)
    (each : ∀ item ∈ items, item.skipFault? = none) :
    skipItems? items (.closed stop) = none := by
  induction items with
  | nil => rfl
  | cons item items ih =>
    rw [skipItems?, each item List.mem_cons_self]
    exact ih fun i hi => each i (List.mem_cons_of_mem _ hi)

/-- A closed object is skipped without a fault if each of its fields is. -/
theorem skipFields?_eq_none {fields : List (Key × Tree)} (stop : Nat)
    (each : ∀ f ∈ fields, f.1.colon = none ∧ f.2.skipFault? = none) :
    skipFields? fields (.closed stop) = none := by
  induction fields with
  | nil => rfl
  | cons field fields ih =>
    obtain ⟨key, tree⟩ := field
    obtain ⟨colon, value⟩ := each (key, tree) List.mem_cons_self
    rw [skipFields?, colon]
    dsimp only
    rw [value]
    exact ih fun f hf => each f (List.mem_cons_of_mem _ hf)

/-- What holds a value can be skipped. -/
theorem Holds.skipFault?_eq_none {tree : Tree} {depth : Depth} {value : Json}
    (h : Holds depth tree value) : tree.skipFault? = none := by
  -- The induction is on the tree; being regular has a case for each of its constructors.
  have regular := h.regular
  induction regular generalizing depth value with
  | null | bool | number | string => rfl
  | array start ending _ ih =>
    cases h.form with | array room each
    refine skipItems?_eq_none _ fun item hitem => ?_
    obtain ⟨v, -, held⟩ := exists_of_forall₂ each hitem
    exact ih item hitem held
  | object start ending _ _ ih =>
    cases h.form with | object room distinct each
    refine skipFields?_eq_none _ fun f hf => ?_
    obtain ⟨e, -, reads, held⟩ := exists_of_forall₂ each hf
    exact ⟨reads.colon, ih f hf held⟩
  | broken => cases h.form

/-! ### Trees of values -/

/-- The items of the tree of an array are the trees of its items. -/
theorem ofItems_eq_map (items : List Json) : ofItems items = items.map ofJson := by
  induction items with
  | nil => rfl
  | cons item items ih => rw [ofItems, ih, List.map_cons]

/-- The fields of the tree of an object are its keys without faults, with the trees of their values.
-/
theorem ofFields_eq_map (fields : List (String × Json)) :
    ofFields fields = fields.map fun f => (⟨.ok f.1, 0, none⟩, ofJson f.2) := by
  induction fields with
  | nil => rfl
  | cons f fields ih =>
    obtain ⟨name, value⟩ := f
    rw [ofFields, ih, List.map_cons]

/-- The tree of a value holds it, however deep it is. -/
theorem holds_ofJson {value : Json} (regular : value.Regular fun _ => True) :
    Holds none (ofJson value) value := by
  induction regular with
  | null => exact ⟨.null _, rfl⟩
  | bool b => exact ⟨.bool b _, rfl⟩
  | number => exact ⟨.number _ _, rfl⟩
  | string s => exact ⟨.string _ _, rfl⟩
  | array _ ih =>
    rw [ofJson, holds_array_iff, ofItems_eq_map]
    refine ⟨none, 0, _, rfl, rfl, rfl, List.forall₂_map_left_iff.2 ?_⟩
    exact List.forall₂_same.2 ih
  | object distinct _ ih =>
    rw [ofJson, holds_object_iff, ofFields_eq_map]
    refine ⟨none, 0, _, rfl, rfl, rfl, distinct, List.forall₂_map_left_iff.2 ?_⟩
    exact List.forall₂_same.2 fun f hf => ⟨⟨rfl, rfl⟩, ih f hf⟩

/-- No object in a value that a tree holds repeats a key. -/
theorem Holds.regular_value {tree : Tree} {depth : Depth} {value : Json}
    (h : Holds depth tree value) : value.Regular fun _ => True := by
  have regular := h.regular
  induction regular generalizing depth value with
  | array start ending _ ih =>
    cases h.form with | array room each
    refine .array fun v hv => ?_
    obtain ⟨item, hitem, held⟩ := exists_of_forall₂ each.flip hv
    exact ih item hitem held
  | object start ending _ _ ih =>
    cases h.form with | object room distinct each
    refine .object distinct fun e he => ?_
    obtain ⟨f, hf, -, held⟩ := exists_of_forall₂ each.flip he
    exact ih f hf held
  | null | bool | string =>
    cases h.form
    constructor
  | number =>
    cases h.form
    exact .number trivial
  | broken => cases h.form

end Tree

end Json

end ShapeSchema
