import LeaseKeeper.Json.Value
import LeaseKeeper.Proofs.Flatten.Maps
/-!
The parts of a JSON value by their places. A place is the way from the whole value to a part of
it, and a leaf is a datum that is neither null nor a container, named by its place and its text.
The leaves of a value are listed depth first; for a value whose objects hold their fields in
increasing key order the list has exactly the texts that a walk along a place finds, one place
before the other in the order in which they part.
-/
namespace LeaseKeeper.Json

inductive Step where
  | field (name : String)
  | item (index : Nat)
  deriving DecidableEq, Repr

abbrev Place := List Step

def Step.Before : Step → Step → Prop
  | .field name, .field other => name < other
  | .item index, .item other => index < other
  | _, _ => False

/-- The order of a depth-first walk: the first step at which two places part decides. -/
def Place.Before : Place → Place → Prop
  | step :: place, other :: rest => step.Before other ∨ step = other ∧ Place.Before place rest
  | _, _ => False

theorem Step.Before.asymm {step other : Step} (before : step.Before other) :
    ¬ other.Before step := by
  cases step <;> cases other <;> simp only [Step.Before] at before ⊢ <;>
    first
    | exact String.lt_asymm before
    | omega

theorem Step.Before.irrefl (step : Step) : ¬ step.Before step := fun before => before.asymm before

theorem Place.Before.asymm {place other : Place} (before : place.Before other) :
    ¬ other.Before place := by
  induction place generalizing other with
  | nil => cases other <;> exact before.elim
  | cons step place ih =>
    cases other with
    | nil => exact before.elim
    | cons later rest =>
      rintro (back | ⟨same, back⟩)
      · rcases before with before | ⟨same, -⟩
        · exact before.asymm back
        · exact Step.Before.irrefl _ (same ▸ back)
      · rcases before with before | ⟨-, before⟩
        · exact Step.Before.irrefl _ (same ▸ before)
        · exact ih before back

namespace Value

def at? : Value → Place → Option Value
  | v, [] => some v
  | .record fields, .field name :: place => (TextMap.find? name fields).bind (at? · place)
  | .list items, .item index :: place => items[index]?.bind (at? · place)
  | _, _ :: _ => none

def scalarText? : Value → Option String
  | .null | .list _ | .record _ => none
  | .bool b => some (if b then "true" else "false")
  | .number n => some n.text
  | .text s => some s

def textAt? (v : Value) (place : Place) : Option String := (v.at? place).bind scalarText?

@[simp] theorem textAt?_nil (v : Value) : v.textAt? [] = v.scalarText? := by
  cases v <;> rfl

@[simp] theorem textAt?_field (fields : List (String × Value)) (name : String) (place : Place) :
    (record fields).textAt? (.field name :: place) =
      (TextMap.find? name fields).bind (textAt? · place) := by
  rw [textAt?, at?, Option.bind_assoc]
  rfl

@[simp] theorem textAt?_item (items : List Value) (index : Nat) (place : Place) :
    (list items).textAt? (.item index :: place) = items[index]?.bind (textAt? · place) := by
  rw [textAt?, at?, Option.bind_assoc]
  rfl

/-- What holds of the fields of every object in a value, at every depth. -/
inductive Throughout (holds : TextMap Value → Prop) : Value → Prop
  | null : Throughout holds .null
  | bool (b : Bool) : Throughout holds (.bool b)
  | number (n : Number) : Throughout holds (.number n)
  | text (s : String) : Throughout holds (.text s)
  | list {items : List Value} (each : ∀ v ∈ items, Throughout holds v) :
      Throughout holds (.list items)
  | record {fields : List (String × Value)} (here : holds fields)
      (each : ∀ field ∈ fields, Throughout holds field.2) : Throughout holds (.record fields)

namespace Throughout

variable {holds : TextMap Value → Prop}

@[simp] theorem of_null : Throughout holds .null := .null

@[simp] theorem of_bool (b : Bool) : Throughout holds (.bool b) := .bool b

@[simp] theorem of_number (n : Number) : Throughout holds (.number n) := .number n

@[simp] theorem of_text (s : String) : Throughout holds (.text s) := .text s

@[simp] theorem list_iff {items : List Value} :
    Throughout holds (.list items) ↔ ∀ v ∈ items, Throughout holds v :=
  ⟨fun | .list each => each, .list⟩

@[simp] theorem record_iff {fields : List (String × Value)} :
    Throughout holds (.record fields) ↔
      holds fields ∧ ∀ field ∈ fields, Throughout holds field.2 :=
  ⟨fun | .record here each => ⟨here, each⟩, fun ⟨here, each⟩ => .record here each⟩

end Throughout

abbrev Ordered (v : Value) : Prop := v.Throughout TextMap.Ordered

theorem ofFields_throughout {holds : TextMap Value → Prop} {fields : List (String × Value)}
    (here : holds (TextMap.ofEntries fields)) (each : ∀ field ∈ fields, field.2.Throughout holds) :
    (ofFields fields).Throughout holds :=
  .record here fun field member => each field (TextMap.mem_of_mem_ofEntries member)

theorem ofFields_ordered {fields : List (String × Value)}
    (each : ∀ field ∈ fields, field.2.Ordered) : (ofFields fields).Ordered :=
  ofFields_throughout (TextMap.ordered_ofEntries fields) each

end Value

structure Leaf where
  place : Place
  text : String
  deriving DecidableEq, Repr

def Leaf.under (step : Step) (leaf : Leaf) : Leaf := { leaf with place := step :: leaf.place }

mutual

def leaves : Value → List Leaf
  | .null => []
  | .bool b => [⟨[], if b then "true" else "false"⟩]
  | .number n => [⟨[], n.text⟩]
  | .text s => [⟨[], s⟩]
  | .list items => itemLeaves 0 items
  | .record fields => fieldLeaves fields

def itemLeaves (index : Nat) : List Value → List Leaf
  | [] => []
  | v :: vs => (leaves v).map (Leaf.under (.item index)) ++ itemLeaves (index + 1) vs

def fieldLeaves : List (String × Value) → List Leaf
  | [] => []
  | (name, v) :: rest => (leaves v).map (Leaf.under (.field name)) ++ fieldLeaves rest

end

/-! ### Which leaves there are -/

theorem mem_map_under {step : Step} {leaf : Leaf} {inner : List Leaf} :
    leaf ∈ inner.map (Leaf.under step) ↔
      ∃ place, leaf.place = step :: place ∧ ⟨place, leaf.text⟩ ∈ inner := by
  constructor
  · intro member
    obtain ⟨found, found_inner, rfl⟩ := List.mem_map.mp member
    exact ⟨found.place, rfl, found_inner⟩
  · rintro ⟨place, at_place, member⟩
    refine List.mem_map.mpr ⟨⟨place, leaf.text⟩, member, ?_⟩
    rw [Leaf.under, ← at_place]

theorem mem_itemLeaves {start : Nat} {items : List Value} {leaf : Leaf} :
    leaf ∈ itemLeaves start items ↔
      ∃ index v place, items[index]? = some v ∧ leaf.place = .item (start + index) :: place ∧
        ⟨place, leaf.text⟩ ∈ leaves v := by
  induction items generalizing start with
  | nil => simp [itemLeaves]
  | cons v vs ih =>
    rw [itemLeaves, List.mem_append, mem_map_under, ih]
    constructor
    · rintro (⟨place, at_place, member⟩ | ⟨index, w, place, found, at_place, member⟩)
      · exact ⟨0, v, place, rfl, at_place, member⟩
      · refine ⟨index + 1, w, place, found, ?_, member⟩
        rw [at_place, Nat.add_right_comm, Nat.add_assoc]
    · rintro ⟨index, w, place, found, at_place, member⟩
      cases index with
      | zero =>
        obtain rfl : v = w := Option.some.inj found
        exact .inl ⟨place, at_place, member⟩
      | succ index =>
        refine .inr ⟨index, w, place, found, ?_, member⟩
        rw [at_place, Nat.add_right_comm, Nat.add_assoc]

theorem mem_fieldLeaves {fields : List (String × Value)} {leaf : Leaf} :
    leaf ∈ fieldLeaves fields ↔
      ∃ name v place, (name, v) ∈ fields ∧ leaf.place = .field name :: place ∧
        ⟨place, leaf.text⟩ ∈ leaves v := by
  induction fields with
  | nil => simp [fieldLeaves]
  | cons field rest ih =>
    obtain ⟨first, v⟩ := field
    rw [fieldLeaves, List.mem_append, mem_map_under, ih]
    constructor
    · rintro (⟨place, at_place, member⟩ | ⟨name, w, place, found, at_place, member⟩)
      · exact ⟨first, v, place, List.mem_cons_self, at_place, member⟩
      · exact ⟨name, w, place, List.mem_cons_of_mem _ found, at_place, member⟩
    · rintro ⟨name, w, place, found, at_place, member⟩
      rcases List.mem_cons.mp found with same | found
      · obtain ⟨rfl, rfl⟩ := Prod.mk.inj same
        exact .inl ⟨place, at_place, member⟩
      · exact .inr ⟨name, w, place, found, at_place, member⟩

theorem mem_leaves {v : Value} (ordered : v.Ordered) {place : Place} {text : String} :
    ⟨place, text⟩ ∈ leaves v ↔ v.textAt? place = some text := by
  -- a member found under its name or index is one of the members, and in an ordered object the
  -- one that is found
  induction ordered generalizing place with
  | null => cases place <;> simp [leaves, Value.textAt?, Value.at?, Value.scalarText?]
  | bool b => cases place <;> simp [leaves, Value.textAt?, Value.at?, Value.scalarText?, eq_comm]
  | number n => cases place <;> simp [leaves, Value.textAt?, Value.at?, Value.scalarText?, eq_comm]
  | text s => cases place <;> simp [leaves, Value.textAt?, Value.at?, Value.scalarText?, eq_comm]
  | @list items each ih =>
    rw [leaves, mem_itemLeaves]
    constructor
    · rintro ⟨index, v, inner, found, at_place, member⟩
      obtain rfl : place = .item index :: inner := by simpa using at_place
      rw [Value.textAt?_item, found]
      exact (ih v (List.mem_of_getElem? found)).mp member
    · intro found
      match place with
      | [] => simp [Value.scalarText?] at found
      | .field name :: _ => simp [Value.textAt?, Value.at?] at found
      | .item index :: inner =>
        rw [Value.textAt?_item] at found
        obtain ⟨v, here, found⟩ := Option.bind_eq_some_iff.mp found
        exact ⟨index, v, inner, here, by simp, (ih v (List.mem_of_getElem? here)).mpr found⟩
  | @record fields here each ih =>
    rw [leaves, mem_fieldLeaves]
    constructor
    · rintro ⟨name, v, inner, found, at_place, member⟩
      obtain rfl : place = .field name :: inner := at_place
      rw [Value.textAt?_field, here.find?_eq_some_iff.mpr found]
      exact (ih _ found).mp member
    · intro found
      match place with
      | [] => simp [Value.scalarText?] at found
      | .item index :: _ => simp [Value.textAt?, Value.at?] at found
      | .field name :: inner =>
        rw [Value.textAt?_field] at found
        obtain ⟨v, there, found⟩ := Option.bind_eq_some_iff.mp found
        have member := here.find?_eq_some_iff.mp there
        exact ⟨name, v, inner, member, rfl, (ih _ member).mpr found⟩

/-! ### The order of the leaves -/

def InOrder (found : List Leaf) : Prop :=
  found.Pairwise fun leaf later => leaf.place.Before later.place

theorem InOrder.under {found : List Leaf} (inOrder : InOrder found) (step : Step) :
    InOrder (found.map (Leaf.under step)) :=
  List.Pairwise.map _ (fun _ _ before => .inr ⟨rfl, before⟩) inOrder

theorem itemLeaves_inOrder {items : List Value} (each : ∀ v ∈ items, InOrder (leaves v))
    (start : Nat) : InOrder (itemLeaves start items) := by
  induction items generalizing start with
  | nil => exact List.Pairwise.nil
  | cons v vs ih =>
    obtain ⟨head, tail⟩ := List.forall_mem_cons.mp each
    refine List.pairwise_append.mpr ⟨head.under _, ih tail (start + 1), ?_⟩
    intro leaf member later later_member
    obtain ⟨place, at_place, -⟩ := mem_map_under.mp member
    obtain ⟨index, -, rest, -, later_place, -⟩ := mem_itemLeaves.mp later_member
    rw [at_place, later_place]
    exact .inl (show start < start + 1 + index by omega)

theorem fieldLeaves_inOrder {fields : TextMap Value} (ordered : fields.Ordered)
    (each : ∀ field ∈ fields, InOrder (leaves field.2)) : InOrder (fieldLeaves fields) := by
  induction fields with
  | nil => exact List.Pairwise.nil
  | cons field rest ih =>
    obtain ⟨head, tail⟩ := List.forall_mem_cons.mp each
    obtain ⟨first, ordered⟩ := TextMap.ordered_cons.mp ordered
    refine List.pairwise_append.mpr ⟨head.under _, ih ordered tail, ?_⟩
    intro leaf member later later_member
    obtain ⟨place, at_place, -⟩ := mem_map_under.mp member
    obtain ⟨name, v, inner, found, later_place, -⟩ := mem_fieldLeaves.mp later_member
    rw [at_place, later_place]
    exact .inl (first name (TextMap.mem_keys.mpr ⟨v, found⟩))

theorem leaves_inOrder {v : Value} (ordered : v.Ordered) : InOrder (leaves v) := by
  induction ordered with
  | null => exact List.Pairwise.nil
  | bool | number | text => exact List.pairwise_singleton _ _
  | list _ ih => exact itemLeaves_inOrder ih 0
  | record here _ ih => exact fieldLeaves_inOrder here ih

end LeaseKeeper.Json
