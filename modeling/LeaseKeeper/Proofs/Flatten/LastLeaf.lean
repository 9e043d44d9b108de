import LeaseKeeper.Flatten
import LeaseKeeper.Proofs.Flatten.Leaves
/-!
What the flat map of a value holds. Its keys are the rendered places of the leaves, and where
several places render alike, as they can once a key of an object is empty or has a dot or a bracket
in it, the last of these leaves in the order of a depth-first walk is the one that stands.
-/
namespace LeaseKeeper.Flatten

open Json Text

/-- A step written behind a path: a name after a dot, or alone if the path is empty, and an index
in brackets. -/
def extend (path : String) : Step → String
  | .field name => if path = "" then name else path ++ "." ++ name
  | .item index => path ++ "[" ++ toString index ++ "]"

def render (place : Place) : String := place.foldl extend ""

theorem field_eq_extend (path name : String) :
    Path.field path name = extend path (.field name) := by
  simp [Path.field, extend]

theorem item_eq_extend (path : String) (index : Nat) :
    Path.item path index = extend path (.item index) := rfl

def entries (path : String) (found : List Leaf) : List (String × String) :=
  found.map fun leaf => (leaf.place.foldl extend path, leaf.text)

def putAll (map : TextMap String) (entries : List (String × String)) : TextMap String :=
  entries.foldl (fun map (k, v) => map.put k v) map

theorem putAll_entries_under (path : String) (step : Step) (inner rest : List Leaf)
    (out : TextMap String) :
    putAll out (entries path (inner.map (Leaf.under step) ++ rest)) =
      putAll (putAll out (entries (extend path step) inner)) (entries path rest) := by
  have below : entries path (inner.map (Leaf.under step)) = entries (extend path step) inner := by
    simp [entries, Leaf.under]
  rw [← below]
  simp only [entries, putAll, List.map_append, List.foldl_append]

mutual

theorem into_eq_putAll (path : String) : (v : Value) → (out : TextMap String) →
    into path v out = putAll out (entries path (leaves v))
  | .null, _ => rfl
  | .bool _, _ => rfl
  | .number _, _ => rfl
  | .text _, _ => rfl
  | .list items, out => by rw [into, leaves, itemsInto_eq_putAll path 0 items out]
  | .record fields, out => by rw [into, leaves, fieldsInto_eq_putAll path fields out]

theorem itemsInto_eq_putAll (path : String) (index : Nat) : (items : List Value) →
    (out : TextMap String) →
    itemsInto path index items out = putAll out (entries path (itemLeaves index items))
  | [], _ => rfl
  | v :: vs, out => by
    rw [itemsInto, itemsInto_eq_putAll path (index + 1) vs, into_eq_putAll _ v, item_eq_extend,
      itemLeaves, putAll_entries_under]

theorem fieldsInto_eq_putAll (path : String) : (fields : List (String × Value)) →
    (out : TextMap String) →
    fieldsInto path fields out = putAll out (entries path (fieldLeaves fields))
  | [], _ => rfl
  | (name, v) :: rest, out => by
    rw [fieldsInto, fieldsInto_eq_putAll path rest, into_eq_putAll _ v, field_eq_extend,
      fieldLeaves, putAll_entries_under]

end

theorem flatten_eq_ofEntries (v : Value) :
    flatten v = .ofEntries (entries "" (leaves v)) := into_eq_putAll "" v []

theorem flatten_ordered (v : Value) : (flatten v).Ordered := by
  rw [flatten_eq_ofEntries]
  exact TextMap.ordered_ofEntries _

theorem last_of_lookup {found : List Leaf} (inOrder : InOrder found) {key text : String}
    (lookup : (entries "" found).reverse.lookup key = some text) :
    ∃ place, ⟨place, text⟩ ∈ found ∧ render place = key ∧
      ∀ other ∈ found, render other.place = key →
        other.place = place ∨ other.place.Before place := by
  -- the list is searched from its end, so none of the entries after the one found has its key
  obtain ⟨after, before, split, fresh⟩ := List.lookup_eq_some_iff.mp lookup
  have split : entries "" found = before.reverse ++ (key, text) :: after.reverse := by
    rw [← List.reverse_reverse (entries "" found), split]
    simp
  obtain ⟨earlier, rest, rfl, -, split⟩ := List.map_eq_append_iff.mp split
  obtain ⟨leaf, later, rfl, entry, later_entries⟩ := List.map_eq_cons_iff.mp split
  obtain ⟨renders, rfl⟩ := Prod.mk.inj entry
  refine ⟨leaf.place, by simp, renders, fun other member other_renders => ?_⟩
  rcases List.mem_append.mp member with member | member
  · exact .inr ((List.pairwise_append.mp inOrder).2.2 other member leaf List.mem_cons_self)
  rcases List.mem_cons.mp member with rfl | member
  · exact .inl rfl
  · have entry : (render other.place, other.text) ∈ after :=
      List.mem_reverse.mp (later_entries ▸ List.mem_map.mpr ⟨other, member, rfl⟩)
    exact absurd (fresh _ entry) (by simp [other_renders])

/-- `place` is the last place of a text in `v` among those that render to `key`. -/
structure LastUnder (v : Value) (key : String) (place : Place) (text : String) : Prop where
  leaf : v.textAt? place = some text
  renders : render place = key
  last : ∀ other, (v.textAt? other).isSome → render other = key →
    other = place ∨ other.Before place

theorem LastUnder.unique {v : Value} {key : String} {place other : Place} {text : String}
    {otherText : String} (last : LastUnder v key place text)
    (otherLast : LastUnder v key other otherText) : text = otherText := by
  have same : place = other := by
    rcases last.last other (by simp [otherLast.leaf]) otherLast.renders with same | before
    · exact same.symm
    · rcases otherLast.last place (by simp [last.leaf]) last.renders with same | back
      · exact same
      · exact absurd back before.asymm
  exact Option.some.inj (last.leaf.symm.trans (same ▸ otherLast.leaf))

theorem mem_keys_flatten {v : Value} (ordered : v.Ordered) {key : String} :
    key ∈ (flatten v).keys ↔ ∃ place, (v.textAt? place).isSome ∧ render place = key := by
  rw [TextMap.mem_keys_iff_find?, flatten_eq_ofEntries, TextMap.find?_ofEntries,
    List.lookup_isSome_iff]
  constructor
  · rintro ⟨entry, member, same⟩
    obtain ⟨leaf, leaf_member, rfl⟩ := List.mem_map.mp (List.mem_reverse.mp member)
    exact ⟨leaf.place, by simp [(mem_leaves ordered).mp leaf_member], (eq_of_beq same).symm⟩
  · rintro ⟨place, isSome, rfl⟩
    obtain ⟨text, at_place⟩ := Option.isSome_iff_exists.mp isSome
    have member := (mem_leaves ordered).mpr at_place
    exact ⟨_, List.mem_reverse.mpr (List.mem_map.mpr ⟨_, member, rfl⟩), beq_self_eq_true _⟩

theorem lastUnder_of_find? {v : Value} (ordered : v.Ordered) {key text : String}
    (found : (flatten v).find? key = some text) : ∃ place, LastUnder v key place text := by
  rw [flatten_eq_ofEntries, TextMap.find?_ofEntries] at found
  obtain ⟨place, member, renders, last⟩ := last_of_lookup (leaves_inOrder ordered) found
  refine ⟨place, (mem_leaves ordered).mp member, renders, fun other isSome other_renders => ?_⟩
  obtain ⟨text, at_other⟩ := Option.isSome_iff_exists.mp isSome
  exact last ⟨other, text⟩ ((mem_leaves ordered).mpr at_other) other_renders

theorem find?_flatten {v : Value} (ordered : v.Ordered) {key text : String} :
    (flatten v).find? key = some text ↔ ∃ place, LastUnder v key place text := by
  refine ⟨lastUnder_of_find? ordered, fun ⟨place, last⟩ => ?_⟩
  have member : key ∈ (flatten v).keys :=
    (mem_keys_flatten ordered).mpr ⟨place, by simp [last.leaf], last.renders⟩
  obtain ⟨found, is⟩ := Option.isSome_iff_exists.mp (TextMap.mem_keys_iff_find?.mp member)
  obtain ⟨other, otherLast⟩ := lastUnder_of_find? ordered is
  rw [is, otherLast.unique last]

/-- A flat map holds exactly the rendered places of the leaves, in key order, each with the text
of the last leaf that renders to it. -/
theorem flatten_holds_last_leaves (v : Value) (ordered : v.Ordered) :
    (flatten v).Ordered ∧
    (∀ key, key ∈ (flatten v).keys ↔ ∃ place, (v.textAt? place).isSome ∧ render place = key) ∧
    ∀ key text, (flatten v).find? key = some text ↔ ∃ place, LastUnder v key place text :=
  ⟨flatten_ordered v, fun _ => mem_keys_flatten ordered, fun _ _ => find?_flatten ordered⟩

def clash : Value :=
  .ofFields [("", .ofFields [("a", .bool true)]),
    ("a", .ofFields [("b", .list [.number (.int 1), .null])]), ("a.b[0]", .text "x")]

theorem clash_ordered : clash.Ordered := by
  simp [clash, Value.ofFields_ordered]

/-- Two leaves render to `a.b[0]`, and the text of the later one stands. -/
theorem bracketed_key_stands :
    let item : Place := [.field "a", .field "b", .item 0]
    clash.Ordered ∧ clash.textAt? item = some "1" ∧ render item = "a.b[0]" ∧
      ∃ place, LastUnder clash "a.b[0]" place "x" :=
  ⟨clash_ordered, rfl, rfl,
    ((flatten_holds_last_leaves clash clash_ordered).2.2 "a.b[0]" "x").mp (by decide)⟩

end LeaseKeeper.Flatten
