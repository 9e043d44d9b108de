import LeaseKeeper.Proofs.Flatten.LastLeaf
import LeaseKeeper.Response
/-!
Every value that a text reads as is ordered: the reader puts each field of an object into a text
map, at every depth and for whatever shape is expected. So the flat data of every answer that
reads holds the last leaves of what the answer carries.
-/
namespace LeaseKeeper.Json

open Reader

structure OrderedFields (fields : TextMap Value) : Prop where
  here : fields.Ordered
  each : ∀ field ∈ fields, field.2.Ordered

theorem OrderedFields.nil : OrderedFields [] := ⟨TextMap.ordered_nil, by simp⟩

theorem OrderedFields.put {fields : TextMap Value} (ordered : OrderedFields fields) (name : String)
    {v : Value} (value : v.Ordered) : OrderedFields (fields.put name v) where
  here := ordered.here.put name v
  each field member := by
    have found := (ordered.here.put name v).find?_eq_some_iff.mpr member
    rw [TextMap.find?_put] at found
    split at found
    · obtain rfl := Option.some.inj found
      exact value
    · exact ordered.each field (ordered.here.find?_eq_some_iff.mp found)

/-- A part of the text that fails to read or reads as an ordered value. -/
def ReadsOrdered (part : Except Stop (Value × List Char)) : Prop :=
  ∀ v rest, part = .ok (v, rest) → v.Ordered

namespace ReadsOrdered

variable {α : Type} {v : Value}

theorem error (stop : Stop) : ReadsOrdered (.error stop) := fun _ _ read => nomatch read

theorem ok (ordered : v.Ordered) (rest : List Char) : ReadsOrdered (.ok (v, rest)) := by
  rintro _ _ ⟨⟩
  exact ordered

theorem bind {part : Except Stop α} {next : α → Except Stop (Value × List Char)}
    (each : ∀ a, part = .ok a → ReadsOrdered (next a)) : ReadsOrdered (part >>= next) := by
  cases part with
  | error stop => exact .error stop
  | ok a => exact each a rfl

theorem map {part : Except Stop (α × List Char)} {make : α → Value}
    (ordered : ∀ a, (make a).Ordered) : ReadsOrdered (part.map fun (a, r) => (make a, r)) := by
  cases part with
  | error stop => exact .error stop
  | ok result => exact .ok (ordered result.1) result.2

end ReadsOrdered

mutual

theorem value_ordered (lenient : Bool) : (fuel depth : Nat) → (cs : List Char) →
    ReadsOrdered (Reader.value lenient fuel depth cs)
  | 0, _, _ => .error _
  | fuel + 1, depth, cs => by
    rw [Reader.value]
    split
    · exact .error _
    · exact .map fun _ => .null
    · exact .map fun _ => .bool true
    · exact .map fun _ => .bool false
    · exact .map .text
    · exact .map .number
    · split
      · exact .error _
      · exact items_ordered lenient fuel _ _ (by simp) _
    · split
      · exact .error _
      · exact fields_ordered lenient fuel _ _ .nil _
    · split
      · exact .map .number
      · exact .error _

theorem items_ordered (lenient : Bool) : (fuel depth : Nat) → (first : Bool) →
    {done : List Value} → (∀ v ∈ done, v.Ordered) → (cs : List Char) →
    ReadsOrdered (items lenient fuel depth first done cs)
  | 0, _, _, _, _, _ => .error _
  | fuel + 1, depth, first, done, ordered, cs => by
    rw [items]
    refine .bind fun (more, cs) _ => ?_
    cases more with
    | false => exact .ok (.list fun v member => ordered v (List.mem_reverse.mp member)) cs
    | true =>
      refine .bind fun (v, cs) is => ?_
      have head := value_ordered lenient fuel depth _ v cs is
      exact items_ordered lenient fuel depth false (List.forall_mem_cons.mpr ⟨head, ordered⟩) cs

theorem fields_ordered (lenient : Bool) : (fuel depth : Nat) → (first : Bool) →
    {done : TextMap Value} → OrderedFields done → (cs : List Char) →
    ReadsOrdered (fields lenient fuel depth first done cs)
  | 0, _, _, _, _, _ => .error _
  | fuel + 1, depth, first, done, ordered, cs => by
    rw [fields]
    refine .bind fun (key, cs) _ => ?_
    cases key with
    | none => exact .ok (.record ordered.here ordered.each) cs
    | some name =>
      refine .bind fun (v, cs) is => ?_
      have value := value_ordered lenient fuel depth _ v cs is
      exact fields_ordered lenient fuel depth false (ordered.put name value) cs

end

mutual

theorem shaped_ordered : (fuel depth : Nat) → (shape : Shape) → (cs : List Char) →
    ReadsOrdered (shaped fuel depth shape cs)
  | 0, _, _, _ => .error _
  | fuel + 1, depth, .any, cs => by
    rw [shaped]
    exact value_ordered false fuel depth cs
  | fuel + 1, depth, .record members, cs => by
    rw [shaped]
    split
    · split
      · exact .error _
      · exact shapedItems_ordered fuel _ _ _ (by simp) _
    · split
      · exact .error _
      · exact shapedFields_ordered fuel _ _ _ .nil _
    · exact value_ordered false fuel _ _

theorem shapedItems_ordered : (fuel depth : Nat) → (members : List (String × Shape)) →
    (first : Bool) → {done : List Value} → (∀ v ∈ done, v.Ordered) → (cs : List Char) →
    ReadsOrdered (shapedItems fuel depth members first done cs)
  | 0, _, _, _, _, _, _ => .error _
  | fuel + 1, depth, members, first, done, ordered, cs => by
    rw [shapedItems]
    refine .bind fun (more, cs) _ => ?_
    match more, members with
    | false, _ => exact .ok (.list fun v member => ordered v (List.mem_reverse.mp member)) cs
    | true, [] => exact .error _
    | true, (_, shape) :: members =>
      refine .bind fun (v, cs) is => ?_
      have head := shaped_ordered fuel depth shape _ v cs is
      exact shapedItems_ordered fuel depth members false
        (List.forall_mem_cons.mpr ⟨head, ordered⟩) cs

theorem shapedFields_ordered : (fuel depth : Nat) → (members : List (String × Shape)) →
    (first : Bool) → {done : TextMap Value} → OrderedFields done → (cs : List Char) →
    ReadsOrdered (shapedFields fuel depth members first done cs)
  | 0, _, _, _, _, _, _ => .error _
  | fuel + 1, depth, members, first, done, ordered, cs => by
    rw [shapedFields]
    refine .bind fun (key, cs) _ => ?_
    cases key with
    | none => exact .ok (.record ordered.here ordered.each) cs
    | some name =>
      dsimp only
      split
      · exact .bind fun (_, cs) _ => shapedFields_ordered fuel depth members false ordered cs
      case h_2 shape _ =>
        split
        · exact .error _
        · refine .bind fun (v, cs) is => ?_
          have value := shaped_ordered fuel depth shape _ v cs is
          exact shapedFields_ordered fuel depth members false (ordered.put name value) cs

end

theorem readShaped_ordered {shape : Shape} {source : String} {v : Value}
    (read : readShaped shape source = .ok v) : v.Ordered := by
  rw [readShaped] at read
  split at read
  · cases read
  case h_2 parsed =>
    split at read
    · obtain rfl := Except.ok.inj read
      exact shaped_ordered _ _ _ _ _ _ parsed
    · cases read

theorem Value.Ordered.members {v : Value} (ordered : v.Ordered) {names : List String}
    {members : List (String × Value)} (is : v.members? names = some members) :
    ∀ member ∈ members, member.2.Ordered := by
  cases ordered with
  | null | bool | number | text => simp [members?] at is
  | record here each =>
    obtain rfl := Option.some.inj is
    exact each
  | list each =>
    rw [members?, Option.ite_none_right_eq_some] at is
    obtain ⟨-, is⟩ := is
    obtain rfl := Option.some.inj is
    exact fun member zipped => each _ (List.of_mem_zip zipped).2

end LeaseKeeper.Json

namespace LeaseKeeper.Response

open Json Flatten

theorem data_ordered {source : String} {r : Response} (read : read? source = some r)
    {data : Value} (carries : r.data = some data) : data.Ordered := by
  rw [read?] at read
  split at read
  case h_2 => cases read
  case h_1 v is =>
    obtain ⟨members, are, read⟩ := Option.bind_eq_some_iff.mp read
    have ordered := (readShaped_ordered is).members are
    have member : memberOr (Value.asOption? some) none members "data" = some (some data) := by
      simp only [Option.bind_eq_bind, Option.bind_eq_some_iff, Option.pure_def,
        Option.some.injEq] at read
      obtain ⟨_, -, _, -, _, -, _, -, _, found, _, -, _, -, rfl⟩ := read
      rw [found, ← carries]
    cases entry : members.lookup "data" with
    | none => simp [memberOr, entry] at member
    | some v =>
      have same : v = data := by
        cases v with
        | null => simp [memberOr, entry, Value.asOption?] at member
        | _ => simpa [memberOr, entry, Value.asOption?] using member
      exact same ▸ ordered _ (TextMap.mem_of_lookup entry)

/-- The flat data of an answer that reads holds the last leaves of its data, if it has any. -/
theorem find?_flattened {source : String} {r : Response} (read : read? source = some r)
    {key text : String} :
    r.flattened.find? key = some text ↔
      ∃ data place, r.data = some data ∧ LastUnder data key place text := by
  cases carries : r.data with
  | none => simp [flattened, carries, TextMap.find?]
  | some data =>
    rw [flattened, carries]
    simp [find?_flatten (data_ordered read carries)]

end LeaseKeeper.Response
