import LeaseKeeper.TextMap
/-!
Text maps as maps. The entries of a map stand in strictly increasing key order, every insertion
keeps this, and of several insertions under one key the last is found. A common start before all
keys changes neither.
-/
namespace LeaseKeeper.TextMap

variable {α : Type} {map : TextMap α}

def Ordered (map : TextMap α) : Prop := map.keys.Pairwise (· < ·)

theorem Ordered.nodup_keys (ordered : Ordered map) : map.keys.Nodup :=
  ordered.imp String.ne_of_lt

theorem ordered_nil : Ordered ([] : TextMap α) := List.Pairwise.nil

theorem ordered_cons {key : String} {value : α} :
    Ordered ((key, value) :: map) ↔ (∀ other ∈ map.keys, key < other) ∧ Ordered map :=
  List.pairwise_cons

theorem mem_keys {key : String} : key ∈ map.keys ↔ ∃ value, (key, value) ∈ map := by
  simp [keys]

theorem mem_keys_iff_find? {key : String} : key ∈ map.keys ↔ (find? key map).isSome := by
  induction map with
  | nil => simp [keys, find?]
  | cons entry rest ih =>
    obtain ⟨other, value⟩ := entry
    have rest_keys : keys ((other, value) :: rest) = other :: keys rest := rfl
    rw [rest_keys, List.mem_cons, ih, find?]
    by_cases same : key = other <;> simp [same]

theorem mem_of_find? {key : String} {value : α} (found : find? key map = some value) :
    (key, value) ∈ map := by
  induction map with
  | nil => cases found
  | cons entry rest ih =>
    obtain ⟨other, first⟩ := entry
    rw [find?] at found
    split at found
    case isTrue same =>
      obtain rfl := Option.some.inj found
      exact same ▸ List.mem_cons_self
    case isFalse differ => exact List.mem_cons_of_mem _ (ih found)

theorem Ordered.find?_eq_some_iff (ordered : Ordered map) {key : String} {value : α} :
    find? key map = some value ↔ (key, value) ∈ map := by
  refine ⟨mem_of_find?, fun member => ?_⟩
  induction map with
  | nil => cases member
  | cons entry rest ih =>
    obtain ⟨other, first⟩ := entry
    obtain ⟨before, ordered⟩ := ordered_cons.mp ordered
    rw [find?]
    rcases List.mem_cons.mp member with same | member
    · obtain ⟨rfl, rfl⟩ := Prod.mk.inj same
      exact if_pos rfl
    · have less : other < key := before key (mem_keys.mpr ⟨value, member⟩)
      rw [if_neg (String.ne_of_lt less).symm, ih ordered member]

theorem find?_put (key other : String) (value : α) (map : TextMap α) :
    find? other (put key value map) = if other = key then some value else find? other map := by
  by_cases same : other = key
  · rw [if_pos same, same, find?_put_self]
  · rw [if_neg same, find?_put_of_ne same]

theorem mem_keys_put {key other : String} {value : α} :
    other ∈ (put key value map).keys ↔ other = key ∨ other ∈ map.keys := by
  rw [mem_keys_iff_find?, mem_keys_iff_find?, find?_put]
  by_cases same : other = key <;> simp [same]

theorem Ordered.put (ordered : Ordered map) (key : String) (value : α) :
    Ordered (put key value map) := by
  induction map with
  | nil => exact ordered_cons.mpr ⟨by simp [keys], ordered_nil⟩
  | cons entry rest ih =>
    obtain ⟨other, first⟩ := entry
    obtain ⟨before, rest_ordered⟩ := ordered_cons.mp ordered
    rw [TextMap.put]
    split
    case isTrue same =>
      subst same
      exact ordered_cons.mpr ⟨before, rest_ordered⟩
    case isFalse differ =>
      split
      case isTrue less =>
        refine ordered_cons.mpr ⟨fun later member => ?_, ordered⟩
        rcases List.mem_cons.mp member with rfl | member
        · exact less
        · exact String.lt_trans less (before later member)
      case isFalse notLess =>
        have greater : other < key :=
          String.not_le.mp fun le => differ (String.le_antisymm le (String.not_lt.mp notLess))
        refine ordered_cons.mpr ⟨fun later member => ?_, ih rest_ordered⟩
        rcases mem_keys_put.mp member with rfl | member
        · exact greater
        · exact before later member

/-! ### Many insertions -/

theorem foldl_put_ordered (entries : List (String × α)) (ordered : Ordered map) :
    Ordered (entries.foldl (fun map (k, v) => map.put k v) map) := by
  induction entries generalizing map with
  | nil => exact ordered
  | cons entry rest ih => exact ih (ordered.put entry.1 entry.2)

theorem find?_foldl_put (key : String) (entries : List (String × α)) (map : TextMap α) :
    find? key (entries.foldl (fun map (k, v) => map.put k v) map) =
      (entries.reverse.lookup key).or (find? key map) := by
  induction entries generalizing map with
  | nil => simp
  | cons entry rest ih =>
    obtain ⟨other, value⟩ := entry
    have single : ([(other, value)].lookup key).or (find? key map) =
        find? key (map.put other value) := by
      by_cases same : key = other
      · simp [find?_put, same]
      · simp [find?_put, List.lookup_cons, same, beq_false_of_ne same]
    rw [List.foldl_cons, ih, List.reverse_cons, List.lookup_append, Option.or_assoc, single]

theorem ordered_ofEntries (entries : List (String × α)) : Ordered (ofEntries entries) :=
  foldl_put_ordered entries ordered_nil

theorem find?_ofEntries (key : String) (entries : List (String × α)) :
    find? key (ofEntries entries) = entries.reverse.lookup key := by
  rw [ofEntries, find?_foldl_put, find?, Option.or_none]

theorem lookup_eq_find? (key : String) (map : TextMap α) : List.lookup key map = find? key map := by
  induction map with
  | nil => rfl
  | cons entry rest ih =>
    obtain ⟨other, value⟩ := entry
    by_cases same : key = other
    · simp [find?, same]
    · simp [find?, List.lookup_cons, beq_false_of_ne same, same, ih]

theorem lookup_ofEntries (key : String) (entries : List (String × α)) :
    List.lookup key (ofEntries entries) = entries.reverse.lookup key := by
  rw [lookup_eq_find?, find?_ofEntries]

theorem mem_of_lookup {entries : List (String × α)} {key : String} {value : α}
    (found : entries.lookup key = some value) : (key, value) ∈ entries := by
  obtain ⟨before, after, rfl, -⟩ := List.lookup_eq_some_iff.mp found
  simp

theorem mem_of_mem_ofEntries {entries : List (String × α)} {entry : String × α}
    (member : entry ∈ ofEntries entries) : entry ∈ entries := by
  have found := (ordered_ofEntries entries).find?_eq_some_iff.mpr member
  rw [find?_ofEntries] at found
  exact List.mem_reverse.mp (mem_of_lookup found)

/-! ### A common start -/

theorem keys_withStart (start : String) (map : TextMap α) :
    (map.withStart start).keys = map.keys.map (start ++ ·) := by
  simp [keys, withStart]

theorem find?_withStart (start key : String) (map : TextMap α) :
    find? (start ++ key) (map.withStart start) = find? key map := by
  induction map with
  | nil => rfl
  | cons entry rest ih =>
    simp only [withStart, List.map_cons, find?, String.append_right_inj] at ih ⊢
    rw [ih]

theorem append_lt_append {start a b : String} (less : a < b) : start ++ a < start ++ b := by
  have chars : start.toList ++ a.toList < start.toList ++ b.toList := List.append_left_lt less
  rwa [← String.toList_append, ← String.toList_append] at chars

theorem Ordered.withStart (ordered : Ordered map) (start : String) :
    Ordered (map.withStart start) := by
  rw [Ordered, keys_withStart]
  exact List.Pairwise.map _ (fun _ _ => append_lt_append) ordered

end LeaseKeeper.TextMap
