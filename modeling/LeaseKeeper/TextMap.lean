/-!
Maps keyed by text, kept as lists in increasing key order (code points, which is also the order of
the UTF-8 bytes). A later entry for a key replaces the earlier one.
-/
namespace LeaseKeeper

abbrev TextMap (α : Type) := List (String × α)

namespace TextMap

variable {α β : Type}

def put (key : String) (value : α) : TextMap α → TextMap α
  | [] => [(key, value)]
  | (k, v) :: rest =>
    if key = k then (key, value) :: rest
    else if key < k then (key, value) :: (k, v) :: rest
    else (k, v) :: put key value rest

def find? (key : String) : TextMap α → Option α
  | [] => none
  | (k, v) :: rest => if key = k then some v else find? key rest

def keys (map : TextMap α) : List String := map.map Prod.fst

def mapValues (f : α → β) (map : TextMap α) : TextMap β := map.map fun (k, v) => (k, f v)

/-- The entries in order of insertion; the last one for a key wins. -/
def ofEntries (entries : List (String × α)) : TextMap α :=
  entries.foldl (fun map (k, v) => map.put k v) []

/-- Every key with `start` in front. Equal starts keep the order of the keys. -/
def withStart (start : String) (map : TextMap α) : TextMap α :=
  map.map fun (k, v) => (start ++ k, v)

theorem find?_put_self (key : String) (value : α) (map : TextMap α) :
    find? key (put key value map) = some value := by
  induction map with
  | nil => simp [put, find?]
  | cons entry rest ih =>
    obtain ⟨k, v⟩ := entry
    by_cases same : key = k
    · simp [put, find?, same]
    · by_cases before : key < k
      · simp [put, find?, same, before]
      · simp [put, find?, same, before, ih]

theorem find?_put_of_ne {key other : String} (differ : other ≠ key) (value : α)
    (map : TextMap α) : find? other (put key value map) = find? other map := by
  induction map with
  | nil => simp [put, find?, differ]
  | cons entry rest ih =>
    obtain ⟨k, v⟩ := entry
    by_cases same : key = k
    · subst same
      simp [put, find?, differ]
    · by_cases before : key < k
      · simp [put, find?, same, before, differ]
      · simp [put, find?, same, before, ih]

end TextMap
end LeaseKeeper
