/-!
Tables kept as lists of pairs, at most one for each key, in the order in which the keys came.
-/
namespace LeaseKeeper

abbrev Table (α β : Type) := List (α × β)

namespace Table

variable {α β : Type} [DecidableEq α]

def find? (key : α) : Table α β → Option β
  | [] => none
  | (k, v) :: rest => if k = key then some v else find? key rest

def put (key : α) (value : β) : Table α β → Table α β
  | [] => [(key, value)]
  | (k, v) :: rest => if k = key then (k, value) :: rest else (k, v) :: put key value rest

def erase (key : α) : Table α β → Table α β
  | [] => []
  | (k, v) :: rest => if k = key then erase key rest else (k, v) :: erase key rest

def adjust (key : α) (f : β → β) : Table α β → Table α β
  | [] => []
  | (k, v) :: rest => if k = key then (k, f v) :: rest else (k, v) :: adjust key f rest

theorem find?_put_self (key : α) (value : β) (t : Table α β) :
    find? key (put key value t) = some value := by
  induction t with
  | nil => simp [put, find?]
  | cons entry rest ih =>
    obtain ⟨k, v⟩ := entry
    by_cases same : k = key
    · simp [put, find?, same]
    · simp [put, find?, same, ih]

theorem find?_put_of_ne {key other : α} (differ : other ≠ key) (value : β) (t : Table α β) :
    find? other (put key value t) = find? other t := by
  induction t with
  | nil => simp [put, find?, Ne.symm differ]
  | cons entry rest ih =>
    obtain ⟨k, v⟩ := entry
    by_cases same : k = key
    · subst same
      simp [put, find?, Ne.symm differ]
    · by_cases here : k = other
      · subst here
        simp [put, find?, differ]
      · simp [put, find?, same, here, ih]

theorem find?_adjust_self (key : α) (f : β → β) (t : Table α β) :
    find? key (adjust key f t) = (find? key t).map f := by
  induction t with
  | nil => rfl
  | cons entry rest ih =>
    obtain ⟨k, v⟩ := entry
    by_cases same : k = key
    · simp [adjust, find?, same]
    · simp [adjust, find?, same, ih]

theorem find?_adjust_of_ne {key other : α} (differ : other ≠ key) (f : β → β) (t : Table α β) :
    find? other (adjust key f t) = find? other t := by
  induction t with
  | nil => rfl
  | cons entry rest ih =>
    obtain ⟨k, v⟩ := entry
    by_cases same : k = key
    · subst same
      simp [adjust, find?, Ne.symm differ]
    · by_cases here : k = other
      · subst here
        simp [adjust, find?, differ]
      · simp [adjust, find?, same, here, ih]

end Table
end LeaseKeeper
