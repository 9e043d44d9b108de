import LeaseKeeper.Keeper.Leasing
import LeaseKeeper.Proofs.Lineage.Register

/-!
The rooms of a keeper read and written by secret, so that no later proof looks at the table behind
them, and what vacating a room leaves of its lines.
-/
namespace LeaseKeeper

namespace Table

variable {α β : Type} [DecidableEq α]

theorem put_put (key : α) (first second : β) (t : Table α β) :
    put key second (put key first t) = put key second t := by
  induction t with
  | nil => simp [put]
  | cons entry rest ih =>
    obtain ⟨k, v⟩ := entry
    by_cases same : k = key
    · simp [put, same]
    · simp [put, same, ih]

theorem find?_map (key : α) (f : β → β) (t : Table α β) :
    find? key (t.map fun entry : α × β => (entry.1, f entry.2)) = (find? key t).map f := by
  induction t with
  | nil => rfl
  | cons entry rest ih =>
    obtain ⟨k, v⟩ := entry
    by_cases same : k = key
    · simp [find?, same]
    · simp [find?, same, ih]

theorem mem_of_find? {key : α} {value : β} {t : Table α β} (found : find? key t = some value) :
    (key, value) ∈ t := by
  induction t with
  | nil => cases found
  | cons entry rest ih =>
    obtain ⟨k, v⟩ := entry
    by_cases same : k = key
    · simp only [find?, same, if_true] at found
      obtain rfl := Option.some.inj found
      exact same ▸ List.mem_cons_self
    · simp only [find?, same, if_false] at found
      exact List.mem_cons_of_mem _ (ih found)

end Table

namespace Room

def board (r : Room) (purpose : Purpose) (errand : Errand) : Room :=
  { r with flights := r.flights ++ [⟨purpose, errand⟩] }

theorem flight?_eq_some {r : Room} {purpose : Purpose} {flight : Flight} :
    r.flight? purpose = some flight ↔
      r.awaitsTurn purpose = false ∧ r.flights.find? (·.purpose == purpose) = some flight := by
  cases waiting : r.awaitsTurn purpose <;> simp [flight?, waiting]

theorem mem_of_flight? {r : Room} {purpose : Purpose} {flight : Flight}
    (flown : r.flight? purpose = some flight) : flight ∈ r.flights :=
  List.mem_of_find?_eq_some (flight?_eq_some.mp flown).2

theorem awaitsTurn_of_flight? {r : Room} {purpose : Purpose} {flight : Flight}
    (flown : r.flight? purpose = some flight) : r.awaitsTurn purpose = false :=
  (flight?_eq_some.mp flown).1

theorem flight?_purpose {r : Room} {purpose : Purpose} {flight : Flight}
    (flown : r.flight? purpose = some flight) : flight.purpose = purpose := by
  simpa using List.find?_some (flight?_eq_some.mp flown).2

def vacated (r : Room) : Room :=
  match r.lineNumber?, r.line? with
  | some number, some line => r.setLine number { line with lineage := line.lineage.disable.1 }
  | _, _ => r

theorem line?_eq_some {r : Room} {line : Line} (found : r.line? = some line) :
    ∃ number, r.lineNumber? = some number ∧ r.lines[number]? = some line := by
  simpa [line?, Option.bind_eq_some_iff] using found

theorem line?_of_number {r : Room} {number : Nat} (found : r.lineNumber? = some number) :
    r.line? = r.lines[number]? := by
  simp [line?, found]

@[simp] theorem setLine_lineNumber? (r : Room) (number : Nat) (line : Line) :
    (r.setLine number line).lineNumber? = r.lineNumber? := by
  simp [setLine, lineNumber?]

theorem setLine_lines (r : Room) (number : Nat) (line : Line) (other : Nat) :
    (r.setLine number line).lines[other]? =
      if number = other then r.lines[other]?.map fun _ => line else r.lines[other]? := by
  by_cases same : number = other
  · subst same
    cases found : r.lines[number]? with
    | none =>
      have short := List.getElem?_eq_none_iff.mp found
      simp [setLine, short]
    | some old =>
      have bound := (List.getElem?_eq_some_iff.mp found).1
      simp [setLine, bound]
  · simp [setLine, same]

theorem setLine_lines_self {r : Room} {number : Nat} {old : Line}
    (found : r.lines[number]? = some old) (line : Line) :
    (r.setLine number line).lines[number]? = some line := by
  simp [setLine_lines, found]

theorem setLine_self {r : Room} {number : Nat} {line : Line}
    (found : r.lines[number]? = some line) : r.setLine number line = r := by
  obtain ⟨bound, rfl⟩ := List.getElem?_eq_some_iff.mp found
  simp [setLine]

theorem line?_of_unregistered {r : Room} (unregistered : r.registered = false) :
    r.line? = none := by
  simp [line?, lineNumber?, unregistered]

theorem vacated_of_line {r : Room} {number : Nat} {line : Line}
    (numbered : r.lineNumber? = some number) (found : r.lines[number]? = some line) :
    r.vacated = r.setLine number { line with lineage := line.lineage.disable.1 } := by
  simp [vacated, numbered, line?_of_number numbered, found]

theorem vacated_of_no_line {r : Room} (absent : r.line? = none) : r.vacated = r := by
  cases numbered : r.lineNumber? with
  | none => simp [vacated, numbered]
  | some number => simp [vacated, numbered, absent]

theorem vacated_registered (r : Room) : r.vacated.registered = r.registered := by
  cases found : r.line? with
  | none => rw [vacated_of_no_line found]
  | some line =>
    obtain ⟨number, numbered, present⟩ := line?_eq_some found
    rw [vacated_of_line numbered present]
    rfl

theorem vacated_flights (r : Room) : r.vacated.flights = r.flights := by
  cases found : r.line? with
  | none => rw [vacated_of_no_line found]
  | some line =>
    obtain ⟨number, numbered, present⟩ := line?_eq_some found
    rw [vacated_of_line numbered present]
    rfl

theorem vacated_unasked (r : Room) : r.vacated.unasked = r.unasked := by
  cases found : r.line? with
  | none => rw [vacated_of_no_line found]
  | some line =>
    obtain ⟨number, numbered, present⟩ := line?_eq_some found
    rw [vacated_of_line numbered present]
    rfl

theorem current_setLine {r : Room} {number : Nat} {old : Line}
    (found : r.lines[number]? = some old) (line : Line) :
    (r.setLine number line).current =
      if r.lineNumber? = some number then line.lineage.current else r.current := by
  by_cases used : r.lineNumber? = some number
  · rw [if_pos used, current, line?_of_number (by simpa using used), setLine_lines_self found]
    rfl
  · rw [if_neg used, current, current, line?, line?, setLine_lineNumber?]
    cases numbered : r.lineNumber? with
    | none => rfl
    | some own =>
      have differ : number ≠ own := fun same => used (same ▸ numbered)
      simp [setLine_lines, differ]

theorem current_of_used {r : Room} {number : Nat} {line : Line}
    (used : r.lineNumber? = some number) (found : r.lines[number]? = some line) :
    r.current = line.lineage.current := by
  simp [current, line?_of_number used, found]

theorem current_of_unregistered {r : Room} (unregistered : r.registered = false) :
    r.current = none := by
  simp [current, line?_of_unregistered unregistered]

theorem current_vacated (r : Room) : r.vacated.current = none := by
  cases found : r.line? with
  | none =>
    rw [vacated_of_no_line found, current, found]
    rfl
  | some line =>
    obtain ⟨number, numbered, present⟩ := line?_eq_some found
    rw [vacated_of_line numbered present, current_setLine present, if_pos numbered]
    rfl

theorem current_open (r : Room) :
    ({ r with lines := r.lines ++ [⟨.new, []⟩], registered := true } : Room).current = none := by
  simp [current, line?, lineNumber?, Lineage.current, Lineage.new]

theorem isActive_of_used {r : Room} {number : Nat} {line : Line}
    (used : r.lineNumber? = some number) (found : r.lines[number]? = some line) :
    r.isActive = line.lineage.isActive := by
  simp only [isActive, line?_of_number used, found]

theorem isActive_of_vacant {r : Room} (vacant : r.current = none) : r.isActive = false := by
  cases present : r.line? with
  | none => rw [isActive, present]
  | some line =>
    have empty : line.lineage.slot = none := by
      simpa [current, present, Lineage.current] using vacant
    rw [isActive, present]
    simp only [Lineage.isActive, empty]

theorem isActive_setLine {r : Room} {number : Nat} {old : Line}
    (found : r.lines[number]? = some old) (line : Line) :
    (r.setLine number line).isActive =
      if r.lineNumber? = some number then line.lineage.isActive else r.isActive := by
  by_cases used : r.lineNumber? = some number
  · rw [if_pos used, isActive_of_used ((setLine_lineNumber? r number line).trans used)
      (setLine_lines_self found line)]
  · have line? : (r.setLine number line).line? = r.line? := by
      rw [Room.line?, Room.line?, setLine_lineNumber?]
      cases numbered : r.lineNumber? with
      | none => rfl
      | some other =>
        have differ : number ≠ other := fun same => used (same ▸ numbered)
        simp [setLine_lines, differ]
    rw [if_neg used, isActive, isActive, line?]

theorem isActive_setLine_of_eq {r : Room} {number : Nat} {old line : Line}
    (found : r.lines[number]? = some old)
    (same : line.lineage.isActive = old.lineage.isActive) :
    (r.setLine number line).isActive = r.isActive := by
  rw [isActive_setLine found]
  split
  · rw [same, isActive_of_used ‹_› found]
  · rfl

theorem vacated_vacated (r : Room) : r.vacated.vacated = r.vacated := by
  cases found : r.line? with
  | none => rw [vacated_of_no_line found, vacated_of_no_line found]
  | some line =>
    obtain ⟨number, numbered, present⟩ := line?_eq_some found
    rw [vacated_of_line numbered present]
    have still : (r.setLine number { line with lineage := line.lineage.disable.1 }).lines[number]? =
        some { line with lineage := line.lineage.disable.1 } := by
      simp [setLine_lines, present]
    rw [vacated_of_line (by simpa using numbered) still]
    simp [setLine, Lineage.disable]

end Room

namespace Keeper

variable (k : Keeper) (secret : Secret)

@[simp] theorem room_setRoom_self (room : Room) : (k.setRoom secret room).room secret = room := by
  simp [Keeper.room, setRoom, Table.find?_put_self]

theorem room_setRoom_of_ne {other : Secret} (differ : other ≠ secret) (room : Room) :
    (k.setRoom secret room).room other = k.room other := by
  simp [Keeper.room, setRoom, Table.find?_put_of_ne differ]

theorem forall_setRoom {k : Keeper} {secret : Secret} {room : Room} {P : Secret → Room → Prop}
    (here : P secret room) (there : ∀ other, P other (k.room other)) (other : Secret) :
    P other ((k.setRoom secret room).room other) := by
  by_cases same : other = secret
  · subst same
    rw [room_setRoom_self]
    exact here
  · rw [room_setRoom_of_ne k secret same]
    exact there other

theorem read_setRoom {α : Type} {k : Keeper} {secret : Secret} {room : Room} (read : Room → α)
    (same : read room = read (k.room secret)) (other : Secret) :
    read ((k.setRoom secret room).room other) = read (k.room other) :=
  forall_setRoom (P := fun other room => read room = read (k.room other)) same (fun _ => rfl) other

theorem setRoom_setRoom (first second : Room) :
    (k.setRoom secret first).setRoom secret second = k.setRoom secret second := by
  simp [setRoom, Table.put_put]

def mapRooms (f : Room → Room) : Keeper :=
  { k with rooms := k.rooms.map fun entry : Secret × Room => (entry.1, f entry.2) }

theorem room_mapRooms {f : Room → Room} (fixed : f .empty = .empty) :
    (k.mapRooms f).room secret = f (k.room secret) := by
  simp only [Keeper.room, mapRooms, Table.find?_map]
  cases k.rooms.find? secret with
  | none => exact fixed.symm
  | some room => rfl

theorem room_dropTicket (ticket : Nat) :
    (k.mapRooms (·.dropTicket ticket)).room secret = (k.room secret).dropTicket ticket :=
  room_mapRooms k secret rfl

theorem room_of_rooms {k k' : Keeper} (same : k'.rooms = k.rooms) (secret : Secret) :
    k'.room secret = k.room secret := by
  simp [Keeper.room, same]

theorem mem_registered {k : Keeper} {secret : Secret}
    (present : (k.room secret).registered = true) : secret ∈ k.registered := by
  unfold Keeper.room at present
  cases found : k.rooms.find? secret with
  | none => simp [found, Room.empty] at present
  | some room =>
    rw [found, Option.getD_some] at present
    refine List.mem_map.mpr ⟨(secret, room), List.mem_filter.mpr ⟨?_, present⟩, rfl⟩
    exact Table.mem_of_find? found

theorem vacate_cases : ((k.room secret).line? = none ∧ k.vacate secret = (k, none)) ∨
    ∃ number line, (k.room secret).lineNumber? = some number ∧
      (k.room secret).lines[number]? = some line ∧
      k.vacate secret =
        (k.setRoom secret (k.room secret).vacated, line.lineage.current) := by
  cases found : (k.room secret).line? with
  | none =>
    refine Or.inl ⟨rfl, ?_⟩
    simp only [vacate, found]
    cases (k.room secret).lineNumber? <;> rfl
  | some line =>
    obtain ⟨number, numbered, present⟩ := Room.line?_eq_some found
    refine Or.inr ⟨number, line, numbered, present, ?_⟩
    rw [Room.vacated_of_line numbered present]
    simp only [vacate, numbered, found]
    rfl

theorem vacate_room_self : (k.vacate secret).1.room secret = (k.room secret).vacated := by
  rcases vacate_cases k secret with ⟨absent, result⟩ | ⟨number, line, numbered, present, result⟩
  · rw [result, Room.vacated_of_no_line absent]
  · rw [result, room_setRoom_self]

theorem vacate_room_of_ne {other : Secret} (differ : other ≠ secret) :
    (k.vacate secret).1.room other = k.room other := by
  rcases vacate_cases k secret with ⟨absent, result⟩ | ⟨number, line, numbered, present, result⟩
  · rw [result]
  · rw [result, room_setRoom_of_ne k secret differ]

theorem vacate_setRoom (room : Room) :
    (k.vacate secret).1.setRoom secret room = k.setRoom secret room := by
  rcases vacate_cases k secret with ⟨absent, result⟩ | ⟨number, line, numbered, present, result⟩
  · rw [result]
  · rw [result, setRoom_setRoom]

theorem vacate_frame : ∃ rooms, (k.vacate secret).1 = { k with rooms } := by
  rcases vacate_cases k secret with ⟨absent, result⟩ | ⟨number, line, numbered, present, result⟩
  · exact ⟨k.rooms, by rw [result]⟩
  · exact ⟨_, by rw [result, setRoom]⟩

theorem vacate_lease : (k.vacate secret).2 = k.current secret := by
  rcases vacate_cases k secret with ⟨absent, result⟩ | ⟨number, line, numbered, present, result⟩
  · simp [result, current, Room.current, absent]
  · simp [result, current, Room.current, Room.line?_of_number numbered, present]

def without : Keeper :=
  k.setRoom secret { (k.room secret).vacated with registered := false, data := none }

theorem remove_eq (ticket : Nat) (present : (k.room secret).registered = true) :
    k.remove ticket secret =
      match k.current secret with
      | some lease =>
        if lease.isRevocable then
          ((k.without secret).revoke secret (.remove ticket) lease (.ok lease), none)
        else (k.without secret, some true)
      | none => (k.without secret, some true) := by
  rw [← vacate_lease, without, ← vacate_room_self, ← vacate_setRoom]
  exact if_pos present

def vacateAll (secrets : List Secret) : Keeper :=
  secrets.foldl (fun k secret => (k.vacate secret).1) k

theorem vacateAll_frame (secrets : List Secret) :
    ∃ rooms, k.vacateAll secrets = { k with rooms } := by
  induction secrets generalizing k with
  | nil => exact ⟨k.rooms, rfl⟩
  | cons secret rest ih =>
    obtain ⟨first, vacated⟩ := vacate_frame k secret
    obtain ⟨rooms, later⟩ := ih (k.vacate secret).1
    rw [vacated] at later
    exact ⟨rooms, (congrArg (vacateAll · rest) vacated).trans later⟩

theorem vacateAll_room {secrets : List Secret}
    (all : ∀ secret, (k.room secret).registered = true → secret ∈ secrets) (secret : Secret) :
    (k.vacateAll secrets).room secret = (k.room secret).vacated := by
  have listed (secrets : List Secret) (k : Keeper) : (k.vacateAll secrets).room secret =
      if secret ∈ secrets then (k.room secret).vacated else k.room secret := by
    induction secrets generalizing k with
    | nil => rfl
    | cons first rest ih =>
      apply (ih (k.vacate first).1).trans
      by_cases same : secret = first
      · subst same
        simp [vacate_room_self, Room.vacated_vacated]
      · simp [vacate_room_of_ne k first same, same]
  rw [listed]
  by_cases member : secret ∈ secrets
  · rw [if_pos member]
  · rw [if_neg member]
    have unregistered : (k.room secret).registered = false := by
      simpa using mt (all secret) member
    exact (Room.vacated_of_no_line (Room.line?_of_unregistered unregistered)).symm

/-! ### Stopping -/

def gather (found : Keeper × List (Secret × Lease)) (secret : Secret) :
    Keeper × List (Secret × Lease) :=
  match found.1.vacate secret with
  | (k, some lease) => (k, found.2 ++ [(secret, lease)])
  | (k, none) => (k, found.2)

theorem gather_vacateAll (secrets : List Secret) (found : Keeper × List (Secret × Lease)) :
    (secrets.foldl gather found).1 = found.1.vacateAll secrets := by
  refine (List.foldl_hom Prod.fst ?_).symm
  rintro ⟨k, leases⟩ secret
  simp only [gather]
  rcases k.vacate secret with ⟨_, _ | _⟩ <;> rfl

def emptied : Keeper :=
  ({ k with started := false }.vacateAll k.registered).mapRooms ({ · with data := none })

def takings : List (Secret × Lease) :=
  (k.registered.foldl gather ({ k with started := false }, [])).2

theorem destroy_eq (ticket : Nat) : (k.destroy ticket).1 =
    (k.takings.filter (·.2.isRevocable)).foldl (fun k (secret, lease) =>
      k.revoke secret (.destroy ticket) lease (.ok lease)) (k.emptied.setGauge 0) := by
  have first : { k with started := false }.vacateAll k.registered =
      (k.registered.foldl gather ({ k with started := false }, [])).1 :=
    (gather_vacateAll k.registered ({ k with started := false }, [])).symm
  unfold emptied
  rw [first]
  rfl

theorem emptied_frame : ∃ rooms, k.emptied = { k with started := false, rooms } := by
  obtain ⟨rooms, frame⟩ := vacateAll_frame { k with started := false } k.registered
  exact ⟨_, congrArg (mapRooms · _) frame⟩

theorem room_emptied : k.emptied.room secret = { (k.room secret).vacated with data := none } := by
  unfold emptied
  rw [room_mapRooms _ _ rfl, vacateAll_room]
  · rfl
  · exact fun _ present => mem_registered present

end Keeper

end LeaseKeeper
