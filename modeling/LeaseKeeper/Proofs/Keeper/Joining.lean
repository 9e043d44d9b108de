import LeaseKeeper.Proofs.Keeper.Chores

/-!
How a bind begins, goes on and ends, as chores and a few things more. Its source takes a seat, and
is filled at once if the keeper has data for it; then the bind waits for its registration or for its
fetch; and in the end it gives its source out, or lets it go, and removes its secret first if the
bind itself had registered it.
-/
namespace LeaseKeeper

def Binding.isPending (b : Binding) : Bool :=
  match b.stage with
  | .removing _ => false
  | _ => true

structure Binding.Continues (b b' : Binding) : Prop where
  secret : b'.secret = b.secret
  failFast : b'.failFast = b.failFast
  added : b'.added = b.added
  stage : b'.stage = .fetching ∨ b'.stage = b.stage ∨ b.added = true

theorem Binding.Continues.refl (b : Binding) : b.Continues b :=
  ⟨rfl, rfl, rfl, Or.inr (Or.inl rfl)⟩

def Source.still (s : Source) : Source := { s with state := .uninitialized }

def Entry.isQuiet : Entry → Bool
  | .returned _ _ => false
  | .call _ purpose _ => !purpose.isRemoval
  | _ => true

theorem Entry.isQuiet_of_isChore {entry : Entry} (daily : entry.isChore = true) :
    entry.isQuiet = true := by
  cases entry with
  | call => exact daily
  | armed => rfl
  | _ => cases daily

namespace Keeper

variable {k k' k'' k₁ : Keeper} {secret : Secret} {ticket : Nat} {b : Binding} {fault : Fault}

def still (k : Keeper) (id : Nat) : Option Source := (k.sources.find? id).map Source.still

/-! ### What chores leave alone -/

def Logs (P : Entry → Prop) (k k' : Keeper) : Prop :=
  ∃ fresh, k'.journal = fresh ++ k.journal ∧ ∀ entry ∈ fresh, P entry.2

namespace Logs

variable {P Q : Entry → Prop}

theorem of_journal (same : k'.journal = k.journal) : Logs P k k' := ⟨[], same, by simp⟩

theorem of_entry {time : Nat} {entry : Entry} (plain : P entry)
    (journal : k'.journal = (time, entry) :: k.journal) : Logs P k k' := by
  refine ⟨[(time, entry)], journal, fun other member => ?_⟩
  obtain rfl := List.mem_singleton.mp member
  exact plain

theorem trans (first : Logs P k k') (second : Logs P k' k'') : Logs P k k'' := by
  obtain ⟨early, before, plain⟩ := first
  obtain ⟨late, after, plain'⟩ := second
  refine ⟨late ++ early, by rw [after, before, List.append_assoc], fun entry member => ?_⟩
  rcases List.mem_append.mp member with new | old
  · exact plain' entry new
  · exact plain entry old

theorem mono (logs : Logs P k k') (weaker : ∀ entry, P entry → Q entry) : Logs Q k k' := by
  obtain ⟨fresh, journal, plain⟩ := logs
  exact ⟨fresh, journal, fun entry member => weaker entry.2 (plain entry member)⟩

end Logs

structure Apart (k k' : Keeper) : Prop where
  binds : k'.binds = k.binds
  leaseListeners : k'.leaseListeners = k.leaseListeners
  still : k'.still = k.still
  rooms : ∀ secret, (k.room secret).Keeps (k'.room secret)
  journal : Logs (·.isQuiet = true) k k'

namespace Apart

theorem refl (k : Keeper) : Apart k k := ⟨rfl, rfl, rfl, fun _ => .refl _, .of_journal rfl⟩

theorem trans (first : Apart k k') (second : Apart k' k'') : Apart k k'' :=
  ⟨second.binds.trans first.binds, second.leaseListeners.trans first.leaseListeners,
    second.still.trans first.still,
    fun secret => (first.rooms secret).trans (second.rooms secret),
    first.journal.trans second.journal⟩

end Apart

theorem hear_still {e : LeaseEvent} (plain : (Entry.event e).isAside = true) (s : Source) :
    (s.hear e).still = s.still := by
  unfold Source.hear
  split
  · cases e with
    | created => cases plain
    | afterRenewed => dsimp only; split <;> rfl
    | _ => rfl
  · rfl

theorem hearFault_still (secret : Secret) (fault : Fault) (s : Source) :
    (s.hearFault secret fault).still = s.still := by
  unfold Source.hearFault
  split <;> rfl

theorem adjust_still {f : Source → Source} (still : ∀ s, (f s).still = s.still)
    (t : Table Nat Source) (key id : Nat) :
    ((t.adjust key f).find? id).map Source.still = (t.find? id).map Source.still := by
  by_cases same : id = key
  · subst same
    rw [Table.find?_adjust_self]
    cases t.find? id with
    | none => rfl
    | some s => simp [still]
  · rw [Table.find?_adjust_of_ne same]

theorem emit_still (k : Keeper) {e : LeaseEvent} (plain : (Entry.event e).isAside = true) :
    (k.emit e).still = k.still := by
  refine (read_foldl Keeper.still ?_ _ _).trans rfl
  rintro k ⟨_, listener⟩
  cases listener with
  | observer => rfl
  | source id => exact funext (adjust_still (hear_still plain) k.sources id)

theorem report_still (k : Keeper) (secret : Secret) (lease : Lease) (fault : Fault) :
    (k.report secret lease fault).1.still = k.still := by
  refine (read_foldl (fun state : Keeper × Bool => state.1.still) ?_ _ _).trans rfl
  rintro ⟨k, held⟩ ⟨_, listener⟩
  cases listener with
  | observer => rfl
  | source id => exact funext (adjust_still (hearFault_still secret fault) k.sources id)
  | capture ticket =>
    simp only [catchFault]
    split
    · rfl
    · split <;> rfl

theorem emit_leaseListeners (k : Keeper) (e : LeaseEvent) :
    (k.emit e).leaseListeners = k.leaseListeners := by
  refine (read_foldl Keeper.leaseListeners ?_ _ _).trans rfl
  rintro k ⟨_, listener⟩
  cases listener <;> rfl

theorem report_leaseListeners (k : Keeper) (secret : Secret) (lease : Lease) (fault : Fault) :
    (k.report secret lease fault).1.leaseListeners = k.leaseListeners := by
  refine (read_foldl (fun state : Keeper × Bool => state.1.leaseListeners) ?_ _ _).trans rfl
  rintro ⟨k, held⟩ ⟨_, listener⟩
  cases listener with
  | capture ticket =>
    simp only [catchFault]
    split
    · rfl
    · split <;> rfl
  | _ => rfl

theorem Apart.of_rooms (binds : k'.binds = k.binds)
    (leaseListeners : k'.leaseListeners = k.leaseListeners) (still : k'.still = k.still)
    (journal : k'.journal = k.journal) (rooms : ∀ secret, (k.room secret).Keeps (k'.room secret)) :
    Apart k k' := ⟨binds, leaseListeners, still, rooms, .of_journal journal⟩

theorem Apart.noted (binds : k'.binds = k.binds)
    (leaseListeners : k'.leaseListeners = k.leaseListeners) (still : k'.still = k.still)
    (rooms : k'.rooms = k.rooms) {entry : Entry} (quiet : entry.isQuiet = true)
    (journal : k'.journal = (k.now, entry) :: k.journal) : Apart k k' := by
  refine ⟨binds, leaseListeners, still, fun secret => ?_, .of_entry quiet journal⟩
  rw [room_of_rooms rooms]
  exact .refl _

theorem Chore.apart (chore : Chore k k') : Apart k k' := by
  cases chore with
  | housed secret room keeps =>
    refine .of_rooms rfl rfl rfl rfl ?_
    exact forall_setRoom (P := fun secret room => (k.room secret).Keeps room) keeps fun _ => .refl _
  | noted entry daily => exact .noted rfl rfl rfl rfl (Entry.isQuiet_of_isChore daily) rfl
  | emitted e plain =>
    have quiet : (Entry.event e).isQuiet = true := rfl
    exact .noted (emit_binds k e) (emit_leaseListeners k e) (emit_still k plain)
      (emit_tells k e).rooms quiet (emit_journal k e)
  | reported secret lease fault =>
    have told := report_telling k secret lease fault
    have quiet : (Entry.fault secret lease fault).isQuiet = true := rfl
    exact .noted told.binds (report_leaseListeners k secret lease fault)
      (report_still k secret lease fault) told.rooms quiet (report_journal k secret lease fault)
  | set => exact .of_rooms rfl rfl rfl rfl fun _ => .refl _
  | emptied =>
    obtain ⟨rooms, frame⟩ := emptied_frame k
    have still : k.emptied.still = k.still := by
      rw [frame]
      rfl
    refine .of_rooms (by rw [frame]) (by rw [frame]) still (by rw [frame]) fun secret => ?_
    rw [room_emptied]
    exact ⟨fun present => (Room.vacated_registered _).trans present, Or.inr rfl⟩
  | forsaken ticket =>
    refine .of_rooms rfl rfl rfl rfl fun secret => ?_
    rw [room_dropTicket]
    exact ⟨id, Or.inl rfl⟩

theorem Chores.apart (chores : Chores k k') : Apart k k' := by
  induction chores with
  | refl => exact .refl k
  | tail _ last ih => exact ih.trans last.apart

/-! ### How a bind ends -/

def ended (k : Keeper) (ticket : Nat) (answer : KeeperAnswer) : Keeper :=
  { k with binds := k.binds.erase ticket }.note (.returned ticket answer)

inductive Concludes (k : Keeper) (ticket : Nat) (b : Binding) : Keeper → Prop where
  | finished (free : b.failFast = false ∨ (k.release ticket).2 = none) :
      Concludes k ticket b ((k.release ticket).1.finishBind ticket)
  | failed (fault : Fault) (caught : (k.release ticket).2 = some fault)
      (failFast : b.failFast = true) (foreign : b.added = false) :
      Concludes k ticket b ((k.release ticket).1.failBind ticket fault)
  | undone (fault : Fault) (flag : Bool) (caught : (k.release ticket).2 = some fault)
      (failFast : b.failFast = true) (own : b.added = true)
      (through : ((k.release ticket).1.remove ticket b.secret).2 = some flag) :
      Concludes k ticket b
        (((k.release ticket).1.remove ticket b.secret).1.failBind ticket fault)
  | undoing (fault : Fault) (caught : (k.release ticket).2 = some fault)
      (failFast : b.failFast = true) (own : b.added = true)
      (waits : ((k.release ticket).1.remove ticket b.secret).2 = none) :
      Concludes k ticket b
        (((k.release ticket).1.remove ticket b.secret).1.setStage ticket
          { b with stage := .removing fault })

theorem bindFetched_concludes (k : Keeper) (ticket : Nat) (b : Binding) :
    Concludes k ticket b (k.bindFetched ticket b) := by
  obtain ⟨secret, failFast, added, stage⟩ := b
  unfold bindFetched
  rcases released : k.release ticket with ⟨k₁, _ | fault⟩
  · obtain rfl : (k.release ticket).1 = k₁ := congrArg Prod.fst released
    exact .finished (Or.inr (congrArg Prod.snd released))
  · obtain rfl : (k.release ticket).1 = k₁ := congrArg Prod.fst released
    have caught : (k.release ticket).2 = some fault := congrArg Prod.snd released
    dsimp only
    cases failFast with
    | false => exact .finished (Or.inl rfl)
    | true =>
      cases added with
      | false => exact .failed fault caught rfl rfl
      | true =>
        rcases removed : (k.release ticket).1.remove ticket secret with ⟨k₂, _ | flag⟩
        · obtain rfl : ((k.release ticket).1.remove ticket secret).1 = k₂ :=
            congrArg Prod.fst removed
          exact .undoing fault caught rfl rfl (congrArg Prod.snd removed)
        · obtain rfl : ((k.release ticket).1.remove ticket secret).1 = k₂ :=
            congrArg Prod.fst removed
          exact .undone fault flag caught rfl rfl (congrArg Prod.snd removed)

/-- A bind that was registered waits for its fetch or ends. -/
inductive Joins (k : Keeper) (ticket : Nat) (b : Binding) : Keeper → Prop where
  | waits (k₁ : Keeper) (chores : Chores k k₁) :
      Joins k ticket b (k₁.setStage ticket { b with stage := .fetching })
  | concludes (k₁ k' : Keeper) (chores : Chores k k₁) (concludes : Concludes k₁ ticket b k') :
      Joins k ticket b k'

def seeded (k : Keeper) (ticket : Nat) (b : Binding) : Keeper :=
  if k.started && !b.added then
    match k.data b.secret with
    | some data => k.tellSource ticket (·.seed data)
    | none => k
  else k

theorem seeded_of_added (k : Keeper) (ticket : Nat) (added : b.added = true) :
    k.seeded ticket b = k := by
  simp [seeded, added]

theorem bindAdded_joins (k : Keeper) (ticket : Nat) (b : Binding) :
    Joins (k.seeded ticket b) ticket b (k.bindAdded ticket b) := by
  obtain ⟨secret, failFast, added, stage⟩ := b
  unfold bindAdded seeded
  dsimp only
  cases started : k.started with
  | false =>
    have begun := Chores.start k ticket
    simp only [Bool.not_false, if_true, Bool.false_and, Bool.false_eq_true, if_false]
    generalize k.start ticket = outcome at begun
    obtain ⟨k₁, _ | _⟩ := outcome
    · exact .waits k₁ begun
    · exact .concludes k₁ _ begun (bindFetched_concludes k₁ ticket _)
  | true =>
    simp only [Bool.not_true, Bool.false_eq_true, if_false, Bool.true_and]
    cases added with
    | true => exact .concludes k _ .refl (bindFetched_concludes k ticket _)
    | false =>
      simp only [Bool.not_false, if_true]
      cases k.data secret with
      | some data => exact .concludes _ _ .refl (bindFetched_concludes _ ticket _)
      | none =>
        have rotated := Chores.rotate k ticket secret
        dsimp only
        generalize k.rotate ticket secret = outcome at rotated
        obtain ⟨k₁, _ | fault⟩ := outcome
        · exact .waits k₁ rotated
        · exact .concludes k₁ _ rotated (bindFetched_concludes k₁ ticket _)

/-! ### How a bind begins -/

def seated (k : Keeper) (ticket : Nat) (secret : Secret) (start : String) : Keeper :=
  let source : Source := ⟨secret, start, k.policy.strategy, [], .uninitialized,
    k.leaseListeners.issued, k.faultListeners.issued⟩
  let faultListeners := k.faultListeners.add (.source ticket)
  { k with
    leaseListeners := k.leaseListeners.add (.source ticket)
    faultListeners := faultListeners.add (.capture ticket)
    sources := k.sources.put ticket source
    captures := k.captures.put ticket ⟨secret, faultListeners.issued, none⟩ }

def arriving (k : Keeper) (secret : Secret) (failFast : Bool) : Binding :=
  ⟨secret, failFast, !(k.room secret).registered, .adding⟩

inductive Alights (k : Keeper) (ticket : Nat) (b : Binding) : Keeper → Prop where
  | waits (k₁ : Keeper) (stage : BindStage) (chores : Chores k k₁)
      (pending : stage = .adding ∧ b.added = true ∨ stage = .fetching) :
      Alights k ticket b (k₁.setStage ticket { b with stage })
  | finished (k₁ : Keeper) (chores : Chores k k₁) :
      Alights k ticket b ((k₁.release ticket).1.finishBind ticket)

theorem Alights.after {k₁ : Keeper} (chores : Chores k k₁) (alights : Alights k₁ ticket b k') :
    Alights k ticket b k' := by
  cases alights with
  | waits k₂ stage later pending => exact .waits k₂ stage (chores.trans later) pending
  | finished k₂ later => exact .finished k₂ (chores.trans later)

def isClear (k : Keeper) (ticket : Nat) : Prop :=
  ∃ capture, k.captures.find? ticket = some capture ∧ capture.first = none

theorem bindFetched_of_clear (clear : k.isClear ticket) (b : Binding) :
    k.bindFetched ticket b = (k.release ticket).1.finishBind ticket := by
  obtain ⟨capture, found, unfaulted⟩ := clear
  have nothing : (k.release ticket).2 = none := by simp [release, found, unfaulted]
  unfold bindFetched
  generalize k.release ticket = outcome at nothing
  obtain ⟨k₁, _ | fault⟩ := outcome
  · rfl
  · cases nothing

theorem start_waits (idle : k.started = false) (present : (k.room secret).registered = true)
    (ticket : Nat) : (k.start ticket).2 = false := by
  have listed := List.ne_nil_of_mem (mem_registered present)
  simp [start, idle, listed]

theorem bindAdded_alights (clear : k.isClear ticket)
    (present : (k.room b.secret).registered = true) :
    Alights (k.seeded ticket b) ticket b (k.bindAdded ticket b) := by
  have finished {k' : Keeper} (clear : k'.isClear ticket) :
      Alights k' ticket b (k'.bindFetched ticket b) :=
    bindFetched_of_clear clear b ▸ .finished k' .refl
  obtain ⟨secret, failFast, added, stage⟩ := b
  unfold bindAdded seeded
  dsimp only
  cases started : k.started with
  | false =>
    have begun := Chores.start k ticket
    have waits := start_waits started present ticket
    simp only [Bool.not_false, if_true, Bool.false_and, Bool.false_eq_true, if_false]
    generalize k.start ticket = outcome at begun waits
    obtain ⟨k₁, _ | _⟩ := outcome
    · exact .waits k₁ .fetching begun (Or.inr rfl)
    · cases waits
  | true =>
    simp only [Bool.not_true, Bool.false_eq_true, if_false, Bool.true_and]
    cases added with
    | true => exact finished clear
    | false =>
      simp only [Bool.not_false, if_true]
      cases k.data secret with
      | some data => exact finished clear
      | none =>
        have registered : (k.room secret).registered = true := present
        simp only [rotate, registered, started]
        exact .waits _ .fetching (.call rfl k secret _) (Or.inr rfl)

def enlisted (k : Keeper) (secret : Secret) : Keeper :=
  k.setRoom secret
    { k.room secret with
      lines := (k.room secret).lines ++ [⟨.new, []⟩]
      registered := true }

inductive Adds (k : Keeper) (ticket : Nat) (secret : Secret) : Keeper × Option Bool → Prop where
  | known (present : (k.room secret).registered = true) : Adds k ticket secret (k, some false)
  | fetched (absent : (k.room secret).registered = false) (running : k.started = true) :
      Adds k ticket secret ((k.enlisted secret).call secret (.register ticket) .fetch, none)
  | waits (absent : (k.room secret).registered = false) (idle : k.started = false) :
      Adds k ticket secret (k.enlisted secret, some true)

theorem add_adds (k : Keeper) (ticket : Nat) (secret : Secret) :
    Adds k ticket secret (k.add ticket secret) := by
  have added : k.add ticket secret = if (k.room secret).registered then (k, some false)
      else if k.started then ((k.enlisted secret).call secret (.register ticket) .fetch, none)
      else (k.enlisted secret, some true) := rfl
  rw [added]
  cases registered : (k.room secret).registered with
  | true => exact .known registered
  | false =>
    cases started : k.started with
    | true => exact .fetched registered started
    | false => exact .waits registered started

theorem bind_of_waiting {start : String}
    (waits : (k.seated ticket secret start).add ticket secret = (k₁, none)) (failFast : Bool) :
    k.bind ticket secret failFast start =
      k₁.setStage ticket ⟨secret, failFast, true, .adding⟩ := by
  unfold seated at waits
  simp only [bind, waits]

theorem bind_of_answered {start : String} {added : Bool}
    (answered : (k.seated ticket secret start).add ticket secret = (k₁, some added))
    (failFast : Bool) :
    k.bind ticket secret failFast start =
      k₁.bindAdded ticket ⟨secret, failFast, added, .adding⟩ := by
  unfold seated at answered
  simp only [bind, answered]

theorem bind_alights (k : Keeper) (ticket : Nat) (secret : Secret) (failFast : Bool)
    (start : String) :
    Alights ((k.seated ticket secret start).seeded ticket (k.arriving secret failFast)) ticket
      (k.arriving secret failFast) (k.bind ticket secret failFast start) := by
  have clear : (k.seated ticket secret start).isClear ticket :=
    ⟨_, Table.find?_put_self ticket _ _, rfl⟩
  have arriving : k.arriving secret failFast =
      ⟨secret, failFast, !((k.seated ticket secret start).room secret).registered, .adding⟩ := rfl
  have chores := Chores.add (k.seated ticket secret start) ticket secret
  have adds := add_adds (k.seated ticket secret start) ticket secret
  rw [arriving]
  generalize outcome : (k.seated ticket secret start).add ticket secret = added at chores adds
  cases adds with
  | known present =>
    rw [bind_of_answered outcome, present]
    exact bindAdded_alights clear present
  | fetched absent =>
    rw [bind_of_waiting outcome, absent, seeded_of_added _ ticket rfl]
    exact .waits _ .adding chores (Or.inl ⟨rfl, rfl⟩)
  | waits absent =>
    have present : (((k.seated ticket secret start).enlisted secret).room secret).registered =
        true := by
      rw [enlisted, room_setRoom_self]
    have alights : Alights _ ticket ⟨secret, failFast, true, .adding⟩ _ :=
      bindAdded_alights (k := (k.seated ticket secret start).enlisted secret) clear present
    rw [seeded_of_added _ ticket rfl] at alights
    rw [bind_of_answered outcome, absent, seeded_of_added _ ticket rfl]
    exact alights.after chores

/-! ### How an operation ends -/

/-- A bind that waits for its registration, or for the end of it, has asked for it itself. -/
def Registers (k : Keeper) : Prop :=
  ∀ ticket b, k.binds.find? ticket = some b → b.stage ≠ .fetching → b.added = true

inductive Proceeds (k : Keeper) (ticket : Nat) : Keeper → Prop where
  | unbound (answer : KeeperAnswer) (free : k.binds.find? ticket = none) :
      Proceeds k ticket (k.note (.returned ticket answer))
  | joins (b : Binding) (k' : Keeper) (bound : k.binds.find? ticket = some b)
      (pending : b.isPending = true) (joins : Joins k ticket b k') : Proceeds k ticket k'
  | failed (b : Binding) (fault : Fault) (bound : k.binds.find? ticket = some b)
      (removing : b.stage = .removing fault) : Proceeds k ticket (k.failBind ticket fault)
  | died : Proceeds k ticket (((k.release ticket).1.dropSource ticket).ended ticket .crashed)

theorem complete_proceeds (registers : k.Registers) (ticket : Nat) (answer : KeeperAnswer) :
    Proceeds k ticket (k.complete ticket answer) := by
  unfold complete
  cases bound : k.binds.find? ticket with
  | none => exact .unbound answer bound
  | some b =>
    dsimp only
    cases stage : b.stage with
    | adding =>
      have joins := bindAdded_joins k ticket b
      rw [seeded_of_added k ticket (registers ticket b bound (by simp [stage]))] at joins
      exact .joins b _ bound (by simp [Binding.isPending, stage]) joins
    | fetching =>
      exact .joins b _ bound (by simp [Binding.isPending, stage])
        (.concludes k _ .refl (bindFetched_concludes k ticket b))
    | removing fault => exact .failed b fault bound stage

theorem crash_proceeds (k : Keeper) (ticket : Nat) :
    Proceeds (k.mapRooms (·.dropTicket ticket)) ticket (k.crash ticket) := by
  unfold crash
  dsimp only
  cases bound : k.binds.find? ticket with
  | none => exact .unbound .crashed bound
  | some b => exact .died

/-! ### The binds of a run -/

theorem Concludes.binds (concludes : Concludes k ticket b k') :
    k'.binds = k.binds.erase ticket ∨ b.added = true ∧
      ∃ fault, k'.binds = k.binds.put ticket { b with stage := .removing fault } := by
  have released : (k.release ticket).1.binds = k.binds := (release_telling k ticket).binds
  have removed : ((k.release ticket).1.remove ticket b.secret).1.binds = k.binds :=
    (Spares.remove _ ticket b.secret).carries.binds.trans released
  have failed (k₁ : Keeper) (fault : Fault) :
      (k₁.failBind ticket fault).binds = k₁.binds.erase ticket :=
    congrArg (Table.erase ticket) (dropSource_telling k₁ ticket).binds
  cases concludes with
  | finished => exact Or.inl (congrArg (Table.erase ticket) released)
  | failed fault => exact Or.inl ((failed _ fault).trans (congrArg (Table.erase ticket) released))
  | undone fault => exact Or.inl ((failed _ fault).trans (congrArg (Table.erase ticket) removed))
  | undoing fault _ _ own => exact Or.inr ⟨own, fault, congrArg (Table.put ticket _) removed⟩

theorem find?_erase {other : Nat} {t : Table Nat Binding} {b' : Binding}
    (found : (t.erase ticket).find? other = some b') :
    other ≠ ticket ∧ t.find? other = some b' := by
  by_cases same : other = ticket
  · rw [same, Table.find?_erase_self] at found
    cases found
  · rw [Table.find?_erase_of_ne same] at found
    exact ⟨same, found⟩

theorem Proceeds.continues (proceeds : Proceeds k ticket k') {other : Nat} {b' : Binding}
    (bound' : k'.binds.find? other = some b') :
    ∃ b, k.binds.find? other = some b ∧ b.Continues b' := by
  have old {b'} (bound' : k.binds.find? other = some b') :
      ∃ b, k.binds.find? other = some b ∧ b.Continues b' := ⟨b', bound', .refl b'⟩
  -- the bind of the ticket is put back at another stage
  have staged {b : Binding} (bound : k.binds.find? ticket = some b) {stage : BindStage}
      (own : stage = .fetching ∨ b.added = true)
      (bound' : (k.binds.put ticket { b with stage }).find? other = some b') :
      ∃ b, k.binds.find? other = some b ∧ b.Continues b' := by
    by_cases same : other = ticket
    · subst same
      rw [Table.find?_put_self] at bound'
      obtain rfl := Option.some.inj bound'
      exact ⟨b, bound, rfl, rfl, rfl, own.imp_right Or.inr⟩
    · rw [Table.find?_put_of_ne same] at bound'
      exact old bound'
  cases proceeds with
  | unbound => exact old bound'
  | joins b _ bound _ joins =>
    cases joins with
    | waits k₁ chores =>
      rw [setStage, chores.apart.binds] at bound'
      exact staged bound (Or.inl rfl) bound'
    | concludes k₁ _ chores concludes =>
      rcases concludes.binds with erased | ⟨own, fault, put⟩
      · rw [erased, chores.apart.binds] at bound'
        exact old (find?_erase bound').2
      · rw [put, chores.apart.binds] at bound'
        exact staged bound (Or.inr own) bound'
  | failed b fault =>
    have erased : (k.failBind ticket fault).binds = k.binds.erase ticket :=
      congrArg (Table.erase ticket) (dropSource_telling k ticket).binds
    rw [erased] at bound'
    exact old (find?_erase bound').2
  | died =>
    have dropped := ((release_telling k ticket).trans (dropSource_telling _ ticket)).binds
    rw [ended, note, dropped] at bound'
    exact old (find?_erase bound').2

theorem Alights.continues (alights : Alights k ticket b k') {other : Nat} {b' : Binding}
    (bound' : k'.binds.find? other = some b') :
    other ≠ ticket ∧ k.binds.find? other = some b' ∨
      other = ticket ∧ ∃ stage, b' = { b with stage } ∧
        (stage = .adding ∧ b.added = true ∨ stage = .fetching) := by
  cases alights with
  | waits k₁ stage chores pending =>
    rw [setStage, chores.apart.binds] at bound'
    by_cases same : other = ticket
    · rw [same, Table.find?_put_self] at bound'
      exact Or.inr ⟨same, stage, (Option.some.inj bound').symm, pending⟩
    · rw [Table.find?_put_of_ne same] at bound'
      exact Or.inl ⟨same, bound'⟩
  | finished k₁ chores =>
    have erased : ((k₁.release ticket).1.finishBind ticket).binds = k.binds.erase ticket :=
      congrArg (Table.erase ticket) ((release_telling k₁ ticket).binds.trans chores.apart.binds)
    rw [erased] at bound'
    exact Or.inl (find?_erase bound')

theorem seeded_frame (k : Keeper) (ticket : Nat) (b : Binding) :
    ∃ sources, k.seeded ticket b = { k with sources } := by
  unfold seeded
  split
  · split <;> exact ⟨_, rfl⟩
  · exact ⟨_, rfl⟩

theorem Opens.binds {event : KeeperEvent} (opens : Opens k event k') : k'.binds = k.binds := by
  cases opens with
  | nothing => rfl
  | published secret => exact emit_binds _ _
  | removed ticket secret => exact (Spares.remove k ticket secret).carries.binds
  | closed id => exact (closeSource_telling k id).binds
  | dropped id => exact (dropSource_telling k id).binds

theorem step_proceeds (revokes : k.Revokes) (registers : k.Registers) {event : KeeperEvent}
    (unbinding : event.Unbinding) :
    ∃ k₀ k₁, Opens k event k₀ ∧ Chores k₀ k₁ ∧
      (k.step event = k₁ ∨ ∃ ticket, Proceeds k₁ ticket (k.step event)) := by
  obtain ⟨k₀, opens, goes⟩ := step_goes revokes unbinding
  -- neither what opens the step nor its chores touch a bind
  have known {k₁ : Keeper} (chores : Chores k₀ k₁) : k₁.Registers := by
    intro ticket b bound
    rw [chores.apart.binds, opens.binds] at bound
    exact registers ticket b bound
  generalize k.step event = k' at goes ⊢
  cases goes with
  | rests _ chores => exact ⟨k₀, k', opens, chores, Or.inl rfl⟩
  | completes k₁ ticket answer chores =>
    exact ⟨k₀, k₁, opens, chores, Or.inr ⟨ticket, complete_proceeds (known chores) ticket answer⟩⟩
  | dies k₁ ticket chores =>
    exact ⟨k₀, _, opens, chores.tail (.forsaken ticket), Or.inr ⟨ticket, crash_proceeds k₁ ticket⟩⟩

theorem step_continues (revokes : k.Revokes) (registers : k.Registers) {event : KeeperEvent}
    (unbinding : event.Unbinding) {b' : Binding}
    (bound' : (k.step event).binds.find? ticket = some b') :
    ∃ b, k.binds.find? ticket = some b ∧ b.Continues b' := by
  obtain ⟨k₀, k₁, opens, chores, ended⟩ := step_proceeds revokes registers unbinding
  have same : k₁.binds = k.binds := chores.apart.binds.trans opens.binds
  rcases ended with rests | ⟨own, proceeds⟩
  · rw [rests, same] at bound'
    exact ⟨b', bound', .refl b'⟩
  · obtain ⟨b, bound, continues⟩ := proceeds.continues bound'
    exact ⟨b, same ▸ bound, continues⟩

theorem bind_continues (k : Keeper) (ticket : Nat) (secret : Secret) (failFast : Bool)
    (start : String) {other : Nat} {b' : Binding}
    (bound' : (k.bind ticket secret failFast start).binds.find? other = some b') :
    other ≠ ticket ∧ k.binds.find? other = some b' ∨
      other = ticket ∧ ∃ stage, b' = { k.arriving secret failFast with stage } ∧
        (stage = .adding ∧ (k.arriving secret failFast).added = true ∨ stage = .fetching) := by
  have continues := (bind_alights k ticket secret failFast start).continues bound'
  obtain ⟨_, frame⟩ :=
    seeded_frame (k.seated ticket secret start) ticket (k.arriving secret failFast)
  rwa [frame] at continues

theorem step_registers (revokes : k.Revokes) (registers : k.Registers) (event : KeeperEvent) :
    (k.step event).Registers := by
  intro ticket b' bound' busy
  rcases event.bind_or_unbinding with ⟨own, secret, failFast, start, rfl⟩ | unbinding
  · rcases bind_continues k own secret failFast start bound' with
      ⟨_, old⟩ | ⟨_, stage, rfl, ⟨_, added⟩ | fetching⟩
    · exact registers ticket b' old busy
    · exact added
    · exact absurd fetching busy
  · obtain ⟨b, bound, continues⟩ := step_continues revokes registers unbinding bound'
    rw [continues.added]
    rcases continues.stage with fetching | same | added
    · exact absurd fetching busy
    · exact registers ticket b bound (same ▸ busy)
    · exact added

theorem run_registers (policy : LeasePolicy) (events : List KeeperEvent) :
    ((new policy).run events).Registers := by
  refine (run_keep (P := fun k => k.Revokes ∧ k.Registers)
    (fun _ event kept => ⟨step_revokes kept.1 event, step_registers kept.1 kept.2 event⟩)
    ⟨run_revokes policy [], ?_⟩ events).2
  intro ticket b bound
  cases bound

end Keeper
end LeaseKeeper
