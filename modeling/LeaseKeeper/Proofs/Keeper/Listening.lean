import LeaseKeeper.Proofs.Keeper.Alike
import LeaseKeeper.Proofs.Keeper.Mirrors

/-!
A source changes only when something is heard of its secret, and as long as it is open it hears of
every fault. No listener of a source is that of another source or of a capture, so what a bind lets
go in the end silences nobody but its own source.
-/
namespace LeaseKeeper

def Source.seat (s : Source) : Secret × Strategy × Nat := (s.secret, s.strategy, s.faultListener)

theorem Source.hear_seat (s : Source) (e : LeaseEvent) : (s.hear e).seat = s.seat := by
  unfold Source.hear
  split
  · cases e with
    | afterRenewed => dsimp only; split <;> rfl
    | _ => rfl
  · rfl

theorem Source.hearFault_seat (s : Source) (secret : Secret) (fault : Fault) :
    (s.hearFault secret fault).seat = s.seat := by
  unfold Source.hearFault
  split <;> rfl

def KeeperEvent.touches (id : Nat) : KeeperEvent → Bool
  | .request ticket (.bind _ _ _) => ticket == id
  | .closeSource other => other == id
  | _ => false

namespace Keeper

variable {k k' k'' : Keeper} {secret : Secret} {ticket : Nat} {b : Binding} {event : KeeperEvent}

def heard (k : Keeper) (secret : Secret) : Nat := (k.tidings secret).length

theorem heard_of_journal (journal : k'.journal = k.journal) (secret : Secret) :
    k'.heard secret = k.heard secret := by
  rw [heard, heard, tidings, tidings, journal]

theorem heard_le_of_entry {entry : Nat × Entry} (journal : k'.journal = entry :: k.journal)
    (secret : Secret) : k.heard secret ≤ k'.heard secret := by
  simp only [heard, tidings, journal, List.filterMap_cons]
  split
  · exact Nat.le_refl _
  · exact Nat.le_succ _

theorem heard_lt_of_entry {time : Nat} {entry : Entry} {tiding : Tiding}
    (journal : k'.journal = (time, entry) :: k.journal)
    (told : entry.tiding? secret = some tiding) : k.heard secret < k'.heard secret := by
  simp [heard, tidings, journal, told]

/-! ### What sources are told -/

def Told (secret : Secret) (k k' : Keeper) : Prop :=
  ∀ id s', k'.sources.find? id = some s' → ∃ s, k.sources.find? id = some s ∧ s'.seat = s.seat ∧
    (s' = s ∨ s.secret = secret)

namespace Told

theorem of_sources (same : k'.sources = k.sources) : Told secret k k' := by
  intro id s present
  exact ⟨s, same ▸ present, rfl, Or.inl rfl⟩

theorem trans (first : Told secret k k') (second : Told secret k' k'') : Told secret k k'' := by
  intro id s'' present
  obtain ⟨s', present', seat', changed'⟩ := second id s'' present
  obtain ⟨s, known, seat, changed⟩ := first id s' present'
  have own : s'.secret = s.secret := congrArg Prod.fst seat
  refine ⟨s, known, seat'.trans seat, ?_⟩
  rcases changed with rfl | mine
  · exact changed'
  · exact Or.inr mine

theorem tellSource {f : Source → Source} (seat : ∀ s, (f s).seat = s.seat)
    (spares : ∀ s, s.secret ≠ secret → f s = s) (k : Keeper) (id : Nat) :
    Told secret k (k.tellSource id f) := by
  intro other s' present
  by_cases same : other = id
  · subst same
    rw [Keeper.tellSource, Table.find?_adjust_self] at present
    obtain ⟨s, known, rfl⟩ := Option.map_eq_some_iff.mp present
    refine ⟨s, known, seat s, ?_⟩
    by_cases mine : s.secret = secret
    · exact Or.inr mine
    · exact Or.inl (spares s mine)
  · rw [Keeper.tellSource, Table.find?_adjust_of_ne same] at present
    exact ⟨s', present, rfl, Or.inl rfl⟩

end Told

theorem emit_told (k : Keeper) (e : LeaseEvent) : Told e.secret k (k.emit e) := by
  have noted : Told e.secret k (k.note (.event e)) := .of_sources rfl
  refine List.foldlRecOn k.leaseListeners.entries _ noted fun k₁ told entry _ => ?_
  obtain ⟨_, listener⟩ := entry
  cases listener with
  | observer => exact told
  | source id =>
    exact told.trans (.tellSource (·.hear_seat e) (fun s foreign => if_neg (Ne.symm foreign)) k₁ id)

theorem report_told (k : Keeper) (secret : Secret) (lease : Lease) (fault : Fault) :
    Told secret k (k.report secret lease fault).1 := by
  have noted : Told secret k
      ({ k with reports := k.reports + 1 }.note (.fault secret lease fault)) := .of_sources rfl
  refine List.foldlRecOn (motive := fun state : Keeper × Bool => Told secret k state.1)
    k.faultListeners.entries _ noted fun state told entry _ => ?_
  obtain ⟨_, listener⟩ := entry
  cases listener with
  | observer => exact told
  | source id =>
    exact told.trans (.tellSource (·.hearFault_seat secret fault)
      (fun s foreign => if_neg fun heard => foreign heard.1.symm) state.1 id)
  | capture ticket =>
    refine told.trans (.of_sources ?_)
    simp only [catchFault]
    split
    · rfl
    · split <;> rfl

theorem emit_frame (k : Keeper) (e : LeaseEvent) :
    ∃ sources, k.emit e = { k.note (.event e) with sources } := by
  refine List.foldlRecOn (motive := fun k' : Keeper =>
      ∃ sources, k' = { k.note (.event e) with sources })
    k.leaseListeners.entries _ ⟨k.sources, rfl⟩ fun k₁ framed entry _ => ?_
  obtain ⟨_, listener⟩ := entry
  obtain ⟨sources, rfl⟩ := framed
  cases listener with
  | observer => exact ⟨sources, rfl⟩
  | source id => exact ⟨_, rfl⟩

theorem report_faultListeners (k : Keeper) (secret : Secret) (lease : Lease) (fault : Fault) :
    (k.report secret lease fault).1.faultListeners = k.faultListeners := by
  refine (read_foldl (fun state : Keeper × Bool => state.1.faultListeners) ?_ _ _).trans rfl
  rintro ⟨k, held⟩ ⟨_, listener⟩
  cases listener with
  | capture ticket =>
    simp only [catchFault]
    split
    · rfl
    · split <;> rfl
  | _ => rfl

def captureListener (k : Keeper) (ticket : Nat) : Option Nat :=
  (k.captures.find? ticket).map Capture.listener

theorem catchFault_captureListener (k : Keeper) (other : Nat) (secret : Secret) (caught : Caught) :
    (k.catchFault other secret caught).1.captureListener = k.captureListener := by
  unfold catchFault
  split
  · rfl
  · rename_i capture found
    split
    · funext ticket
      unfold captureListener
      by_cases same : ticket = other
      · subst same
        rw [Table.find?_put_self, found]
        rfl
      · rw [Table.find?_put_of_ne same]
    · rfl

theorem report_captureListener (k : Keeper) (secret : Secret) (lease : Lease) (fault : Fault) :
    (k.report secret lease fault).1.captureListener = k.captureListener := by
  refine (read_foldl (fun state : Keeper × Bool => state.1.captureListener) ?_ _ _).trans rfl
  rintro ⟨k, held⟩ ⟨_, listener⟩
  cases listener with
  | capture ticket => exact catchFault_captureListener k ticket secret _
  | _ => rfl

/-! ### Sources and captures go -/

theorem silence_frame (k : Keeper) (id : Nat) :
    ∃ leaseListeners faultListeners, k.silence id = { k with leaseListeners, faultListeners } ∧
      faultListeners.issued = k.faultListeners.issued ∧
      ∀ entry ∈ k.faultListeners.entries, entry ∈ faultListeners.entries ∨
        ∃ s, k.sources.find? id = some s ∧ s.faultListener = entry.1 := by
  unfold silence
  cases found : k.sources.find? id with
  | none => exact ⟨_, _, rfl, rfl, fun _ => Or.inl⟩
  | some s =>
    refine ⟨_, _, rfl, rfl, fun entry listed => ?_⟩
    by_cases own : s.faultListener = entry.1
    · exact Or.inr ⟨s, rfl, own⟩
    · exact Or.inl (by simpa [Listeners.Registry.remove, Ne.symm own] using listed)

/-- Sources and captures go with their listeners. Of the sources that stay each is as it was, or
something was heard of its secret. -/
structure Wanes (k k' : Keeper) : Prop where
  policy : k'.policy = k.policy
  issued : k'.faultListeners.issued = k.faultListeners.issued
  heard : ∀ secret, k.heard secret ≤ k'.heard secret
  source : ∀ id s', k'.sources.find? id = some s' → ∃ s, k.sources.find? id = some s ∧
    s'.seat = s.seat ∧ (s' = s ∨ k.heard s.secret < k'.heard s.secret)
  capture : ∀ ticket number, k'.captureListener ticket = some number →
    k.captureListener ticket = some number
  entries : ∀ entry ∈ k.faultListeners.entries, entry ∈ k'.faultListeners.entries ∨
    (∃ id s, k.sources.find? id = some s ∧ s.faultListener = entry.1 ∧
      k'.sources.find? id = none) ∨
    ∃ ticket, k.captureListener ticket = some entry.1

namespace Wanes

theorem gone (wanes : Wanes k k') {id : Nat} (absent : k.sources.find? id = none) :
    k'.sources.find? id = none := by
  refine Option.eq_none_iff_forall_ne_some.mpr fun s' present => ?_
  obtain ⟨s, known, _⟩ := wanes.source id s' present
  rw [absent] at known
  cases known

theorem trans (first : Wanes k k') (second : Wanes k' k'') : Wanes k k'' := by
  refine ⟨second.policy.trans first.policy, second.issued.trans first.issued,
    fun secret => Nat.le_trans (first.heard secret) (second.heard secret),
    fun id s'' present => ?_,
    fun ticket number found => first.capture ticket number (second.capture ticket number found),
    fun entry listed => ?_⟩
  · obtain ⟨s', present', seat', changed'⟩ := second.source id s'' present
    obtain ⟨s, known, seat, changed⟩ := first.source id s' present'
    have own : s'.secret = s.secret := congrArg Prod.fst seat
    refine ⟨s, known, seat'.trans seat, ?_⟩
    rcases changed with rfl | early
    · exact changed'.imp_right fun late => Nat.lt_of_le_of_lt (first.heard _) late
    · exact Or.inr (Nat.lt_of_lt_of_le early (second.heard s.secret))
  · rcases first.entries entry listed with kept | ⟨id, s, known, own, absent⟩ | caught
    · rcases second.entries entry kept with kept' | ⟨id, s', present, own, absent⟩ | caught
      · exact Or.inl kept'
      · obtain ⟨s, known, seat, _⟩ := first.source id s' present
        have same : s'.faultListener = s.faultListener := congrArg (·.2.2) seat
        exact Or.inr (Or.inl ⟨id, s, known, same.symm.trans own, absent⟩)
      · exact Or.inr (Or.inr (caught.imp fun ticket found => first.capture ticket _ found))
    · exact Or.inr (Or.inl ⟨id, s, known, own, second.gone absent⟩)
    · exact Or.inr (Or.inr caught)

theorem of_frame (policy : k'.policy = k.policy)
    (faultListeners : k'.faultListeners = k.faultListeners) (sources : k'.sources = k.sources)
    (captures : k'.captures = k.captures)
    (heard : ∀ secret, k.heard secret ≤ k'.heard secret) : Wanes k k' := by
  refine ⟨policy, by rw [faultListeners], heard, fun id s present => ?_,
    fun ticket number found => ?_, fun entry listed => Or.inl (faultListeners ▸ listed)⟩
  · exact ⟨s, sources ▸ present, rfl, Or.inl rfl⟩
  · rwa [captureListener, captures] at found

theorem refl (k : Keeper) : Wanes k k := .of_frame rfl rfl rfl rfl fun _ => Nat.le_refl _

theorem setRoom (k : Keeper) (secret : Secret) (room : Room) : Wanes k (k.setRoom secret room) :=
  .of_frame rfl rfl rfl rfl fun _ => Nat.le_refl _

theorem note (k : Keeper) (entry : Entry) : Wanes k (k.note entry) :=
  .of_frame rfl rfl rfl rfl (heard_le_of_entry rfl)

theorem call (k : Keeper) (secret : Secret) (purpose : Purpose) (errand : Errand) :
    Wanes k (k.call secret purpose errand) := (setRoom k secret _).trans (note _ _)

theorem setStage (k : Keeper) (ticket : Nat) (b : Binding) : Wanes k (k.setStage ticket b) :=
  .of_frame rfl rfl rfl rfl fun _ => Nat.le_refl _

theorem ended (k : Keeper) (ticket : Nat) (answer : KeeperAnswer) :
    Wanes k (k.ended ticket answer) := .of_frame rfl rfl rfl rfl (heard_le_of_entry rfl)

theorem emit (k : Keeper) (e : LeaseEvent) : Wanes k (k.emit e) := by
  have told := emit_told k e
  obtain ⟨sources, frame⟩ := emit_frame k e
  rw [frame] at told ⊢
  refine ⟨rfl, rfl, heard_le_of_entry rfl, fun id s' present => ?_, fun _ _ => id,
    fun _ => Or.inl⟩
  obtain ⟨s, known, seat, changed⟩ := told id s' present
  refine ⟨s, known, seat, changed.imp_right fun mine => ?_⟩
  exact heard_lt_of_entry rfl (if_pos mine.symm)

theorem report (k : Keeper) (secret : Secret) (lease : Lease) (fault : Fault) :
    Wanes k (k.report secret lease fault).1 := by
  have journal := report_journal k secret lease fault
  refine ⟨(report_aside k secret lease fault).policy, by rw [report_faultListeners],
    heard_le_of_entry journal, fun id s' present => ?_, fun ticket number found => ?_,
    fun entry listed => Or.inl (report_faultListeners k secret lease fault ▸ listed)⟩
  · obtain ⟨s, known, seat, changed⟩ := report_told k secret lease fault id s' present
    refine ⟨s, known, seat, changed.imp_right fun mine => ?_⟩
    exact heard_lt_of_entry journal (if_pos mine.symm)
  · rwa [report_captureListener] at found

theorem dropSource (k : Keeper) (id : Nat) : Wanes k (k.dropSource id) := by
  obtain ⟨_, faultListeners, frame, issued, kept⟩ := silence_frame k id
  simp only [Keeper.dropSource, frame]
  refine ⟨rfl, issued, fun _ => Nat.le_refl _, fun other s present => ?_, fun _ _ found => found,
    fun entry listed => ?_⟩
  · dsimp only at present
    by_cases same : other = id
    · rw [same, Table.find?_erase_self] at present
      cases present
    · rw [Table.find?_erase_of_ne same] at present
      exact ⟨s, present, rfl, Or.inl rfl⟩
  · rcases kept entry listed with still | ⟨s, known, own⟩
    · exact Or.inl still
    · exact Or.inr (Or.inl ⟨id, s, known, own, Table.find?_erase_self id _⟩)

theorem release (k : Keeper) (ticket : Nat) : Wanes k (k.release ticket).1 := by
  unfold Keeper.release
  cases found : k.captures.find? ticket with
  | none => exact .refl k
  | some capture =>
    refine ⟨rfl, rfl, fun _ => Nat.le_refl _, fun id s present => ⟨s, present, rfl, Or.inl rfl⟩,
      fun other number kept => ?_, fun entry listed => ?_⟩
    · dsimp only [captureListener] at kept ⊢
      by_cases same : other = ticket
      · rw [same, Table.find?_erase_self] at kept
        cases kept
      · rwa [Table.find?_erase_of_ne same] at kept
    · by_cases own : capture.listener = entry.1
      · exact Or.inr (Or.inr ⟨ticket, by simp [captureListener, found, own]⟩)
      · exact Or.inl (by simpa [Listeners.Registry.remove, Ne.symm own] using listed)

theorem remove (k : Keeper) (ticket : Nat) (secret : Secret) :
    Wanes k (k.remove ticket secret).1 := by
  have gone : Wanes k (k.without secret) := setRoom k secret _
  cases registered : (k.room secret).registered with
  | false =>
    simp only [Keeper.remove, registered]
    exact .refl k
  | true =>
    rw [remove_eq k secret ticket registered]
    split
    · split
      · exact gone.trans ((emit _ _).trans (call _ secret _ _))
      · exact gone
    · exact gone

theorem published (k : Keeper) (secret : Secret) (purpose : Purpose) (response : Response) :
    Wanes k ((k.landed secret purpose).published secret response) :=
  (setRoom k secret _).trans ((setRoom _ secret _).trans (emit _ _))

theorem failBind (k : Keeper) (ticket : Nat) (fault : Fault) : Wanes k (k.failBind ticket fault) :=
  (dropSource k ticket).trans (ended _ ticket _)

theorem finishBind (k : Keeper) (ticket : Nat) : Wanes k (k.finishBind ticket) := ended k ticket _

end Wanes

theorem Chore.wanes (chore : Chore k k') : Wanes k k' := by
  cases chore with
  | housed secret room => exact .setRoom k secret room
  | noted entry => exact .note k entry
  | emitted e => exact .emit k e
  | reported secret lease fault => exact .report k secret lease fault
  | set => exact .of_frame rfl rfl rfl rfl fun _ => Nat.le_refl _
  | emptied =>
    obtain ⟨rooms, frame⟩ := emptied_frame k
    rw [frame]
    exact .of_frame rfl rfl rfl rfl fun _ => Nat.le_refl _
  | forsaken => exact .of_frame rfl rfl rfl rfl fun _ => Nat.le_refl _

theorem Chores.wanes (chores : Chores k k') : Wanes k k' := by
  induction chores with
  | refl => exact .refl k
  | tail _ last ih => exact ih.trans last.wanes

theorem Concludes.wanes (concludes : Concludes k ticket b k') : Wanes k k' := by
  have released := Wanes.release k ticket
  have removed := released.trans (.remove _ ticket b.secret)
  cases concludes with
  | finished => exact released.trans (.finishBind _ ticket)
  | failed fault => exact released.trans (.failBind _ ticket fault)
  | undone fault => exact removed.trans (.failBind _ ticket fault)
  | undoing fault => exact removed.trans (.setStage _ ticket _)

theorem Proceeds.wanes (proceeds : Proceeds k ticket k') : Wanes k k' := by
  cases proceeds with
  | unbound => exact .note k _
  | joins b _ _ _ joins =>
    cases joins with
    | waits k₁ chores => exact chores.wanes.trans (.setStage k₁ ticket _)
    | concludes k₁ _ chores concludes => exact chores.wanes.trans concludes.wanes
  | failed b fault => exact .failBind k ticket fault
  | died =>
    exact (Wanes.release k ticket).trans ((Wanes.dropSource _ ticket).trans (.ended _ ticket _))

theorem Alights.wanes (alights : Alights k ticket b k') : Wanes k k' := by
  cases alights with
  | waits k₁ stage chores => exact chores.wanes.trans (.setStage k₁ ticket _)
  | finished k₁ chores =>
    exact chores.wanes.trans ((Wanes.release k₁ ticket).trans (.finishBind _ ticket))

/-! ### Who listens -/

structure Attuned (k : Keeper) (opened : Nat → Bool) : Prop where
  strategy : ∀ id s, k.sources.find? id = some s → s.strategy = k.policy.strategy
  bounded : ∀ id s, k.sources.find? id = some s → s.faultListener < k.faultListeners.issued
  apart : ∀ id id' s s', k.sources.find? id = some s → k.sources.find? id' = some s' →
    s.faultListener = s'.faultListener → id = id'
  captures : ∀ ticket number, k.captureListener ticket = some number →
    number < k.faultListeners.issued ∧
      ∀ id s, k.sources.find? id = some s → s.faultListener ≠ number
  listens : ∀ id s, k.sources.find? id = some s → opened id = true →
    (s.faultListener, .source id) ∈ k.faultListeners.entries

variable {opened opened' : Nat → Bool}

theorem Attuned.fewer (attuned : k.Attuned opened)
    (fewer : ∀ id, opened' id = true → opened id = true) : k.Attuned opened' :=
  ⟨attuned.strategy, attuned.bounded, attuned.apart, attuned.captures,
    fun id s present still => attuned.listens id s present (fewer id still)⟩

theorem Wanes.attuned (wanes : Wanes k k') (attuned : k.Attuned opened) : k'.Attuned opened := by
  have back {id : Nat} {s' : Source} (present : k'.sources.find? id = some s') :
      ∃ s, k.sources.find? id = some s ∧ s'.strategy = s.strategy ∧
        s'.faultListener = s.faultListener := by
    obtain ⟨s, known, seat, _⟩ := wanes.source id s' present
    exact ⟨s, known, congrArg (·.2.1) seat, congrArg (·.2.2) seat⟩
  refine ⟨fun id s' present => ?_, fun id s' present => ?_,
    fun id id' s s' present present' same => ?_, fun ticket number found => ?_,
    fun id s' present still => ?_⟩
  · obtain ⟨s, known, strategy, _⟩ := back present
    rw [strategy, wanes.policy]
    exact attuned.strategy id s known
  · obtain ⟨s, known, _, number⟩ := back present
    rw [number, wanes.issued]
    exact attuned.bounded id s known
  · obtain ⟨old, known, _, number⟩ := back present
    obtain ⟨old', known', _, number'⟩ := back present'
    exact attuned.apart id id' old old' known known' (number.symm.trans (same.trans number'))
  · obtain ⟨below, differ⟩ := attuned.captures ticket number (wanes.capture ticket number found)
    refine ⟨wanes.issued ▸ below, fun id s' present => ?_⟩
    obtain ⟨s, known, _, own⟩ := back present
    rw [own]
    exact differ id s known
  · obtain ⟨s, known, _, own⟩ := back present
    rw [own]
    rcases wanes.entries _ (attuned.listens id s known still) with
      kept | ⟨id', other, known', same, absent⟩ | ⟨ticket, caught⟩
    · exact kept
    · obtain rfl := attuned.apart id' id other s known' known same
      rw [present] at absent
      cases absent
    · exact absurd rfl ((attuned.captures ticket _ caught).2 id s known)

theorem closeSource_of_ne {id other : Nat} (differ : other ≠ id) (k : Keeper) :
    (k.closeSource id).sources.find? other = k.sources.find? other := by
  obtain ⟨_, _, frame, _⟩ := silence_frame k id
  rw [closeSource, tellSource, Table.find?_adjust_of_ne differ, frame]

theorem closeSource_seat (k : Keeper) (id : Nat) {other : Nat} {s' : Source}
    (present : (k.closeSource id).sources.find? other = some s') :
    ∃ s, k.sources.find? other = some s ∧ s'.seat = s.seat := by
  have kept : (k.closeSource id).still other = some s'.still := by simp [still, present]
  rw [closeSource_still] at kept
  obtain ⟨s, known, same⟩ := Option.map_eq_some_iff.mp kept
  exact ⟨s, known, (congrArg Source.seat same).symm⟩

theorem Attuned.closeSource (attuned : k.Attuned opened) (id : Nat) :
    (k.closeSource id).Attuned fun other => opened other && other != id := by
  obtain ⟨_, faultListeners, frame, count, kept⟩ := silence_frame k id
  have listeners : (k.closeSource id).faultListeners = faultListeners := by
    rw [Keeper.closeSource, frame]
    rfl
  have issued : (k.closeSource id).faultListeners.issued = k.faultListeners.issued :=
    listeners ▸ count
  have captures : (k.closeSource id).captureListener = k.captureListener := by
    rw [Keeper.closeSource, frame]
    rfl
  refine ⟨fun other s' present => ?_, fun other s' present => ?_,
    fun other other' s s' present present' same => ?_, fun ticket number found => ?_,
    fun other s' present still => ?_⟩
  · obtain ⟨s, known, seat⟩ := closeSource_seat k id present
    rw [(closeSource_aside k id).policy, ← attuned.strategy other s known]
    exact congrArg (·.2.1) seat
  · obtain ⟨s, known, seat⟩ := closeSource_seat k id present
    rw [issued]
    exact lt_of_eq_of_lt (congrArg (·.2.2) seat) (attuned.bounded other s known)
  · obtain ⟨old, known, seat⟩ := closeSource_seat k id present
    obtain ⟨old', known', seat'⟩ := closeSource_seat k id present'
    have number : s.faultListener = old.faultListener := congrArg (·.2.2) seat
    have number' : s'.faultListener = old'.faultListener := congrArg (·.2.2) seat'
    exact attuned.apart other other' old old' known known' (number.symm.trans (same.trans number'))
  · obtain ⟨below, differ⟩ := attuned.captures ticket number (captures ▸ found)
    refine ⟨issued ▸ below, fun other s' present => ?_⟩
    obtain ⟨s, known, seat⟩ := closeSource_seat k id present
    have same : s'.faultListener = s.faultListener := congrArg (·.2.2) seat
    rw [same]
    exact differ other s known
  · obtain ⟨open', differ⟩ := Bool.and_eq_true_iff.mp still
    have foreign : other ≠ id := by simpa using differ
    rw [closeSource_of_ne foreign] at present
    rw [listeners]
    rcases kept _ (attuned.listens other s' present open') with listed | ⟨s, known, same⟩
    · exact listed
    · exact absurd (attuned.apart other id s' s present known same.symm) foreign

/-! ### Binds -/

theorem welcomed_of_ne {id ticket : Nat} (differ : id ≠ ticket) (k : Keeper) (secret : Secret)
    (failFast : Bool) (start : String) :
    (k.welcomed ticket secret failFast start).sources.find? id = k.sources.find? id := by
  have seated : (k.seated ticket secret start).sources.find? id = k.sources.find? id :=
    Table.find?_put_of_ne differ _ _
  unfold welcomed seeded
  split
  · split
    · rw [tellSource, Table.find?_adjust_of_ne differ, seated]
    · exact seated
  · exact seated

theorem welcomed_seat (k : Keeper) (ticket : Nat) (secret : Secret) (failFast : Bool)
    (start : String) {s : Source}
    (present : (k.welcomed ticket secret failFast start).sources.find? ticket = some s) :
    s.seat = (secret, k.policy.strategy, k.faultListeners.issued) := by
  have still : (k.welcomed ticket secret failFast start).still ticket = some s.still := by
    simp [Keeper.still, present]
  rw [welcomed_still, if_pos rfl] at still
  exact (congrArg Source.seat (Option.some.inj still)).symm

theorem welcomed_source {id : Nat} {failFast : Bool} {start : String} {s : Source}
    (present : (k.welcomed ticket secret failFast start).sources.find? id = some s) :
    id = ticket ∧ s.strategy = k.policy.strategy ∧ s.faultListener = k.faultListeners.issued ∨
      id ≠ ticket ∧ k.sources.find? id = some s := by
  by_cases own : id = ticket
  · subst own
    have seat := welcomed_seat k id secret failFast start present
    exact Or.inl ⟨rfl, congrArg (·.2.1) seat, congrArg (·.2.2) seat⟩
  · rw [welcomed_of_ne own] at present
    exact Or.inr ⟨own, present⟩

theorem welcomed_listens (k : Keeper) (ticket : Nat) (secret : Secret) (failFast : Bool)
    (start : String) :
    (k.welcomed ticket secret failFast start).policy = k.policy ∧
      (k.welcomed ticket secret failFast start).faultListeners =
        (k.faultListeners.add (.source ticket)).add (.capture ticket) ∧
      (k.welcomed ticket secret failFast start).captures =
        k.captures.put ticket ⟨secret, k.faultListeners.issued + 1, none⟩ := by
  obtain ⟨_, frame⟩ :=
    seeded_frame (k.seated ticket secret start) ticket (k.arriving secret failFast)
  rw [Keeper.welcomed, frame]
  exact ⟨rfl, rfl, rfl⟩

theorem Attuned.welcomed (attuned : k.Attuned opened) (ticket : Nat) (secret : Secret)
    (failFast : Bool) (start : String) :
    (k.welcomed ticket secret failFast start).Attuned fun id => opened id || ticket == id := by
  obtain ⟨policy, listeners, captures⟩ := welcomed_listens k ticket secret failFast start
  have issued : (k.welcomed ticket secret failFast start).faultListeners.issued =
      k.faultListeners.issued + 2 := congrArg Listeners.Registry.issued listeners
  refine ⟨fun id s present => ?_, fun id s present => ?_,
    fun id id' s s' present present' same => ?_, fun other number found => ?_,
    fun id s present still => ?_⟩
  · rw [policy]
    rcases welcomed_source present with ⟨_, strategy, _⟩ | ⟨_, old⟩
    · exact strategy
    · exact attuned.strategy id s old
  · rw [issued]
    rcases welcomed_source present with ⟨_, _, number⟩ | ⟨_, old⟩
    · omega
    · have below := attuned.bounded id s old
      omega
  · rcases welcomed_source present with ⟨own, _, number⟩ | ⟨_, old⟩
    · rcases welcomed_source present' with ⟨own', _⟩ | ⟨_, old'⟩
      · exact own.trans own'.symm
      · have below := attuned.bounded id' s' old'
        omega
    · rcases welcomed_source present' with ⟨_, _, number'⟩ | ⟨_, old'⟩
      · have below := attuned.bounded id s old
        omega
      · exact attuned.apart id id' s s' old old' same
  · rw [issued]
    rw [captureListener, captures] at found
    by_cases own : other = ticket
    · rw [own, Table.find?_put_self] at found
      have next : k.faultListeners.issued + 1 = number := Option.some.inj found
      refine ⟨by omega, fun id s present => ?_⟩
      rcases welcomed_source present with ⟨_, _, own'⟩ | ⟨_, old⟩
      · omega
      · have below := attuned.bounded id s old
        omega
    · rw [Table.find?_put_of_ne own] at found
      obtain ⟨below, differ⟩ := attuned.captures other number found
      refine ⟨by omega, fun id s present => ?_⟩
      rcases welcomed_source present with ⟨_, _, number'⟩ | ⟨_, old⟩
      · omega
      · exact differ id s old
  · rw [listeners]
    rcases welcomed_source present with ⟨rfl, _, number⟩ | ⟨foreign, old⟩
    · rw [number]
      exact List.mem_append_left _ (List.mem_append_right _ List.mem_cons_self)
    · refine List.mem_append_left _ (List.mem_append_left _ (attuned.listens id s old ?_))
      simpa [Ne.symm foreign] using still

/-! ### Whole steps and runs -/

theorem bind_wanes (k : Keeper) (ticket : Nat) (secret : Secret) (failFast : Bool)
    (start : String) : Wanes (k.welcomed ticket secret failFast start)
      (k.step (.request ticket (.bind secret failFast start))) :=
  (bind_alights k ticket secret failFast start).wanes

theorem step_wanes (revokes : k.Revokes) (registers : k.Registers)
    (unbinding : event.Unbinding) : ∃ k₀, Opens k event k₀ ∧ Wanes k₀ (k.step event) := by
  obtain ⟨k₀, k₁, opens, chores, ended⟩ := step_proceeds revokes registers unbinding
  refine ⟨k₀, opens, chores.wanes.trans ?_⟩
  rcases ended with rests | ⟨ticket, proceeds⟩
  · exact rests ▸ .refl k₁
  · exact proceeds.wanes

theorem Opens.wanes (opens : Opens k event k') :
    Wanes k k' ∨ ∃ id, event = .closeSource id ∧ k' = k.closeSource id := by
  cases opens with
  | nothing => exact Or.inl (.refl k)
  | published secret purpose response => exact Or.inl (.published k secret purpose response)
  | removed ticket secret => exact Or.inl (.remove k ticket secret)
  | closed id => exact Or.inr ⟨id, rfl, rfl⟩
  | dropped id => exact Or.inl (.dropSource k id)

theorem step_attuned (revokes : k.Revokes) (registers : k.Registers)
    (attuned : k.Attuned opened) (event : KeeperEvent) :
    (k.step event).Attuned fun id => event.opens id (opened id) := by
  rcases event.bind_or_unbinding with ⟨ticket, secret, failFast, start, rfl⟩ | unbinding
  · exact (bind_wanes k ticket secret failFast start).attuned
      (attuned.welcomed ticket secret failFast start)
  · obtain ⟨k₀, opens, wanes⟩ := step_wanes revokes registers unbinding
    rcases opens.wanes with first | ⟨id, rfl, rfl⟩
    · exact (wanes.attuned (first.attuned attuned)).fewer fun _ => unbinding.opens
    · exact wanes.attuned (attuned.closeSource id)

theorem run_attuned (policy : LeasePolicy) (events : List KeeperEvent) :
    ((new policy).run events).Attuned (isOpen · events) := by
  induction events using List.reverseRecOn with
  | nil =>
    exact ⟨nofun, nofun, nofun, nofun, nofun⟩
  | append_singleton earlier event ih =>
    have attuned := step_attuned (run_revokes policy earlier) (run_registers policy earlier) ih
      event
    rw [run_append]
    simp only [isOpen_concat]
    exact attuned

theorem step_source_heard (revokes : k.Revokes) (registers : k.Registers) {id : Nat}
    {s' : Source} (away : event.touches id = false)
    (present : (k.step event).sources.find? id = some s') :
    ∃ s, k.sources.find? id = some s ∧
      (s' = s ∨ k.heard s.secret < (k.step event).heard s.secret) := by
  -- nothing is heard up to the state from which the sources only go
  have through {k₀ : Keeper} (wanes : Wanes k₀ (k.step event))
      (same : k₀.sources.find? id = k.sources.find? id)
      (silent : ∀ secret, k₀.heard secret = k.heard secret) :
      ∃ s, k.sources.find? id = some s ∧
        (s' = s ∨ k.heard s.secret < (k.step event).heard s.secret) := by
    obtain ⟨s, known, _, changed⟩ := wanes.source id s' present
    exact ⟨s, same ▸ known, silent s.secret ▸ changed⟩
  rcases event.bind_or_unbinding with ⟨ticket, secret, failFast, start, rfl⟩ | unbinding
  · have differ : id ≠ ticket := fun same => by simp [KeeperEvent.touches, same] at away
    refine through (bind_wanes k ticket secret failFast start)
      (welcomed_of_ne differ k secret failFast start) (heard_of_journal ?_)
    obtain ⟨_, frame⟩ :=
      seeded_frame (k.seated ticket secret start) ticket (k.arriving secret failFast)
    rw [Keeper.welcomed, frame]
    rfl
  · obtain ⟨k₀, opens, wanes⟩ := step_wanes revokes registers unbinding
    rcases opens.wanes with first | ⟨other, rfl, rfl⟩
    · obtain ⟨s, known, _, changed⟩ := (first.trans wanes).source id s' present
      exact ⟨s, known, changed⟩
    · have differ : id ≠ other := fun same => by simp [KeeperEvent.touches, same] at away
      refine through wanes (closeSource_of_ne differ k) (heard_of_journal ?_)
      obtain ⟨_, _, frame, _⟩ := silence_frame k other
      rw [closeSource, frame]
      rfl

end Keeper
end LeaseKeeper
