import LeaseKeeper.Proofs.Keeper.Forgotten
import LeaseKeeper.Proofs.Keeper.Joining
import Mathlib.Data.List.Induction

/-!
A source that listens takes the data of every fetch of its secret as it is published, and nothing
else that happens changes what it has. What its bind finds is another matter: data of a secret that
is registered and running is handed to the source at once, but data that strayed in after a removal
is not, and a source that was bound beside it stays without until the next fetch.
-/
namespace LeaseKeeper

def Source.absorb (s : Source) (secret : Secret) (data : TextMap String) : Source :=
  if secret = s.secret then { s with properties := data.withStart s.start } else s

theorem Source.absorb_absorb (s : Source) (secret : Secret) (data : TextMap String) :
    (s.absorb secret data).absorb secret data = s.absorb secret data := by
  by_cases mine : secret = s.secret
  · simp [absorb, mine]
  · simp [absorb, mine]

theorem Source.absorb_properties (s : Source) (secret : Secret) (data : TextMap String) :
    (s.absorb secret data).properties =
      if secret = s.secret then data.withStart s.start else s.properties := by
  unfold absorb
  split <;> rfl

theorem Source.hear_created_still (s : Source) (secret : Secret) (lease : Lease)
    (data : TextMap String) :
    (s.hear (.created secret lease data)).still = s.still.absorb secret data := by
  unfold hear absorb
  by_cases mine : secret = s.secret
  · have here : secret = s.still.secret := mine
    have told : LeaseEvent.secret (.created secret lease data) = s.secret := mine
    rw [if_pos here, if_pos told]
    rfl
  · have elsewhere : secret ≠ s.still.secret := mine
    rw [if_neg elsewhere,
      if_neg (show LeaseEvent.secret (.created secret lease data) ≠ s.secret from mine)]

/-- Whether a source is open after the event: its bind opens it, and closing it ends that. -/
def KeeperEvent.opens (id : Nat) (opened : Bool) : KeeperEvent → Bool
  | .request ticket (.bind _ _ _) => opened || ticket == id
  | .closeSource other => opened && id != other
  | _ => opened

def isOpen (id : Nat) (events : List KeeperEvent) : Bool :=
  events.foldl (KeeperEvent.opens id) false

theorem isOpen_concat (id : Nat) (events : List KeeperEvent) (event : KeeperEvent) :
    isOpen id (events ++ [event]) = event.opens id (isOpen id events) := by
  simp [isOpen, List.foldl_append]

theorem KeeperEvent.Unbinding.opens {event : KeeperEvent} (unbinding : event.Unbinding) {id : Nat}
    {opened : Bool} (still : event.opens id opened = true) : opened = true := by
  unfold KeeperEvent.opens at still
  split at still
  · exact absurd rfl (unbinding _ _ _ _)
  · exact (Bool.and_eq_true_iff.mp still).1
  · exact still

namespace Keeper

variable {k k' k'' : Keeper} {secret : Secret} {ticket : Nat} {b : Binding} {event : KeeperEvent}

/-! ### Sources and data go -/

structure Dwindles (k k' : Keeper) : Prop where
  still : ∀ id, k'.still id = none ∨ k'.still id = k.still id
  issued : k'.leaseListeners.issued = k.leaseListeners.issued
  entries : ∀ entry ∈ k.leaseListeners.entries, entry ∈ k'.leaseListeners.entries ∨
    ∃ id s, k.still id = some s ∧ s.leaseListener = entry.1 ∧ k'.still id = none
  data : ∀ secret, k'.data secret = none ∨ k'.data secret = k.data secret

namespace Dwindles

theorem back (dwindles : Dwindles k k') {id : Nat} {s : Source}
    (present : k'.still id = some s) : k.still id = some s := by
  rcases dwindles.still id with gone | same
  · rw [gone] at present
    cases present
  · rw [← same, present]

theorem trans (first : Dwindles k k') (second : Dwindles k' k'') : Dwindles k k'' := by
  have gone {id : Nat} (gone : k'.still id = none) : k''.still id = none := by
    rcases second.still id with later | same
    · exact later
    · rw [same, gone]
  refine ⟨fun id => ?_, second.issued.trans first.issued, fun entry listed => ?_,
    fun secret => ?_⟩
  · rcases second.still id with later | same
    · exact Or.inl later
    · rw [same]
      exact first.still id
  · rcases first.entries entry listed with kept | ⟨id, s, present, own, later⟩
    · exact (second.entries entry kept).imp_right fun ⟨id, s, present, own, later⟩ =>
        ⟨id, s, first.back present, own, later⟩
    · exact Or.inr ⟨id, s, present, own, gone later⟩
  · rcases second.data secret with later | same
    · exact Or.inl later
    · rw [same]
      exact first.data secret

theorem of_frame (sources : k'.sources = k.sources) (rooms : k'.rooms = k.rooms)
    (leaseListeners : k'.leaseListeners = k.leaseListeners) : Dwindles k k' := by
  refine ⟨fun id => Or.inr (by rw [Keeper.still, Keeper.still, sources]), by rw [leaseListeners],
    fun entry listed => Or.inl (leaseListeners ▸ listed), fun secret => Or.inr ?_⟩
  rw [Keeper.data, Keeper.data, room_of_rooms rooms]

theorem of_apart (apart : Apart k k') : Dwindles k k' :=
  ⟨fun id => Or.inr (congrFun apart.still id), by rw [apart.leaseListeners],
    fun entry listed => Or.inl (apart.leaseListeners ▸ listed),
    fun secret => (apart.rooms secret).data.symm⟩

theorem setRoom {room : Room} (here : room.data = none ∨ room.data = (k.room secret).data) :
    Dwindles k (k.setRoom secret room) :=
  ⟨fun _ => Or.inr rfl, rfl, fun _ => Or.inl,
    forall_setRoom (P := fun secret room => room.data = none ∨ room.data = (k.room secret).data)
      here fun _ => Or.inr rfl⟩

theorem call (k : Keeper) (secret : Secret) (purpose : Purpose) (errand : Errand) :
    Dwindles k (k.call secret purpose errand) := by
  have boarded : Dwindles k (k.setRoom secret ((k.room secret).board purpose errand)) :=
    setRoom (Or.inr rfl)
  exact boarded.trans (of_frame rfl rfl rfl)

theorem remove (k : Keeper) (ticket : Nat) (secret : Secret) :
    Dwindles k (k.remove ticket secret).1 := by
  have gone : Dwindles k (k.without secret) := setRoom (Or.inl rfl)
  cases registered : (k.room secret).registered with
  | false =>
    simp only [Keeper.remove, registered]
    exact of_frame rfl rfl rfl
  | true =>
    rw [remove_eq k secret ticket registered]
    split
    · rename_i lease current
      split
      · have told : Dwindles (k.without secret)
            ((k.without secret).emit (.beforeRevocation secret lease)) :=
          of_apart (Chore.emitted _ rfl).apart
        exact gone.trans (told.trans (call _ secret _ _))
      · exact gone
    · exact gone

theorem release (k : Keeper) (ticket : Nat) : Dwindles k (k.release ticket).1 := by
  unfold Keeper.release
  split <;> exact of_frame rfl rfl rfl

theorem dropSource (k : Keeper) (id : Nat) : Dwindles k (k.dropSource id) := by
  have gone (other : Nat) : (k.dropSource id).still other =
      if other = id then none else k.still other := by
    have erased : (k.dropSource id).sources = k.sources.erase id := by
      unfold Keeper.dropSource silence
      split <;> rfl
    unfold Keeper.still
    rw [erased]
    by_cases same : other = id
    · rw [same, Table.find?_erase_self, if_pos rfl]
      rfl
    · rw [Table.find?_erase_of_ne same, if_neg same]
  have rooms : (k.dropSource id).rooms = k.rooms := (dropSource_aside k id).rooms
  refine ⟨fun other => ?_, ?_, fun entry listed => ?_, fun secret => Or.inr ?_⟩
  · rw [gone]
    split
    · exact Or.inl rfl
    · exact Or.inr rfl
  · unfold Keeper.dropSource silence
    split <;> rfl
  · cases found : k.sources.find? id with
    | none =>
      refine Or.inl ?_
      simpa [Keeper.dropSource, silence, found] using listed
    | some s =>
      by_cases own : entry.1 = s.leaseListener
      · exact Or.inr ⟨id, s.still, by simp [Keeper.still, found], own.symm,
          by rw [gone, if_pos rfl]⟩
      · refine Or.inl ?_
        simpa [Keeper.dropSource, silence, found, Listeners.Registry.remove, own] using listed
  · rw [Keeper.data, Keeper.data, room_of_rooms rooms]

theorem ended (k : Keeper) (ticket : Nat) (answer : KeeperAnswer) :
    Dwindles k (k.ended ticket answer) := of_frame rfl rfl rfl

theorem failBind (k : Keeper) (ticket : Nat) (fault : Fault) :
    Dwindles k (k.failBind ticket fault) := (dropSource k ticket).trans (ended _ ticket _)

theorem finishBind (k : Keeper) (ticket : Nat) : Dwindles k (k.finishBind ticket) :=
  ended k ticket _

theorem setStage (k : Keeper) (ticket : Nat) (b : Binding) : Dwindles k (k.setStage ticket b) :=
  of_frame rfl rfl rfl

end Dwindles

theorem Chores.dwindles (chores : Chores k k') : Dwindles k k' := .of_apart chores.apart

theorem Concludes.dwindles (concludes : Concludes k ticket b k') : Dwindles k k' := by
  have released := Dwindles.release k ticket
  have removed := released.trans (.remove _ ticket b.secret)
  cases concludes with
  | finished => exact released.trans (.finishBind _ ticket)
  | failed fault => exact released.trans (.failBind _ ticket fault)
  | undone fault => exact removed.trans (.failBind _ ticket fault)
  | undoing fault => exact removed.trans (.setStage _ ticket _)

theorem Proceeds.dwindles (proceeds : Proceeds k ticket k') : Dwindles k k' := by
  cases proceeds with
  | unbound => exact .of_frame rfl rfl rfl
  | joins b _ _ _ joins =>
    cases joins with
    | waits k₁ chores => exact chores.dwindles.trans (.setStage k₁ ticket _)
    | concludes k₁ _ chores concludes => exact chores.dwindles.trans concludes.dwindles
  | failed b fault => exact .failBind k ticket fault
  | died =>
    exact (Dwindles.release k ticket).trans
      ((Dwindles.dropSource _ ticket).trans (.ended _ ticket _))

theorem Alights.dwindles (alights : Alights k ticket b k') : Dwindles k k' := by
  cases alights with
  | waits k₁ stage chores => exact chores.dwindles.trans (.setStage k₁ ticket _)
  | finished k₁ chores =>
    exact chores.dwindles.trans ((Dwindles.release k₁ ticket).trans (.finishBind _ ticket))

/-! ### What sources have -/

/-- Of the sources that are open, each listens, and has what the keeper has of its secret. No two
sources have one listener. -/
structure Follows (k : Keeper) (opened : Nat → Bool) : Prop where
  bounded : ∀ id s, k.still id = some s → s.leaseListener < k.leaseListeners.issued
  apart : ∀ id id' s s', k.still id = some s → k.still id' = some s' →
    s.leaseListener = s'.leaseListener → id = id'
  listens : ∀ id s, k.still id = some s → opened id = true →
    (s.leaseListener, .source id) ∈ k.leaseListeners.entries
  mirrors : ∀ id s data, k.still id = some s → opened id = true → k.data s.secret = some data →
    s.properties = data.withStart s.start

variable {opened opened' : Nat → Bool}

theorem Follows.fewer (follows : k.Follows opened)
    (fewer : ∀ id, opened' id = true → opened id = true) : k.Follows opened' :=
  ⟨follows.bounded, follows.apart,
    fun id s present still => follows.listens id s present (fewer id still),
    fun id s data present still => follows.mirrors id s data present (fewer id still)⟩

theorem Dwindles.follows (dwindles : Dwindles k k') (follows : k.Follows opened) :
    k'.Follows opened := by
  refine ⟨fun id s present => ?_, fun id id' s s' present present' => ?_,
    fun id s present still => ?_, fun id s data present still known => ?_⟩
  · rw [dwindles.issued]
    exact follows.bounded id s (dwindles.back present)
  · exact follows.apart id id' s s' (dwindles.back present) (dwindles.back present')
  · rcases dwindles.entries _ (follows.listens id s (dwindles.back present) still) with
      kept | ⟨id', s', present', own, gone⟩
    · exact kept
    · obtain rfl := follows.apart id' id s' s present' (dwindles.back present) own
      rw [present] at gone
      cases gone
  · rcases dwindles.data s.secret with gone | same
    · rw [gone] at known
      cases known
    · exact follows.mirrors id s data (dwindles.back present) still (same ▸ known)

theorem tellSource_created_still (k : Keeper) (id : Nat) (secret : Secret) (lease : Lease)
    (data : TextMap String) :
    (k.tellSource id (·.hear (.created secret lease data))).still id =
      (k.still id).map (·.absorb secret data) := by
  simp only [still, tellSource, Table.find?_adjust_self, Option.map_map]
  exact congrArg (Option.map · (k.sources.find? id))
    (funext fun s => s.hear_created_still secret lease data)

theorem tellSource_still_of_ne {id other : Nat} (apart : id ≠ other) (k : Keeper)
    (f : Source → Source) : (k.tellSource other f).still id = k.still id := by
  simp only [still, tellSource, Table.find?_adjust_of_ne apart]

theorem told_created_still {secret : Secret} {lease : Lease} {data : TextMap String}
    {tell : Keeper → Nat × LeaseListener → Keeper}
    (passes : ∀ k number, tell k (number, .observer) = k)
    (hears : ∀ k number id, tell k (number, .source id) =
      k.tellSource id (·.hear (.created secret lease data)))
    (entries : List (Nat × LeaseListener)) (k : Keeper) (id : Nat) :
    (entries.foldl tell k).still id = (k.still id).map (·.absorb secret data) ∨
      (entries.foldl tell k).still id = k.still id ∧
        ∀ number, (number, LeaseListener.source id) ∉ entries := by
  induction entries generalizing k with
  | nil => exact Or.inr ⟨rfl, fun _ => List.not_mem_nil⟩
  | cons entry rest ih =>
    obtain ⟨first, listener⟩ := entry
    rw [List.foldl_cons]
    cases listener with
    | observer =>
      rw [passes]
      rcases ih k with heard | ⟨kept, absent⟩
      · exact Or.inl heard
      · exact Or.inr ⟨kept, fun number => by simpa using absent number⟩
    | source other =>
      rw [hears]
      by_cases mine : id = other
      · subst mine
        have heard := tellSource_created_still k id secret lease data
        refine Or.inl ?_
        rcases ih (k.tellSource id (·.hear (.created secret lease data))) with again | ⟨kept, _⟩
        · rw [again, heard, Option.map_map]
          exact congrArg (Option.map · (k.still id))
            (funext fun s => s.absorb_absorb secret data)
        · exact kept.trans heard
      · have same := tellSource_still_of_ne mine k (·.hear (.created secret lease data))
        rcases ih (k.tellSource other (·.hear (.created secret lease data))) with
          heard | ⟨kept, absent⟩
        · exact Or.inl (heard.trans (congrArg _ same))
        · exact Or.inr ⟨kept.trans same, fun number => by simpa [mine] using absent number⟩

theorem emit_created_still (k : Keeper) (secret : Secret) (lease : Lease)
    (data : TextMap String) (id : Nat) :
    (k.emit (.created secret lease data)).still id = (k.still id).map (·.absorb secret data) ∨
      (k.emit (.created secret lease data)).still id = k.still id ∧
        ∀ number, (number, .source id) ∉ k.leaseListeners.entries :=
  told_created_still (fun _ _ => rfl) (fun _ _ _ => rfl) k.leaseListeners.entries
    (k.note (.event (.created secret lease data))) id

theorem published_still (k : Keeper) (secret : Secret) (purpose : Purpose) (response : Response)
    (id : Nat) :
    ((k.landed secret purpose).published secret response).still id =
        (k.still id).map (·.absorb secret response.flattened) ∨
      ((k.landed secret purpose).published secret response).still id = k.still id ∧
        ∀ number, (number, .source id) ∉ k.leaseListeners.entries :=
  emit_created_still ((k.landed secret purpose).setRoom secret
    { (k.landed secret purpose).room secret with data := some response.flattened }) secret _ _ id

theorem absorb_secret (s : Source) (secret : Secret) (data : TextMap String) :
    (s.absorb secret data).secret = s.secret := by
  unfold Source.absorb
  split <;> rfl

theorem absorb_leaseListener (s : Source) (secret : Secret) (data : TextMap String) :
    (s.absorb secret data).leaseListener = s.leaseListener := by
  unfold Source.absorb
  split <;> rfl

theorem published_data (k : Keeper) (secret : Secret) (purpose : Purpose) (response : Response)
    (other : Secret) :
    ((k.landed secret purpose).published secret response).data other =
      if other = secret then some response.flattened else k.data other := by
  rw [published, data, emit_room]
  by_cases same : other = secret
  · rw [same, room_setRoom_self, if_pos rfl]
  · rw [room_setRoom_of_ne _ _ same, landed, room_setRoom_of_ne _ _ same, if_neg same, data]

theorem Follows.published (follows : k.Follows opened) (secret : Secret) (purpose : Purpose)
    (response : Response) :
    ((k.landed secret purpose).published secret response).Follows opened := by
  have listeners : ((k.landed secret purpose).published secret response).leaseListeners =
      k.leaseListeners := emit_leaseListeners _ _
  -- a source is what it was, or took the data
  have back {id : Nat} {s : Source}
      (present : ((k.landed secret purpose).published secret response).still id = some s) :
      ∃ old, k.still id = some old ∧ s.leaseListener = old.leaseListener ∧
        (s = old.absorb secret response.flattened ∨
          s = old ∧ ∀ number, (number, .source id) ∉ k.leaseListeners.entries) := by
    rcases published_still k secret purpose response id with heard | ⟨same, absent⟩
    · rw [heard] at present
      obtain ⟨old, known, rfl⟩ := Option.map_eq_some_iff.mp present
      exact ⟨old, known, absorb_leaseListener old _ _, Or.inl rfl⟩
    · exact ⟨s, same ▸ present, rfl, Or.inr ⟨rfl, absent⟩⟩
  refine ⟨fun id s present => ?_, fun id id' s s' present present' same => ?_,
    fun id s present still => ?_, fun id s data present still known => ?_⟩
  · obtain ⟨old, known, own, _⟩ := back present
    rw [listeners, own]
    exact follows.bounded id old known
  · obtain ⟨old, known, own, _⟩ := back present
    obtain ⟨old', known', own', _⟩ := back present'
    exact follows.apart id id' old old' known known' (own.symm.trans (same.trans own'))
  · obtain ⟨old, known', own, _⟩ := back present
    rw [listeners, own]
    exact follows.listens id old known' still
  · obtain ⟨old, known', _, rfl | ⟨rfl, absent⟩⟩ := back present
    · rw [absorb_secret, published_data] at known
      by_cases mine : old.secret = secret
      · rw [if_pos mine] at known
        obtain rfl := Option.some.inj known
        rw [Source.absorb, if_pos mine.symm]
      · rw [if_neg mine] at known
        rw [Source.absorb, if_neg (Ne.symm mine)]
        exact follows.mirrors id old data known' still known
    · exact absurd (follows.listens id s known' still) (absent _)

theorem closeSource_still (k : Keeper) (id : Nat) : (k.closeSource id).still = k.still := by
  have closed (s : Source) : s.close.still = s.still := by
    unfold Source.close
    split <;> rfl
  have silent : (k.silence id).sources = k.sources := by
    unfold silence
    split <;> rfl
  funext other
  exact (adjust_still closed (k.silence id).sources id other).trans (by rw [silent]; rfl)

theorem closeSource_entries (k : Keeper) (id : Nat) {entry : Nat × LeaseListener}
    (listed : entry ∈ k.leaseListeners.entries)
    (foreign : ∀ s, k.still id = some s → entry.1 ≠ s.leaseListener) :
    entry ∈ (k.closeSource id).leaseListeners.entries := by
  unfold closeSource silence
  cases found : k.sources.find? id with
  | none => exact listed
  | some s =>
    have other : entry.1 ≠ s.leaseListener := foreign s.still (by simp [still, found])
    simpa [tellSource, Listeners.Registry.remove, other] using listed

theorem Follows.closeSource (follows : k.Follows opened) (id : Nat) :
    (k.closeSource id).Follows fun other => opened other && other != id := by
  have still := closeSource_still k id
  have issued : (k.closeSource id).leaseListeners.issued = k.leaseListeners.issued := by
    unfold Keeper.closeSource silence
    split <;> rfl
  refine ⟨fun other s present => ?_, fun other other' s s' present present' => ?_,
    fun other s present listening => ?_, fun other s data present listening known => ?_⟩
  · rw [issued]
    exact follows.bounded other s (still ▸ present)
  · exact follows.apart other other' s s' (still ▸ present) (still ▸ present')
  · obtain ⟨listening, differ⟩ := Bool.and_eq_true_iff.mp listening
    refine closeSource_entries k id (follows.listens other s (still ▸ present) listening) ?_
    intro s' present' same
    exact absurd (follows.apart other id s s' (still ▸ present) present' same)
      (by simpa using differ)
  · have listening := (Bool.and_eq_true_iff.mp listening).1
    have same : (k.closeSource id).data s.secret = k.data s.secret := by
      rw [Keeper.data, Keeper.data, room_of_rooms (closeSource_aside k id).rooms]
    exact follows.mirrors other s data (still ▸ present) listening (same ▸ known)

/-! ### What a bind finds -/

def filling (k : Keeper) (secret : Secret) (start : String) : TextMap String :=
  if k.started && (k.room secret).registered then ((k.data secret).getD []).withStart start else []

def welcomed (k : Keeper) (ticket : Nat) (secret : Secret) (failFast : Bool) (start : String) :
    Keeper := (k.seated ticket secret start).seeded ticket (k.arriving secret failFast)

theorem welcomed_frame (k : Keeper) (ticket : Nat) (secret : Secret) (failFast : Bool)
    (start : String) :
    (k.welcomed ticket secret failFast start).leaseListeners =
        k.leaseListeners.add (.source ticket) ∧
      (k.welcomed ticket secret failFast start).rooms = k.rooms := by
  obtain ⟨_, frame⟩ :=
    seeded_frame (k.seated ticket secret start) ticket (k.arriving secret failFast)
  rw [welcomed, frame]
  exact ⟨rfl, rfl⟩

theorem welcomed_still (k : Keeper) (ticket : Nat) (secret : Secret) (failFast : Bool)
    (start : String) (id : Nat) :
    (k.welcomed ticket secret failFast start).still id =
      if id = ticket then some ⟨secret, start, k.policy.strategy, k.filling secret start,
        .uninitialized, k.leaseListeners.issued, k.faultListeners.issued⟩
      else k.still id := by
  by_cases same : id = ticket
  · subst same
    have seat : (k.seated id secret start).still id = some ⟨secret, start, k.policy.strategy, [],
        .uninitialized, k.leaseListeners.issued, k.faultListeners.issued⟩ := by
      simp [still, Keeper.seated, Table.find?_put_self, Source.still]
    have room : (k.seated id secret start).data secret = k.data secret := rfl
    have running : (k.seated id secret start).started = k.started := rfl
    have own : (!(k.arriving secret failFast).added) = (k.room secret).registered :=
      Bool.not_not _
    have target : (k.arriving secret failFast).secret = secret := rfl
    rw [if_pos rfl, welcomed, seeded, filling, running, own, target, room]
    split
    · cases k.data secret with
      | none => exact seat
      | some data =>
        simp [still, tellSource, Keeper.seated, Table.find?_adjust_self, Table.find?_put_self,
          Source.seed, Source.adopt, Source.still]
    · exact seat
  · rw [if_neg same]
    have seated : (k.seated ticket secret start).still id = k.still id := by
      simp only [still, Keeper.seated, Table.find?_put_of_ne same]
    unfold welcomed seeded
    split
    · split
      · rw [tellSource_still_of_ne same, seated]
      · exact seated
    · exact seated

/-- A bind comes for a secret that is not registered and yet has data. -/
inductive Blind (k : Keeper) : KeeperEvent → Prop where
  | bind (ticket : Nat) (secret : Secret) (failFast : Bool) (start : String)
      (data : TextMap String) (absent : (k.room secret).registered = false)
      (stray : k.data secret = some data) (filled : data ≠ []) :
      Blind k (.request ticket (.bind secret failFast start))

theorem Rested.started_of_data (rested : k.Rested) {data : TextMap String}
    (known : k.data secret = some data) : k.started = true := by
  refine Bool.of_not_eq_false fun stopped => ?_
  rw [(rested.empty stopped).data secret] at known
  cases known

theorem filling_of_sighted (rested : k.Rested) {failFast : Bool} {start : String}
    (sighted : ¬ k.Blind (.request ticket (.bind secret failFast start)))
    {data : TextMap String} (known : k.data secret = some data) :
    k.filling secret start = data.withStart start := by
  have running := rested.started_of_data known
  unfold filling
  cases registered : (k.room secret).registered with
  | true => simp [running, known]
  | false =>
    by_cases empty : data = []
    · simp [empty, TextMap.withStart]
    · exact absurd (.bind ticket secret failFast start data registered known empty) sighted

theorem Follows.welcomed (follows : k.Follows opened) (rested : k.Rested) {failFast : Bool}
    {start : String} (sighted : ¬ k.Blind (.request ticket (.bind secret failFast start))) :
    (k.welcomed ticket secret failFast start).Follows fun id => opened id || ticket == id := by
  obtain ⟨listeners, rooms⟩ := welcomed_frame k ticket secret failFast start
  have issued : (k.welcomed ticket secret failFast start).leaseListeners.issued =
      k.leaseListeners.issued + 1 := congrArg Listeners.Registry.issued listeners
  have entries : (k.welcomed ticket secret failFast start).leaseListeners.entries =
      k.leaseListeners.entries ++ [(k.leaseListeners.issued, .source ticket)] :=
    congrArg Listeners.Registry.entries listeners
  -- the source of the bind, or one that was there before
  have cases {id : Nat} {s : Source}
      (present : (k.welcomed ticket secret failFast start).still id = some s) :
      id = ticket ∧ s = ⟨secret, start, k.policy.strategy, k.filling secret start,
        .uninitialized, k.leaseListeners.issued, k.faultListeners.issued⟩ ∨
      id ≠ ticket ∧ k.still id = some s := by
    rw [welcomed_still] at present
    by_cases own : id = ticket
    · rw [if_pos own] at present
      exact Or.inl ⟨own, (Option.some.inj present).symm⟩
    · rw [if_neg own] at present
      exact Or.inr ⟨own, present⟩
  refine ⟨fun id s present => ?_, fun id id' s s' present present' same => ?_,
    fun id s present listening => ?_, fun id s data present listening known => ?_⟩
  · rw [issued]
    rcases cases present with ⟨_, rfl⟩ | ⟨_, old⟩
    · exact Nat.lt_succ_self _
    · exact Nat.lt_succ_of_lt (follows.bounded id s old)
  · rcases cases present with ⟨own, rfl⟩ | ⟨_, old⟩
    · rcases cases present' with ⟨own', _⟩ | ⟨_, old'⟩
      · exact own.trans own'.symm
      · exact absurd (follows.bounded id' s' old') (same ▸ Nat.lt_irrefl _)
    · rcases cases present' with ⟨_, rfl⟩ | ⟨_, old'⟩
      · exact absurd (follows.bounded id s old) (same ▸ Nat.lt_irrefl _)
      · exact follows.apart id id' s s' old old' same
  · rw [entries]
    rcases cases present with ⟨rfl, rfl⟩ | ⟨foreign, old⟩
    · exact List.mem_append_right _ List.mem_cons_self
    · refine List.mem_append_left _ (follows.listens id s old ?_)
      simpa [Ne.symm foreign] using listening
  · rw [Keeper.data, room_of_rooms rooms] at known
    rcases cases present with ⟨rfl, rfl⟩ | ⟨foreign, old⟩
    · exact filling_of_sighted rested sighted known
    · refine follows.mirrors id s data old ?_ known
      simpa [Ne.symm foreign] using listening

/-! ### Whole runs -/

theorem Opens.follows (opens : Opens k event k') (unbinding : event.Unbinding)
    (follows : k.Follows opened) : k'.Follows fun id => event.opens id (opened id) := by
  have fewer (id : Nat) (still : event.opens id (opened id) = true) : opened id = true :=
    unbinding.opens still
  cases opens with
  | nothing => exact follows.fewer fewer
  | published secret purpose response => exact follows.published secret purpose response
  | removed ticket secret => exact (Dwindles.remove k ticket secret).follows follows
  | closed id => exact (follows.closeSource id).fewer fun _ still => still
  | dropped id => exact (Dwindles.dropSource k id).follows follows

theorem step_dwindles (revokes : k.Revokes) (registers : k.Registers)
    (unbinding : event.Unbinding) : ∃ k₀, Opens k event k₀ ∧ Dwindles k₀ (k.step event) := by
  obtain ⟨k₀, k₁, opens, chores, ended⟩ := step_proceeds revokes registers unbinding
  refine ⟨k₀, opens, chores.dwindles.trans ?_⟩
  rcases ended with rests | ⟨ticket, proceeds⟩
  · exact rests ▸ .of_frame rfl rfl rfl
  · exact proceeds.dwindles

theorem bind_dwindles (k : Keeper) (ticket : Nat) (secret : Secret) (failFast : Bool)
    (start : String) : Dwindles (k.welcomed ticket secret failFast start)
      (k.step (.request ticket (.bind secret failFast start))) :=
  (bind_alights k ticket secret failFast start).dwindles

theorem step_follows (revokes : k.Revokes) (registers : k.Registers) (rested : k.Rested)
    (sighted : ¬ k.Blind event) (follows : k.Follows opened) :
    (k.step event).Follows fun id => event.opens id (opened id) := by
  rcases event.bind_or_unbinding with ⟨ticket, secret, failFast, start, rfl⟩ | unbinding
  · exact (bind_dwindles k ticket secret failFast start).follows (follows.welcomed rested sighted)
  · obtain ⟨k₀, opens, dwindles⟩ := step_dwindles revokes registers unbinding
    exact dwindles.follows (opens.follows unbinding follows)

theorem run_follows (policy : LeasePolicy) (events : List KeeperEvent)
    (sighted : (new policy).Along (fun k event => ¬ k.Blind event) events) :
    ((new policy).run events).Follows (isOpen · events) := by
  induction events using List.reverseRecOn with
  | nil =>
    have absent (id : Nat) : (new policy).still id = none := rfl
    exact ⟨fun id s present => (nomatch present), fun id id' s s' present => (nomatch present),
      fun id s present => (nomatch present), fun id s data present => (nomatch present)⟩
  | append_singleton earlier event ih =>
    obtain ⟨before, here, _⟩ := (along_append _ earlier [event]).mp sighted
    have follows := step_follows (run_revokes policy earlier) (run_registers policy earlier)
      (run_rested policy earlier) here (ih before)
    rw [run_append]
    simp only [isOpen_concat]
    exact follows

def Mirrors (policy : LeasePolicy) (events : List KeeperEvent) : Prop :=
  ∀ id s data, ((new policy).run events).sources.find? id = some s → isOpen id events = true →
    ((new policy).run events).data s.secret = some data →
    s.properties = data.withStart s.start

theorem Follows.mirror {policy : LeasePolicy} {events : List KeeperEvent}
    (follows : ((new policy).run events).Follows (isOpen · events)) : Mirrors policy events := by
  intro id s data present listening known
  have still : ((new policy).run events).still id = some s.still := by simp [still, present]
  exact follows.mirrors id s.still data still listening known

theorem bind_unregistered (running : k.started = true)
    (absent : (k.room secret).registered = false) (ticket : Nat) (failFast : Bool)
    (start : String) :
    (∃ s, (k.bind ticket secret failFast start).sources.find? ticket = some s ∧
      s.secret = secret ∧ s.properties = []) ∧
    (k.bind ticket secret failFast start).data secret = k.data secret := by
  have adds := add_adds (k.seated ticket secret start) ticket secret
  generalize outcome : (k.seated ticket secret start).add ticket secret = added at adds
  cases adds with
  | known present => exact absurd (absent.symm.trans present) Bool.false_ne_true
  | waits _ idle => exact absurd (idle.symm.trans running) Bool.false_ne_true
  | fetched =>
    rw [bind_of_waiting outcome]
    refine ⟨⟨_, Table.find?_put_self ticket _ k.sources, rfl, rfl⟩, ?_⟩
    have enlisted : (((k.seated ticket secret start).enlisted secret).room secret).data =
        k.data secret := by
      rw [Keeper.enlisted, room_setRoom_self]
      rfl
    have boarded := room_setRoom_self ((k.seated ticket secret start).enlisted secret) secret
      ((((k.seated ticket secret start).enlisted secret).room secret).board (.register ticket)
        .fetch)
    exact (congrArg Room.data boarded).trans enlisted

/-- The source of a blind bind has nothing, although there is data for its secret. -/
theorem Blind.unmirrored {policy : LeasePolicy} {events : List KeeperEvent}
    (blind : ((new policy).run events).Blind event) : ¬ Mirrors policy (events ++ [event]) := by
  have rested := run_rested policy events
  cases blind with
  | bind ticket secret failFast start data absent stray filled =>
    have running := rested.started_of_data stray
    obtain ⟨⟨s, present, mine, bare⟩, kept⟩ :=
      bind_unregistered running absent ticket failFast start
    have opened : isOpen ticket (events ++ [.request ticket (.bind secret failFast start)]) =
        true := by
      simp [isOpen_concat, KeeperEvent.opens]
    intro mirrors
    have full := mirrors ticket s data
    rw [run_append] at full
    have mirrored := full present opened (by rw [mine]; exact kept.trans stray)
    rw [bare] at mirrored
    exact filled (List.map_eq_nil_iff.mp mirrored.symm)

theorem run_mirrors_iff (policy : LeasePolicy) (events : List KeeperEvent) :
    (∀ begun, begun <+: events → Mirrors policy begun) ↔
      (new policy).Along (fun k event => ¬ k.Blind event) events := by
  constructor
  · intro mirrors
    induction events using List.reverseRecOn with
    | nil => trivial
    | append_singleton earlier event ih =>
      refine (along_append _ earlier [event]).mpr ⟨ih fun begun first => ?_, ?_, trivial⟩
      · exact mirrors begun (first.trans (List.prefix_append earlier [event]))
      · exact fun blind => blind.unmirrored (mirrors _ (List.prefix_refl _))
  · rintro sighted begun ⟨rest, rfl⟩
    exact (run_follows policy begun ((along_append _ begun rest).mp sighted).1).mirror

def NoneAstray (k : Keeper) : Prop :=
  ∀ secret, (k.room secret).registered = false →
    ∀ flight ∈ (k.room secret).flights, flight.errand.isFetch = false

theorem NoneAstray.never_strays (none : k.NoneAstray) : ¬ k.Strays event := by
  intro strays
  cases strays with
  | fetch secret purpose response started absent flown =>
    cases none secret absent _ (Room.mem_of_flight? flown)

theorem Forgets.never_blind (forgets : k.Forgets) : ¬ k.Blind event := by
  intro blind
  cases blind with
  | bind ticket secret failFast start data absent stray =>
    have gone : k.data secret = none := forgets secret absent
    rw [gone] at stray
    cases stray

theorem sighted_of_none_astray (forgets : k.Forgets) {events : List KeeperEvent}
    (none : k.Along (fun k _ => k.NoneAstray) events) :
    k.Along (fun k event => ¬ k.Blind event) events := by
  induction events generalizing k with
  | nil => trivial
  | cons event rest ih =>
    exact ⟨forgets.never_blind, ih ((step_forgets_iff forgets).mpr none.1.never_strays) none.2⟩

theorem step_source (revokes : k.Revokes) (registers : k.Registers) {id : Nat}
    (foreign : ∀ secret failFast start, event ≠ .request id (.bind secret failFast start)) :
    (k.step event).still id = none ∨ (k.step event).still id = k.still id ∨
      ∃ secret purpose response, event = .answer secret purpose (.fetched (.ok response)) ∧
        (k.step event).still id = (k.still id).map (·.absorb secret response.flattened) := by
  rcases event.bind_or_unbinding with ⟨ticket, secret, failFast, start, rfl⟩ | unbinding
  · have differ : id ≠ ticket := fun same => foreign secret failFast start (same ▸ rfl)
    have same := welcomed_still k ticket secret failFast start id
    rw [if_neg differ] at same
    refine ((bind_dwindles k ticket secret failFast start).still id).imp_right fun kept => ?_
    exact Or.inl (kept.trans same)
  · obtain ⟨k₀, opens, dwindles⟩ := step_dwindles revokes registers unbinding
    rcases dwindles.still id with gone | kept
    · exact Or.inl gone
    rw [kept]
    cases opens with
    | nothing => exact Or.inr (Or.inl rfl)
    | published secret purpose response =>
      rcases published_still k secret purpose response id with heard | ⟨same, _⟩
      · exact Or.inr (Or.inr ⟨secret, purpose, response, rfl, heard⟩)
      · exact Or.inr (Or.inl same)
    | removed ticket secret =>
      exact ((Dwindles.remove k ticket secret).still id).imp_right Or.inl
    | closed other => exact Or.inr (Or.inl (congrFun (closeSource_still k other) id))
    | dropped other => exact ((Dwindles.dropSource k other).still id).imp_right Or.inl

theorem step_properties (revokes : k.Revokes) (registers : k.Registers) {id : Nat}
    (foreign : ∀ secret failFast start, event ≠ .request id (.bind secret failFast start))
    {s s' : Source} (before : k.sources.find? id = some s)
    (after : (k.step event).sources.find? id = some s') :
    s'.properties = s.properties ∨ ∃ purpose response,
      event = .answer s.secret purpose (.fetched (.ok response)) ∧
      s'.properties = response.flattened.withStart s.start := by
  have first : k.still id = some s.still := by simp [still, before]
  have last : (k.step event).still id = some s'.still := by simp [still, after]
  rcases step_source revokes registers foreign with
    gone | same | ⟨secret, purpose, response, rfl, heard⟩
  · rw [gone] at last
    cases last
  · rw [same, first] at last
    exact Or.inl (congrArg Source.properties (Option.some.inj last)).symm
  · rw [heard, first] at last
    have own : s'.properties = (s.still.absorb secret response.flattened).properties :=
      (congrArg Source.properties (Option.some.inj last)).symm
    rw [Source.absorb_properties] at own
    by_cases mine : secret = s.secret
    · subst mine
      exact Or.inr ⟨purpose, response, rfl, own.trans (if_pos rfl)⟩
    · exact Or.inl (own.trans (if_neg mine))

/-- In every run, the sources that are open have after each step exactly the data of their secrets,
until a bind comes for a secret that is not registered and has data from a fetch that was answered
late; that one's source has not. There is no such data unless a secret is fetched that is not
registered. And what a source has, only a fetch of its secret changes after its bind. -/
theorem sources_mirror_iff_never_blind (policy : LeasePolicy) (events : List KeeperEvent) :
    ((∀ begun, begun <+: events → Mirrors policy begun) ↔
      (new policy).Along (fun k event => ¬ k.Blind event) events) ∧
    ((new policy).Along (fun k _ => k.NoneAstray) events →
      (new policy).Along (fun k event => ¬ k.Blind event) events) ∧
    ∀ event id s s',
      (∀ secret failFast start, event ≠ .request id (.bind secret failFast start)) →
      ((new policy).run events).sources.find? id = some s →
      (((new policy).run events).step event).sources.find? id = some s' →
      s'.properties = s.properties ∨ ∃ purpose response,
        event = .answer s.secret purpose (.fetched (.ok response)) ∧
        s'.properties = response.flattened.withStart s.start :=
  ⟨run_mirrors_iff policy events, sighted_of_none_astray fun _ _ => rfl,
    fun _ _ _ _ foreign => step_properties (run_revokes policy events)
      (run_registers policy events) foreign⟩

/-- Two sources of one secret, the second bound after the first fetch; a rotation fills both. -/
theorem two_sources_rotated :
    let secret : Secret := ⟨"database/creds/app", .rotate⟩
    let first : Response := ⟨"", "a", 120, true, some (.record [("k", .text "v")]), none, none⟩
    let second : Response := ⟨"", "b", 120, true, some (.record [("k", .text "w")]), none, none⟩
    let events : List KeeperEvent := [.request 1 (.bind secret false "db."), .ask secret 1,
      .answer secret (.start 1) (.fetched (.ok first)), .request 2 (.bind secret true ""),
      .request 3 (.rotate secret)]
    let rotated : KeeperEvent := .answer secret (.rotate 3) (.fetched (.ok second))
    Mirrors .default (events ++ [rotated]) ∧
      ((new .default).run (events ++ [rotated])).data secret = some [("k", "w")] ∧
      ∃ s s', ((new .default).run events).sources.find? 1 = some s ∧
        (((new .default).run events).step rotated).sources.find? 1 = some s' ∧
        s.properties = [("db.k", "v")] ∧ s'.properties = [("db.k", "w")] ∧
        (s'.properties = s.properties ∨ ∃ purpose response,
          rotated = .answer s.secret purpose (.fetched (.ok response)) ∧
          s'.properties = response.flattened.withStart s.start) := by
  intro secret first second events rotated
  have sighted : (new .default).Along (fun k event => ¬ k.Blind event) (events ++ [rotated]) := by
    refine ⟨fun blind => ?_, nofun, nofun, fun blind => ?_, nofun, fun blind => ?_, trivial⟩
    · cases blind with
      | bind _ _ _ _ data _ stray => cases stray
    · cases blind with
      | bind _ _ _ _ _ absent => exact absurd absent (by decide)
    · have answer : rotated = .answer secret (.rotate 3) (.fetched (.ok second)) := rfl
      rw [answer] at blind
      cases blind
  have before : ((new .default).run events).sources.find? 1 =
      some ⟨secret, "db.", .dropOnError, [("db.k", "v")], .active, 0, 0⟩ := by decide
  have after : (((new .default).run events).step rotated).sources.find? 1 =
      some ⟨secret, "db.", .dropOnError, [("db.k", "w")], .active, 0, 0⟩ := by decide
  obtain ⟨mirrors, _, changes⟩ := sources_mirror_iff_never_blind .default events
  have whole := (sources_mirror_iff_never_blind .default (events ++ [rotated])).1
  exact ⟨whole.mpr sighted _ (List.prefix_refl _), by decide, _, _, before, after, rfl, rfl,
    changes rotated 1 _ _ nofun before after⟩

/-- A secret is removed during a renewal of its lease, and no fetch of it is under way. The renewal
comes to little, so that the secret is fetched, and the data is published for nobody. A bind then
registers the secret again, its fetch fails, and it gives out its source empty beside that data. -/
theorem bound_beside_stray_data :
    let secret : Secret := ⟨"database/creds/app", .rotate⟩
    let first : Response := ⟨"", "a", 120, true, none, none, none⟩
    let second : Response := ⟨"", "b", 120, true, some (.record [("k", .text "v")]), none, none⟩
    let early : List KeeperEvent := [.request 1 (.add secret), .request 2 .start, .ask secret 2,
      .answer secret (.start 2) (.fetched (.ok first)), .pass (Span.seconds 60), .fire secret 0 1]
    let late : List KeeperEvent := [.request 3 (.remove secret),
      .answer secret (.timer 0 1) (.renewed (.ok ⟨"a", 30, true⟩)),
      .answer secret (.timer 0 1) (.fetched (.ok second)), .request 4 (.bind secret false ""),
      .answer secret (.register 4) (.fetched (.error (.internal "down")))]
    let k := (new .default).run early
    let k' := (new .default).run (early ++ late)
    (∀ flight ∈ (k.room secret).flights, flight.errand.isFetch = false) ∧
      isOpen 4 (early ++ late) = true ∧ k'.binds = [] ∧ k'.data secret = some [("k", "v")] ∧
      k'.sources.find? 4 = some ⟨secret, "", .dropOnError, [], .uninitialized, 0, 0⟩ ∧
      ¬ Mirrors .default (early ++ late) := by
  intro secret first second early late k k'
  have listening : isOpen 4 (early ++ late) = true := by decide
  have known : k'.data secret = some [("k", "v")] := by decide
  have present : k'.sources.find? 4 =
      some ⟨secret, "", .dropOnError, [], .uninitialized, 0, 0⟩ := by decide
  refine ⟨by decide, listening, by decide, known, present, fun mirrors => ?_⟩
  cases mirrors 4 _ _ present listening known

end Keeper
end LeaseKeeper
