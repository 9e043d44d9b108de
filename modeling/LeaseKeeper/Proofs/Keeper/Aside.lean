import LeaseKeeper.Keeper.Binding
import LeaseKeeper.Proofs.Keeper.Rooms

/-!
What a keeper does besides its leases: it tells listeners, counts, and looks after the sources and
the binds. None of it touches a room or the clock, and of the journal's entries only some can come
from it.
-/
namespace LeaseKeeper

def Entry.isAside : Entry → Bool
  | .call _ _ _ => false
  | .armed _ _ _ _ => false
  | .event (.created _ _ _) => false
  | _ => true

namespace Keeper

structure Aside (k k' : Keeper) : Prop where
  policy : k'.policy = k.policy
  now : k'.now = k.now
  started : k'.started = k.started
  owned : k'.owned = k.owned
  rooms : k'.rooms = k.rooms
  journal : ∃ fresh, k'.journal = fresh ++ k.journal ∧ ∀ entry ∈ fresh, entry.2.isAside = true

theorem Aside.refl (k : Keeper) : Aside k k := ⟨rfl, rfl, rfl, rfl, rfl, [], rfl, by simp⟩

theorem Aside.trans {k₁ k₂ k₃ : Keeper} (first : Aside k₁ k₂) (second : Aside k₂ k₃) :
    Aside k₁ k₃ := by
  obtain ⟨early, before, plain⟩ := first.journal
  obtain ⟨late, after, plain'⟩ := second.journal
  refine ⟨second.policy.trans first.policy, second.now.trans first.now,
    second.started.trans first.started, second.owned.trans first.owned,
    second.rooms.trans first.rooms, late ++ early, ?_, ?_⟩
  · rw [after, before, List.append_assoc]
  · intro entry member
    rcases List.mem_append.mp member with new | old
    · exact plain' entry new
    · exact plain entry old

theorem Aside.of_journal {k k' : Keeper} (policy : k'.policy = k.policy) (now : k'.now = k.now)
    (started : k'.started = k.started) (owned : k'.owned = k.owned) (rooms : k'.rooms = k.rooms)
    (journal : k'.journal = k.journal) : Aside k k' :=
  ⟨policy, now, started, owned, rooms, [], journal, by simp⟩

variable (k : Keeper)

theorem note_aside {entry : Entry} (plain : entry.isAside = true) : Aside k (k.note entry) := by
  refine ⟨rfl, rfl, rfl, rfl, rfl, [(k.now, entry)], rfl, ?_⟩
  intro other member
  obtain rfl := List.mem_singleton.mp member
  exact plain

theorem count_aside (m : Measure) : Aside k (k.count m) := .of_journal rfl rfl rfl rfl rfl rfl

theorem setGauge_aside (level : Nat) : Aside k (k.setGauge level) :=
  .of_journal rfl rfl rfl rfl rfl rfl

/-! ### Listeners -/

theorem tellSource_aside (id : Nat) (f : Source → Source) : Aside k (k.tellSource id f) :=
  .of_journal rfl rfl rfl rfl rfl rfl

theorem catchFault_aside (ticket : Nat) (secret : Secret) (caught : Caught) :
    Aside k (k.catchFault ticket secret caught).1 := by
  unfold catchFault
  split
  · exact .refl k
  · split
    · exact .of_journal rfl rfl rfl rfl rfl rfl
    · exact .refl k

theorem Aside.foldl {α : Type} {f : Keeper → α → Keeper} (each : ∀ k a, Aside k (f k a))
    (entries : List α) : Aside k (entries.foldl f k) := by
  induction entries generalizing k with
  | nil => exact .refl k
  | cons entry rest ih => exact (each k entry).trans (ih (f k entry))

/-- Publishing an event does nothing but note it and tell the sources. -/
theorem emit_tells (e : LeaseEvent) : Aside (k.note (.event e)) (k.emit e) := by
  refine Aside.foldl _ ?_ _
  rintro k ⟨_, listener⟩
  cases listener with
  | observer => exact .refl k
  | source id => exact tellSource_aside k id _

theorem emit_aside {e : LeaseEvent} (plain : (Entry.event e).isAside = true) :
    Aside k (k.emit e) := (note_aside k plain).trans (emit_tells k e)

theorem Aside.foldl_fst {α β : Type} {f : Keeper × β → α → Keeper × β}
    (each : ∀ state a, Aside state.1 (f state a).1) (entries : List α) (state : Keeper × β) :
    Aside state.1 (entries.foldl f state).1 := by
  induction entries generalizing state with
  | nil => exact .refl _
  | cons entry rest ih => exact (each state entry).trans (ih (f state entry))

theorem report_aside (secret : Secret) (lease : Lease) (fault : Fault) :
    Aside k (k.report secret lease fault).1 := by
  have counted : Aside k { k with reports := k.reports + 1 } :=
    .of_journal rfl rfl rfl rfl rfl rfl
  refine (counted.trans (note_aside _ rfl)).trans (Aside.foldl_fst ?_ _ (_, false))
  rintro ⟨k₁, held⟩ ⟨_, listener⟩
  cases listener with
  | observer => exact .refl k₁
  | source id => exact tellSource_aside k₁ id _
  | capture ticket => exact catchFault_aside k₁ ticket secret _

theorem read_foldl {σ α β : Type} {f : σ → α → σ} (read : σ → β)
    (each : ∀ state a, read (f state a) = read state) (entries : List α) (state : σ) :
    read (entries.foldl f state) = read state := by
  induction entries generalizing state with
  | nil => rfl
  | cons entry rest ih => exact (ih _).trans (each state entry)

theorem emit_journal (e : LeaseEvent) :
    (k.emit e).journal = (k.now, .event e) :: k.journal := by
  refine (read_foldl Keeper.journal ?_ _ _).trans rfl
  rintro k ⟨_, listener⟩
  cases listener <;> rfl

theorem report_journal (secret : Secret) (lease : Lease) (fault : Fault) :
    (k.report secret lease fault).1.journal = (k.now, .fault secret lease fault) :: k.journal := by
  refine (read_foldl (fun state : Keeper × Bool => state.1.journal) ?_ _ _).trans rfl
  rintro ⟨k, held⟩ ⟨_, listener⟩
  cases listener with
  | capture ticket =>
    simp only [catchFault]
    split
    · rfl
    · split <;> rfl
  | _ => rfl

structure Telling (k k' : Keeper) : Prop extends Aside k k' where
  binds : k'.binds = k.binds

theorem Telling.trans {k₁ k₂ k₃ : Keeper} (first : Telling k₁ k₂) (second : Telling k₂ k₃) :
    Telling k₁ k₃ := ⟨first.toAside.trans second.toAside, second.binds.trans first.binds⟩

theorem count_telling (m : Measure) : Telling k (k.count m) := ⟨count_aside k m, rfl⟩

theorem emit_binds (e : LeaseEvent) : (k.emit e).binds = k.binds := by
  refine (read_foldl Keeper.binds ?_ _ _).trans rfl
  rintro k ⟨_, listener⟩
  cases listener <;> rfl

theorem emit_telling {e : LeaseEvent} (plain : (Entry.event e).isAside = true) :
    Telling k (k.emit e) := ⟨emit_aside k plain, emit_binds k e⟩

theorem report_telling (secret : Secret) (lease : Lease) (fault : Fault) :
    Telling k (k.report secret lease fault).1 := by
  refine ⟨report_aside k secret lease fault,
    (read_foldl (fun state : Keeper × Bool => state.1.binds) ?_ _ _).trans rfl⟩
  rintro ⟨k, held⟩ ⟨_, listener⟩
  cases listener with
  | capture ticket =>
    simp only [catchFault]
    split
    · rfl
    · split <;> rfl
  | _ => rfl

/-! ### Sources and binds -/

theorem silence_aside (id : Nat) : Aside k (k.silence id) := by
  unfold silence
  split
  · exact .refl k
  · exact .of_journal rfl rfl rfl rfl rfl rfl

theorem dropSource_aside (id : Nat) : Aside k (k.dropSource id) :=
  (silence_aside k id).trans (.of_journal rfl rfl rfl rfl rfl rfl)

theorem closeSource_aside (id : Nat) : Aside k (k.closeSource id) :=
  (silence_aside k id).trans (tellSource_aside _ id _)

theorem release_aside (ticket : Nat) : Aside k (k.release ticket).1 := by
  unfold release
  split
  · exact .refl k
  · exact .of_journal rfl rfl rfl rfl rfl rfl

theorem setStage_aside (ticket : Nat) (b : Binding) : Aside k (k.setStage ticket b) :=
  .of_journal rfl rfl rfl rfl rfl rfl

theorem endBind_aside (ticket : Nat) (answer : KeeperAnswer) :
    Aside k ({ k with binds := k.binds.erase ticket }.note (.returned ticket answer)) := by
  have ended : Aside k { k with binds := k.binds.erase ticket } :=
    .of_journal rfl rfl rfl rfl rfl rfl
  exact ended.trans (note_aside _ rfl)

theorem failBind_aside (ticket : Nat) (fault : Fault) : Aside k (k.failBind ticket fault) :=
  (dropSource_aside k ticket).trans (endBind_aside _ ticket _)

theorem finishBind_aside (ticket : Nat) : Aside k (k.finishBind ticket) :=
  endBind_aside k ticket _

end Keeper
end LeaseKeeper
