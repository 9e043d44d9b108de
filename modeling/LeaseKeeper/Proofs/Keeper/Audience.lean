import LeaseKeeper.Proofs.Keeper.Keyed
import LeaseKeeper.Proofs.Keeper.Listening

/-!
Keepers with an audience. Outsiders begin and cease to listen between the steps, so a keeper's
listeners are not its sources' alone. Whoever listens does so under a number that was issued and is
not issued again; the steps themselves let listeners go, and only a bind adds any.
-/
namespace LeaseKeeper

namespace Listeners.Registry

variable {L : Type} {r r' r'' : Registry L}

def Bounded (r : Registry L) : Prop := ∀ entry ∈ r.entries, entry.1 < r.issued

theorem Bounded.add (bounded : r.Bounded) (listener : L) : (r.add listener).Bounded := by
  intro entry listed
  rcases List.mem_append.mp listed with old | new
  · exact Nat.lt_succ_of_lt (bounded entry old)
  · rw [List.mem_singleton.mp new]
    exact Nat.lt_succ_self r.issued

theorem Bounded.remove_last (bounded : r.Bounded) (listener : L) :
    ((r.add listener).remove r.issued).entries = r.entries := by
  have others : r.entries.filter (fun entry => entry.1 != r.issued) = r.entries :=
    List.filter_eq_self.mpr fun entry listed => bne_iff_ne.mpr (Nat.ne_of_lt (bounded entry listed))
  have last : [(r.issued, listener)].filter (fun entry => entry.1 != r.issued) = [] := by simp
  rw [Registry.remove, Registry.add, List.filter_append, others, last, List.append_nil]

structure Thins (r r' : Registry L) : Prop where
  issued : r'.issued = r.issued
  entries : r'.entries ⊆ r.entries

namespace Thins

theorem refl (r : Registry L) : Thins r r := ⟨rfl, List.Subset.refl _⟩

theorem of_eq (same : r' = r) : Thins r r' := same ▸ refl r

theorem trans (first : Thins r r') (second : Thins r' r'') : Thins r r'' :=
  ⟨second.issued.trans first.issued, List.Subset.trans second.entries first.entries⟩

theorem remove (r : Registry L) (id : Nat) : Thins r (r.remove id) :=
  ⟨rfl, fun _ listed => (List.mem_filter.mp listed).1⟩

theorem bounded (thins : Thins r r') (bounded : r.Bounded) : r'.Bounded := by
  intro entry listed
  rw [thins.issued]
  exact bounded entry (thins.entries listed)

end Thins

end Listeners.Registry

namespace Keeper

open Listeners (Registry)

variable {k k' k'' : Keeper} {secret : Secret} {ticket : Nat} {b : Binding} {event : KeeperEvent}

/-! ### Listeners go -/

structure Hushes (k k' : Keeper) : Prop where
  leaseListeners : Registry.Thins k.leaseListeners k'.leaseListeners
  faultListeners : Registry.Thins k.faultListeners k'.faultListeners

namespace Hushes

theorem of_frame (leaseListeners : k'.leaseListeners = k.leaseListeners)
    (faultListeners : k'.faultListeners = k.faultListeners) : Hushes k k' :=
  ⟨.of_eq leaseListeners, .of_eq faultListeners⟩

theorem refl (k : Keeper) : Hushes k k := of_frame rfl rfl

theorem trans (first : Hushes k k') (second : Hushes k' k'') : Hushes k k'' :=
  ⟨first.leaseListeners.trans second.leaseListeners,
    first.faultListeners.trans second.faultListeners⟩

theorem emit (k : Keeper) (e : LeaseEvent) : Hushes k (k.emit e) := by
  obtain ⟨sources, frame⟩ := emit_frame k e
  rw [frame]
  exact of_frame rfl rfl

theorem report (k : Keeper) (secret : Secret) (lease : Lease) (fault : Fault) :
    Hushes k (k.report secret lease fault).1 :=
  of_frame (report_leaseListeners k secret lease fault) (report_faultListeners k secret lease fault)

theorem remove (k : Keeper) (ticket : Nat) (secret : Secret) :
    Hushes k (k.remove ticket secret).1 := by
  cases registered : (k.room secret).registered with
  | false =>
    simp only [Keeper.remove, registered]
    exact refl k
  | true =>
    have gone : Hushes k (k.without secret) := of_frame rfl rfl
    rw [remove_eq k secret ticket registered]
    split
    · rename_i lease _
      split
      · exact gone.trans ((emit _ (.beforeRevocation secret lease)).trans (of_frame rfl rfl))
      · exact gone
    · exact gone

theorem release (k : Keeper) (ticket : Nat) : Hushes k (k.release ticket).1 := by
  unfold Keeper.release
  split
  · exact refl k
  · exact ⟨.refl _, .remove _ _⟩

theorem silence (k : Keeper) (id : Nat) : Hushes k (k.silence id) := by
  unfold Keeper.silence
  split
  · exact refl k
  · exact ⟨.remove _ _, .remove _ _⟩

theorem dropSource (k : Keeper) (id : Nat) : Hushes k (k.dropSource id) :=
  (silence k id).trans (of_frame rfl rfl)

theorem ended (k : Keeper) (ticket : Nat) (answer : KeeperAnswer) :
    Hushes k (k.ended ticket answer) := of_frame rfl rfl

theorem setStage (k : Keeper) (ticket : Nat) (b : Binding) : Hushes k (k.setStage ticket b) :=
  of_frame rfl rfl

end Hushes

theorem Chore.hushes (chore : Chore k k') : Hushes k k' := by
  cases chore with
  | emitted e => exact .emit k e
  | reported secret lease fault => exact .report k secret lease fault
  | emptied =>
    obtain ⟨rooms, frame⟩ := emptied_frame k
    rw [frame]
    exact .of_frame rfl rfl
  | _ => exact .of_frame rfl rfl

theorem Chores.hushes (chores : Chores k k') : Hushes k k' := by
  induction chores with
  | refl => exact .refl k
  | tail _ last ih => exact ih.trans last.hushes

theorem Concludes.hushes (concludes : Concludes k ticket b k') : Hushes k k' := by
  have released := Hushes.release k ticket
  have removed := released.trans (.remove _ ticket b.secret)
  cases concludes with
  | finished => exact released.trans (.ended _ ticket _)
  | failed fault => exact released.trans ((Hushes.dropSource _ ticket).trans (.ended _ ticket _))
  | undone fault => exact removed.trans ((Hushes.dropSource _ ticket).trans (.ended _ ticket _))
  | undoing fault => exact removed.trans (.setStage _ ticket _)

theorem Proceeds.hushes (proceeds : Proceeds k ticket k') : Hushes k k' := by
  cases proceeds with
  | unbound => exact .of_frame rfl rfl
  | joins b _ _ _ joins =>
    cases joins with
    | waits k₁ chores => exact chores.hushes.trans (.setStage k₁ ticket _)
    | concludes k₁ _ chores concludes => exact chores.hushes.trans concludes.hushes
  | failed b fault => exact (Hushes.dropSource k ticket).trans (.ended _ ticket _)
  | died =>
    exact (Hushes.release k ticket).trans
      ((Hushes.dropSource _ ticket).trans (.ended _ ticket _))

theorem Alights.hushes (alights : Alights k ticket b k') : Hushes k k' := by
  cases alights with
  | waits k₁ stage chores => exact chores.hushes.trans (.setStage k₁ ticket _)
  | finished k₁ chores =>
    exact chores.hushes.trans ((Hushes.release k₁ ticket).trans (.ended _ ticket _))

theorem Opens.hushes (opens : Opens k event k') : Hushes k k' := by
  cases opens with
  | nothing => exact .refl k
  | published secret purpose response =>
    have filled : Hushes k ((k.landed secret purpose).setRoom secret
        { (k.landed secret purpose).room secret with data := some response.flattened }) :=
      .of_frame rfl rfl
    exact filled.trans (.emit _ _)
  | removed ticket secret => exact .remove k ticket secret
  | closed id => exact (Hushes.silence k id).trans (.of_frame rfl rfl)
  | dropped id => exact .dropSource k id

/-! ### Keepers that may be met -/

/-- A keeper that has come about step by step, while outsiders began and ceased to listen. -/
inductive Arises (policy : LeasePolicy) : Keeper → Prop where
  | new : Arises policy (new policy)
  | stepped (k : Keeper) (event : KeeperEvent) (before : Arises policy k) :
      Arises policy (k.step event)
  | heeded (k : Keeper) (before : Arises policy k) :
      Arises policy { k with leaseListeners := k.leaseListeners.add .observer }
  | watched (k : Keeper) (keeps : Bool) (before : Arises policy k) :
      Arises policy { k with faultListeners := k.faultListeners.add (.observer keeps) }
  | unheeded (k : Keeper) (id : Nat) (before : Arises policy k) :
      Arises policy { k with leaseListeners := k.leaseListeners.remove id }
  | unwatched (k : Keeper) (id : Nat) (before : Arises policy k) :
      Arises policy { k with faultListeners := k.faultListeners.remove id }

structure Regular (k : Keeper) : Prop where
  lined : k.Lined
  keyed : k.Keyed
  queued : k.Queued
  revokes : k.Revokes
  registers : k.Registers
  leases : k.leaseListeners.Bounded
  faults : k.faultListeners.Bounded

theorem Regular.hushes (regular : k.Regular) (hushes : Hushes k k') :
    k'.leaseListeners.Bounded ∧ k'.faultListeners.Bounded :=
  ⟨hushes.leaseListeners.bounded regular.leases, hushes.faultListeners.bounded regular.faults⟩

theorem Regular.step (regular : k.Regular) (event : KeeperEvent) : (k.step event).Regular := by
  have bounded : (k.step event).leaseListeners.Bounded ∧
      (k.step event).faultListeners.Bounded := by
    rcases event.bind_or_unbinding with ⟨ticket, secret, failFast, start, rfl⟩ | unbinding
    · have begun := welcomed_listens k ticket secret failFast start
      have framed := welcomed_frame k ticket secret failFast start
      have hushes : Hushes (k.welcomed ticket secret failFast start)
          (k.step (.request ticket (.bind secret failFast start))) :=
        (bind_alights k ticket secret failFast start).hushes
      refine ⟨hushes.leaseListeners.bounded ?_, hushes.faultListeners.bounded ?_⟩
      · rw [framed.1]
        exact regular.leases.add _
      · rw [begun.2.1]
        exact (regular.faults.add _).add _
    · obtain ⟨k₀, k₁, opens, chores, last⟩ :=
        step_proceeds regular.revokes regular.registers unbinding
      have hushes := opens.hushes.trans chores.hushes
      rcases last with same | ⟨ticket, proceeds⟩
      · exact same ▸ regular.hushes hushes
      · exact regular.hushes (hushes.trans proceeds.hushes)
  exact ⟨(step_moves k event).lined regular.lined, step_keyed regular.keyed event,
    step_queued regular.queued event, step_revokes regular.revokes event,
    step_registers regular.revokes regular.registers event,
    bounded.1, bounded.2⟩

theorem Arises.regular {policy : LeasePolicy} (arises : Arises policy k) : k.Regular := by
  induction arises with
  | new =>
    exact ⟨run_lined policy [], run_keyed policy [], run_queued policy [], run_revokes policy [],
      run_registers policy [],
      fun _ listed => absurd listed List.not_mem_nil,
      fun _ listed => absurd listed List.not_mem_nil⟩
  | stepped k event _ ih => exact ih.step event
  | heeded k _ ih => exact { ih with leases := ih.leases.add _ }
  | watched k keeps _ ih => exact { ih with faults := ih.faults.add _ }
  | unheeded k id _ ih => exact { ih with leases := (Registry.Thins.remove _ id).bounded ih.leases }
  | unwatched k id _ ih =>
    exact { ih with faults := (Registry.Thins.remove _ id).bounded ih.faults }

end Keeper
end LeaseKeeper
