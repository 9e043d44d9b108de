import LeaseKeeper.Proofs.Keeper.Steps
import Mathlib.Data.List.Nodup

/-!
Every secret has one room. The table of rooms is written by key only, or row by row, so no secret
comes twice in it, and what is counted over the table is counted over the secrets.
-/
namespace LeaseKeeper

namespace Table

variable {α β : Type} [DecidableEq α]

theorem mem_keys_put {key other : α} {value : β} {t : Table α β}
    (member : other ∈ (put key value t).map Prod.fst) : other = key ∨ other ∈ t.map Prod.fst := by
  induction t with
  | nil => simpa [put] using member
  | cons entry rest ih =>
    obtain ⟨k, v⟩ := entry
    by_cases same : k = key
    · rw [put, if_pos same] at member
      exact Or.inr member
    · rw [put, if_neg same] at member
      rcases List.mem_cons.mp member with rfl | later
      · exact Or.inr List.mem_cons_self
      · exact (ih later).imp_right (List.mem_cons_of_mem _)

theorem nodup_put {t : Table α β} (nodup : (t.map Prod.fst).Nodup) (key : α) (value : β) :
    ((put key value t).map Prod.fst).Nodup := by
  induction t with
  | nil => exact List.nodup_singleton key
  | cons entry rest ih =>
    obtain ⟨k, v⟩ := entry
    obtain ⟨fresh, later⟩ := List.nodup_cons.mp nodup
    by_cases same : k = key
    · rw [put, if_pos same]
      exact nodup
    · rw [put, if_neg same]
      refine List.nodup_cons.mpr ⟨fun member => ?_, ih later⟩
      exact (mem_keys_put member).elim same fresh

theorem find?_of_mem {t : Table α β} (nodup : (t.map Prod.fst).Nodup) {key : α} {value : β}
    (member : (key, value) ∈ t) : find? key t = some value := by
  induction t with
  | nil => cases member
  | cons entry rest ih =>
    obtain ⟨k, v⟩ := entry
    obtain ⟨fresh, later⟩ := List.nodup_cons.mp nodup
    rcases List.mem_cons.mp member with same | old
    · obtain ⟨rfl, rfl⟩ := Prod.mk.inj same
      exact if_pos rfl
    · have differ : k ≠ key := by
        rintro rfl
        exact fresh (List.mem_map.mpr ⟨_, old, rfl⟩)
      rw [find?, if_neg differ]
      exact ih later old

end Table

namespace Keeper

variable {k k' : Keeper} {state state' : Keeper × Hand} {secret : Secret}

def Keyed (k : Keeper) : Prop := (k.rooms.map Prod.fst).Nodup

namespace Keyed

theorem of_rooms (keyed : k.Keyed) (rooms : k'.rooms = k.rooms) : k'.Keyed := by
  rw [Keyed, rooms]
  exact keyed

theorem setRoom (keyed : k.Keyed) (secret : Secret) (room : Room) :
    (k.setRoom secret room).Keyed := Table.nodup_put keyed secret room

theorem mapRooms (keyed : k.Keyed) (f : Room → Room) : (k.mapRooms f).Keyed := by
  have keys : (k.mapRooms f).rooms.map Prod.fst = k.rooms.map Prod.fst := List.map_map
  rw [Keyed, keys]
  exact keyed

theorem call (keyed : k.Keyed) (secret : Secret) (purpose : Purpose) (errand : Errand) :
    (k.call secret purpose errand).Keyed :=
  keyed.setRoom secret ((k.room secret).board purpose errand)

theorem emit (keyed : k.Keyed) (e : LeaseEvent) : (k.emit e).Keyed :=
  keyed.of_rooms (emit_tells k e).rooms

theorem renewOrFetch (keyed : k.Keyed) (secret : Secret) (purpose : Purpose) (lease : Lease) :
    (k.renewOrFetch secret purpose lease).Keyed := by
  unfold Keeper.renewOrFetch
  split
  · exact keyed.call secret purpose _
  · exact keyed.call secret purpose _

theorem scheduled {lease : Lease} {outcome : Keeper × Scheduling} (keyed : k.Keyed)
    (scheduled : Scheduled k secret lease outcome) : outcome.1.Keyed := by
  cases scheduled with
  | refused => exact keyed
  | outlasted => exact keyed.setRoom secret _
  | installed => exact keyed.setRoom secret _
  | disabled => exact keyed.setRoom secret _

theorem vacateAll (keyed : k.Keyed) (secrets : List Secret) : (k.vacateAll secrets).Keyed := by
  induction secrets generalizing k with
  | nil => exact keyed
  | cons secret rest ih =>
    have first : (k.vacate secret).1.Keyed := by
      rcases vacate_cases k secret with ⟨_, same⟩ | ⟨number, line, _, _, vacated⟩
      · rw [same]
        exact keyed
      · rw [vacated]
        exact keyed.setRoom secret _
    exact ih first

theorem emptied (keyed : k.Keyed) : k.emptied.Keyed :=
  (vacateAll (k := { k with started := false }) keyed k.registered).mapRooms _

end Keyed

theorem Act.keyed (act : Act state state') (keyed : state.1.Keyed) : state'.1.Keyed := by
  cases act with
  | aside k k' hand aside => exact keyed.of_rooms aside.rooms
  | owed k secret purpose => exact keyed.call secret purpose _
  | promised k secret => exact keyed.setRoom secret _
  | asked k secret ticket => exact keyed.call secret _ _
  | poured k ticket secret lease => exact (keyed.emit _).call secret _ _
  | pursued k secret number generation lease => exact keyed.renewOrFetch secret _ lease
  | published k secret purpose response => exact (keyed.setRoom secret _).emit _
  | kept k k' secret purpose lease scheduled => exact keyed.scheduled scheduled
  | outlasted k k' secret purpose lease scheduled => exact keyed.scheduled scheduled
  | revoked k secret purpose lease result => exact (keyed.emit _).call secret purpose _
  | refetched k secret purpose => exact keyed.call secret purpose _
  | decided k k' secret ticket lease kind scheduled => exact keyed.scheduled scheduled
  | overran k k' secret ticket lease scheduled => exact keyed.scheduled scheduled
  | crashed k ticket => exact keyed.mapRooms _
  | opened k secret => exact keyed.setRoom secret _
  | enrolled k secret => exact keyed.setRoom secret _
  | forgotten k secret => exact keyed.setRoom secret _
  | released k secret => exact keyed.setRoom secret _
  | expired k secret => exact keyed.setRoom secret _
  | resumed k secret => exact keyed.setRoom secret _
  | concluded k secret => exact keyed.setRoom secret _
  | _ => exact keyed

theorem Begins.keyed {event : KeeperEvent} {k₀ : Keeper} {hand : Hand}
    (begins : Begins k event k₀ hand) (keyed : k.Keyed) : k₀.Keyed := by
  cases begins with
  | told event k' aside => exact keyed.of_rooms aside.rooms
  | inquired ticket secret lease => exact keyed.renewOrFetch secret _ lease
  | asked secret => exact keyed.setRoom secret _
  | emptied => exact keyed.emptied
  | failed secret => exact keyed.setRoom secret _
  | fetched secret => exact keyed.setRoom secret _
  | renewed secret => exact keyed.setRoom secret _
  | revoked secret => exact keyed.setRoom secret _
  | claimed secret => exact keyed.setRoom secret _
  | missed secret => exact keyed.setRoom secret _
  | noticed secret => exact keyed.setRoom secret _
  | _ => exact keyed

theorem step_keyed (keyed : k.Keyed) (event : KeeperEvent) : (k.step event).Keyed := by
  obtain ⟨k₀, hand, begins, acts⟩ := step_acts k event
  exact acts.keep (P := (·.1.Keyed)) (fun _ _ act => act.keyed) (begins.keyed keyed)

theorem run_keyed (policy : LeasePolicy) (events : List KeeperEvent) :
    ((new policy).run events).Keyed := by
  have fresh : (new policy).Keyed := List.nodup_nil
  exact run_keep (P := Keyed) (fun _ event keyed => step_keyed keyed event) fresh events

/-! ### What the table says of the secrets -/

namespace Keyed

theorem room (keyed : k.Keyed) {room : Room} (member : (secret, room) ∈ k.rooms) :
    k.room secret = room := by
  rw [Keeper.room, Table.find?_of_mem keyed member]
  rfl

theorem registered (keyed : k.Keyed) : k.registered.Nodup :=
  (List.filter_sublist.map Prod.fst).nodup keyed

theorem mem_registered_iff (keyed : k.Keyed) :
    secret ∈ k.registered ↔ (k.room secret).registered = true := by
  refine ⟨fun member => ?_, Keeper.mem_registered⟩
  obtain ⟨⟨own, room⟩, kept, rfl⟩ := List.mem_map.mp member
  obtain ⟨entered, present⟩ := List.mem_filter.mp kept
  rw [keyed.room entered]
  exact present

end Keyed

end Keeper
end LeaseKeeper
