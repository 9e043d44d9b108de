import LeaseKeeper.Listeners.Named
import Mathlib.Data.List.Nodup
/-!
Who hears an event, and who is registered after it. Whatever the listeners do to the registry while
they are called, and in whatever order they are come upon, those who were registered when the event
arose hear it once and nobody else does. A record of all that is added, removed and called accounts
for what a registry holds at any time: whoever was added and has not been removed since.
-/
namespace LeaseKeeper.Listeners

/-- What shows of a registry from outside. -/
inductive Deed (E L : Type) where
  | added (id : Nat) (listener : L)
  | removed (id : Nat) (present : Bool)
  | called (id : Nat) (listener : L) (event : E)
  deriving DecidableEq, Repr

namespace Deed

variable {E L : Type}

def registers (id : Nat) : Deed E L → Bool
  | added other _ => other == id
  | _ => false

def takes (id : Nat) : Deed E L → Bool
  | removed other present => present && other == id
  | _ => false

def call? : Deed E L → Option ((Nat × L) × E)
  | called id listener event => some ((id, listener), event)
  | _ => none

end Deed

variable {E L M : Type}

/-- `listener` was registered under `id` and has not been removed since. -/
def Remains (record : List (Deed E L)) (id : Nat) (listener : L) : Prop :=
  ∃ before after, record = before ++ .added id listener :: after ∧
    ∀ present, .removed id present ∉ after

theorem snoc_eq_append_cons {α : Type} {items before after : List α} {last x : α} :
    items ++ [last] = before ++ x :: after ↔
      after = [] ∧ before = items ∧ x = last ∨
        ∃ rest, after = rest ++ [last] ∧ items = before ++ x :: rest := by
  constructor
  · intro same
    rcases List.eq_nil_or_concat after with rfl | ⟨rest, final, rfl⟩
    · obtain ⟨front, single⟩ := List.append_inj' same rfl
      exact .inl ⟨rfl, front.symm, (List.cons.inj single).1.symm⟩
    · have regrouped : items ++ [last] = (before ++ x :: rest) ++ [final] := by simpa using same
      obtain ⟨front, single⟩ := List.append_inj' regrouped rfl
      obtain rfl := (List.cons.inj single).1
      exact .inr ⟨rest, by simp, front⟩
  · rintro (⟨rfl, rfl, rfl⟩ | ⟨rest, rfl, rfl⟩)
    · rfl
    · simp

theorem remains_snoc {record : List (Deed E L)} {deed : Deed E L} {id : Nat} {listener : L} :
    Remains (record ++ [deed]) id listener ↔
      deed = .added id listener ∨
        Remains record id listener ∧ ∀ present, deed ≠ .removed id present := by
  constructor
  · rintro ⟨before, after, split, kept⟩
    rcases snoc_eq_append_cons.mp split with ⟨-, -, same⟩ | ⟨rest, rfl, same⟩
    · exact .inl same.symm
    · refine .inr ⟨⟨before, rest, same, fun present member => ?_⟩, fun present is => ?_⟩
      · exact kept present (List.mem_append_left _ member)
      · exact kept present (by simp [is])
  · rintro (rfl | ⟨⟨before, rest, rfl, kept⟩, other⟩)
    · exact ⟨record, [], rfl, fun _ => List.not_mem_nil⟩
    · refine ⟨before, rest ++ [deed], by simp, fun present member => ?_⟩
      rcases List.mem_append.mp member with member | member
      · exact kept present member
      · exact other present (List.mem_singleton.mp member).symm

structure Accounts (record : List (Deed E L)) (r : Registry L) : Prop where
  holds : ∀ id listener, (id, listener) ∈ r.entries ↔ Remains record id listener
  tells : ∀ before id present after, record = before ++ .removed id present :: after →
    (present = true ↔ ∃ listener, Remains before id listener)
  tally : ∀ id, record.countP (Deed.takes id) + r.ids.count id = record.countP (Deed.registers id)
  once : ∀ id, record.countP (Deed.registers id) ≤ 1
  fresh : ∀ id, r.issued ≤ id → record.countP (Deed.registers id) = 0

namespace Accounts

variable {record : List (Deed E L)} {r : Registry L}

theorem nil : Accounts ([] : List (Deed E L)) .empty where
  holds id listener := by simp [Registry.empty, Remains]
  tells before id present after split := by simp at split
  tally id := rfl
  once id := Nat.zero_le _
  fresh id _ := rfl

theorem nodup_ids (accounts : Accounts record r) : r.ids.Nodup := by
  rw [List.nodup_iff_count_le_one]
  intro id
  have tally := accounts.tally id
  have once := accounts.once id
  omega

theorem mem_ids {r : Registry L} {id : Nat} :
    id ∈ r.ids ↔ ∃ listener, (id, listener) ∈ r.entries := by
  simp [Registry.ids]

theorem ids_remove (r : Registry L) (id : Nat) : (r.remove id).ids = r.ids.filter (· != id) := by
  rw [Registry.ids, Registry.ids, Registry.remove, List.filter_map]
  rfl

theorem of_perm (accounts : Accounts record r) {entries : List (Nat × L)}
    (perm : entries.Perm r.entries) : Accounts record { r with entries } where
  holds id listener := by rw [perm.mem_iff, accounts.holds]
  tells := accounts.tells
  tally id := by
    rw [← accounts.tally id, Registry.ids, (perm.map _).count_eq]
    rfl
  once := accounts.once
  fresh := accounts.fresh

theorem tells_snoc (accounts : Accounts record r) {deed : Deed E L}
    (last : ∀ id present, deed = .removed id present →
      (present = true ↔ ∃ listener, Remains record id listener))
    (before : List (Deed E L)) (id : Nat) (present : Bool) (after : List (Deed E L))
    (split : record ++ [deed] = before ++ .removed id present :: after) :
    present = true ↔ ∃ listener, Remains before id listener := by
  rcases snoc_eq_append_cons.mp split with ⟨-, rfl, same⟩ | ⟨rest, -, split⟩
  · exact last id present same.symm
  · exact accounts.tells before id present rest split

theorem called (accounts : Accounts record r) (id : Nat) (listener : L) (event : E) :
    Accounts (record ++ [.called id listener event]) r where
  holds other _ := by simp [accounts.holds, remains_snoc]
  tells := accounts.tells_snoc nofun
  tally other := by simpa [Deed.takes, Deed.registers] using accounts.tally other
  once other := by simpa [Deed.registers] using accounts.once other
  fresh other later := by simpa [Deed.registers] using accounts.fresh other later

theorem added (accounts : Accounts record r) (listener : L) :
    Accounts (record ++ [.added r.issued listener]) (r.add listener) where
  holds id other := by
    rw [remains_snoc, ← accounts.holds]
    simp [Registry.add, or_comm, eq_comm]
  tells := accounts.tells_snoc nofun
  tally id := by
    have tally := accounts.tally id
    by_cases same : r.issued = id
    · simp [Registry.ids, Registry.add, Deed.takes, Deed.registers, same] at tally ⊢
      omega
    · simpa [Registry.ids, Registry.add, Deed.takes, Deed.registers, same] using tally
  once id := by
    have once := accounts.once id
    by_cases same : r.issued = id
    · have fresh := accounts.fresh id (Nat.le_of_eq same)
      simp [Deed.registers, same, fresh]
    · simpa [Deed.registers, same] using once
  fresh id later := by
    have after : r.issued < id := later
    simp [Deed.registers, accounts.fresh id (Nat.le_of_lt after), Nat.ne_of_lt after]

theorem removed (accounts : Accounts record r) (id : Nat) :
    Accounts (record ++ [.removed id (r.contains id)]) (r.remove id) where
  holds other listener := by
    have differ : (∀ present, Deed.removed (E := E) (L := L) id (r.contains id) ≠
        .removed other present) ↔ other ≠ id := by
      simp [eq_comm]
    rw [remains_snoc, ← accounts.holds, differ]
    simp [Registry.remove]
  tells := by
    refine accounts.tells_snoc ?_
    rintro _ _ ⟨⟩
    simp only [Registry.contains, List.contains_iff_mem, mem_ids, accounts.holds]
  tally other := by
    have tally := accounts.tally other
    by_cases same : id = other
    · subst same
      have gone : (r.remove id).ids.count id = 0 :=
        List.count_eq_zero.mpr (by simp [ids_remove])
      -- who is registered is so once, so the removal takes all there is under the id
      have taken : r.ids.count id = if r.contains id = true then 1 else 0 := by
        simp [Registry.contains, accounts.nodup_ids.count]
      rw [List.countP_append, List.countP_append, gone, ← tally, taken]
      simp [Deed.takes, Deed.registers]
    · have kept : (r.remove id).ids.count other = r.ids.count other := by
        rw [ids_remove, List.count_filter]
        simpa using Ne.symm same
      simpa [Deed.takes, Deed.registers, kept, same] using tally
  once other := by simpa [Deed.registers] using accounts.once other
  fresh other later := by simpa [Deed.registers] using accounts.fresh other later

end Accounts

/-! ### Changes and emissions with their record -/

namespace Registry

def deed (r : Registry L) : Change L → Deed E L
  | .add listener => .added r.issued listener
  | .remove id => .removed id (r.contains id)

def deeds (r : Registry L) : List (Change L) → List (Deed E L)
  | [] => []
  | c :: cs => r.deed c :: deeds (r.change c) cs

theorem call?_deeds (r : Registry L) (changes : List (Change L)) :
    (r.deeds changes : List (Deed E L)).filterMap Deed.call? = [] := by
  induction changes generalizing r with
  | nil => rfl
  | cons c cs ih =>
    have silent : (r.deed c : Deed E L).call? = none := by cases c <;> rfl
    rw [deeds, List.filterMap_cons_none silent, ih]

abbrev Reaction (M L : Type) := M → Registry L → Nat × L → M × List (Change L)

/-- The same reaction, with the call and what comes of it put on record. -/
def recorded (event : E) (react : Reaction M L) : Reaction (M × List (Deed E L)) L :=
  fun (memory, record) current entry =>
    let (after, changes) := react memory current entry
    ((after, record ++ .called entry.1 entry.2 event :: current.deeds changes), changes)

def serve (react : Reaction M L) : M × Registry L → Nat × L → M × Registry L :=
  fun (memory, current) entry =>
    let (after, changes) := react memory current entry
    (after, changes.foldl change current)

def happenings (event : E) (react : Reaction M L) : M × Registry L → List (Nat × L) →
    List (Deed E L)
  | _, [] => []
  | (memory, current), entry :: rest =>
    .called entry.1 entry.2 event :: current.deeds (react memory current entry).2 ++
      happenings event react (serve react (memory, current) entry) rest

theorem emit_eq (react : Reaction M L) (memory : M) (r : Registry L) :
    r.emit react memory = r.entries.foldl (serve react) (memory, r) := rfl

structure Arrangement (L : Type) where
  order : List (Nat × L) → List (Nat × L)
  perm : ∀ entries, (order entries).Perm entries

def arranged (r : Registry L) (arrangement : Arrangement L) : Registry L :=
  { r with entries := arrangement.order r.entries }

end Registry

open Registry

theorem Accounts.change {record : List (Deed E L)} {r : Registry L} (accounts : Accounts record r)
    (c : Change L) : Accounts (record ++ [r.deed c]) (r.change c) := by
  cases c with
  | add listener => exact accounts.added listener
  | remove id => exact accounts.removed id

theorem Accounts.changes {record : List (Deed E L)} {r : Registry L} (accounts : Accounts record r)
    (changes : List (Change L)) :
    Accounts (record ++ r.deeds changes) (changes.foldl Registry.change r) := by
  induction changes generalizing record r with
  | nil => simpa [deeds] using accounts
  | cons c cs ih => simpa [deeds] using ih (accounts.change c)

theorem calls_happenings (event : E) (react : Reaction M L) (start : M × Registry L)
    (todo : List (Nat × L)) :
    (happenings event react start todo).filterMap Deed.call? =
      todo.map fun entry => (entry, event) := by
  induction todo generalizing start with
  | nil => rfl
  | cons entry rest ih =>
    have call : (Deed.called entry.1 entry.2 event).call? = some (entry, event) := rfl
    rw [happenings, List.cons_append, List.filterMap_cons_some call, List.filterMap_append,
      call?_deeds, ih, List.nil_append, List.map_cons]

theorem foldl_recorded (event : E) (react : Reaction M L) (memory : M) (record : List (Deed E L))
    (r : Registry L) (todo : List (Nat × L)) :
    todo.foldl (serve (recorded event react)) ((memory, record), r) =
      let (after, registry) := todo.foldl (serve react) (memory, r)
      ((after, record ++ happenings event react (memory, r) todo), registry) := by
  induction todo generalizing memory record r with
  | nil => simp [happenings]
  | cons entry rest ih =>
    have served : serve (recorded event react) ((memory, record), r) entry =
        (((serve react (memory, r) entry).1, record ++
          .called entry.1 entry.2 event :: r.deeds (react memory r entry).2),
            (serve react (memory, r) entry).2) := rfl
    rw [List.foldl_cons, List.foldl_cons, served, ih, happenings, List.append_assoc]

theorem Accounts.happenings {record : List (Deed E L)} {r : Registry L}
    (accounts : Accounts record r) (event : E) (react : Reaction M L) (memory : M)
    (todo : List (Nat × L)) :
    Accounts (record ++ Registry.happenings event react (memory, r) todo)
      (todo.foldl (serve react) (memory, r)).2 := by
  induction todo generalizing memory record r with
  | nil => simpa [Registry.happenings] using accounts
  | cons entry rest ih =>
    have served := (accounts.called entry.1 entry.2 event).changes (react memory r entry).2
    have onward := ih served (react memory r entry).1
    rw [List.append_assoc, List.append_assoc, List.singleton_append] at onward
    exact onward

/-- What is asked of a registry: a change, or that an event be emitted. In between the listeners may
be told something, such as the ids that they are registered under. -/
inductive Request (E L M : Type) where
  | change (c : Change L)
  | tell (news : M → M)
  | emit (event : E) (arrangement : Arrangement L)

structure Scene (E L M : Type) where
  memory : M
  registry : Registry L
  record : List (Deed E L)

namespace Scene

def step (react : E → Reaction M L) (s : Scene E L M) : Request E L M → Scene E L M
  | .change c =>
    { s with registry := s.registry.change c, record := s.record ++ [s.registry.deed c] }
  | .tell news => { s with memory := news s.memory }
  | .emit event arrangement =>
    let ((memory, record), registry) :=
      (s.registry.arranged arrangement).emit (recorded event (react event)) (s.memory, s.record)
    ⟨memory, registry, record⟩

def run (react : E → Reaction M L) (memory : M) (requests : List (Request E L M)) : Scene E L M :=
  requests.foldl (step react) ⟨memory, .empty, []⟩

variable {react : E → Reaction M L}

theorem step_emit (s : Scene E L M) (event : E) (arrangement : Arrangement L) :
    let r := s.registry.arranged arrangement
    let after := r.emit (react event) s.memory
    s.step react (.emit event arrangement) =
      ⟨after.1, after.2, s.record ++ happenings event (react event) (s.memory, r) r.entries⟩ := by
  intro r after
  rw [step, emit_eq, foldl_recorded]
  rfl

theorem step_accounts {s : Scene E L M} (accounts : Accounts s.record s.registry)
    (request : Request E L M) :
    Accounts (s.step react request).record (s.step react request).registry := by
  cases request with
  | change c => exact accounts.change c
  | tell news => exact accounts
  | emit event arrangement =>
    rw [step_emit]
    exact (accounts.of_perm (arrangement.perm _)).happenings event (react event) s.memory _

theorem run_accounts (react : E → Reaction M L) (memory : M) (requests : List (Request E L M)) :
    Accounts (run react memory requests).record (run react memory requests).registry := by
  have onward (s : Scene E L M) (accounts : Accounts s.record s.registry) :
      Accounts (requests.foldl (step react) s).record
        (requests.foldl (step react) s).registry := by
    induction requests generalizing s with
    | nil => exact accounts
    | cons request rest ih => exact ih _ (step_accounts accounts request)
  exact onward _ .nil

/-- An event reaches those who are registered when it arises, each of them once, and afterwards the
registry holds what was added and not removed, by whomever. -/
theorem emission_reaches_snapshot (react : E → Reaction M L) (memory : M)
    (requests : List (Request E L M))
    (event : E) (arrangement : Arrangement L) :
    let s := run react memory requests
    let t := s.step react (.emit event arrangement)
    (t.memory, t.registry) = (s.registry.arranged arrangement).emit (react event) s.memory ∧
    (∃ happened, t.record = s.record ++ happened ∧
      (happened.filterMap Deed.call?).Perm (s.registry.entries.map fun entry => (entry, event))) ∧
    s.registry.ids.Nodup ∧ Accounts s.record s.registry ∧ Accounts t.record t.registry := by
  intro s t
  have accounts : Accounts s.record s.registry := run_accounts react memory requests
  have emitted : t = _ := step_emit s event arrangement
  refine ⟨by rw [emitted], ⟨_, by rw [emitted], ?_⟩, accounts.nodup_ids, accounts, ?_⟩
  · rw [calls_happenings]
    exact (arrangement.perm _).map _
  · exact step_accounts accounts (.emit event arrangement)

/-- One listener removes itself when it is called, the other adds a third. -/
example :
    let g := ((Gallery.empty.add ⟨"a", .removes "a"⟩).add ⟨"b", .adds "c"⟩).emit 7
    g.heard = [("b", 7), ("a", 7)] ∧ g.registry.ids = [1, 2] := by
  decide

end Scene
end LeaseKeeper.Listeners
