import LeaseKeeper.Proofs.Keeper.Steps

/-!
A stopped keeper holds nothing, and no step that finds it stopped gives it anything, whatever store
calls were under way when it stopped. A line that is out of use is blank and stays so, since an
answer or a timer changes a line only through its slot; stopping makes the other lines blank too.
-/
namespace LeaseKeeper

namespace Lineage

/-- No lease and no timer. Numbers may have been handed out, and timers cancelled. -/
structure Blank (l : Lineage) : Prop where
  slot : l.slot = none
  timers : l.timers = []

theorem blank_new : new.Blank := ⟨rfl, rfl⟩

theorem blank_disable (l : Lineage) : l.disable.1.Blank := ⟨rfl, rfl⟩

theorem Blank.unregister {l : Lineage} (blank : l.Blank) (g : Nat) : (l.unregister g).Blank :=
  ⟨blank.slot, by simp [Lineage.unregister, blank.timers]⟩

theorem Ending.of_empty {l : Lineage} {strategy : Strategy} {floor threshold now g : Nat}
    {reschedule : Lease → Bool} {result : Except Fault Lease} {after : Lineage} {next : Next}
    (ending : Ending l strategy floor threshold now g reschedule result after next)
    (empty : l.slot = none) : after = l ∧ next = .stop := by
  cases ending with
  | stale => exact ⟨rfl, rfl⟩
  | forgotten next held _ before => simp [empty] at before
  | dropped fault held _ before => simp [empty] at before
  | renewed next held deadline _ _ before => simp [empty] at before
  | rested next held deadline _ _ before => simp [empty] at before
  | retained fault held retryAt _ before => simp [empty] at before
  | exhausted fault held retryAt _ before => simp [empty] at before
  | outlasted next held _ before => simp [empty] at before
  | overran fault held _ before => simp [empty] at before

end Lineage

open Lineage

namespace Room

def Blank (r : Room) : Prop :=
  ∀ (number : Nat) (line : Line), r.lines[number]? = some line → line.lineage.Blank

/-- Every line but the one in use is blank. -/
def Retired (r : Room) : Prop :=
  ∀ (number : Nat) (line : Line), r.lines[number]? = some line →
    r.lineNumber? ≠ some number → line.lineage.Blank

variable {r : Room}

theorem Blank.retired (blank : r.Blank) : r.Retired := fun number line found _ =>
  blank number line found

theorem Blank.of_lines (blank : r.Blank) {other : Room} (lines : other.lines = r.lines) :
    other.Blank := by
  intro number line found
  exact blank number line (lines ▸ found)

theorem Retired.of_lines (retired : r.Retired) {other : Room} (lines : other.lines = r.lines)
    (registered : other.registered = r.registered) : other.Retired := by
  intro number line found unused
  apply retired number line (lines ▸ found)
  simpa [lineNumber?, lines, registered] using unused

theorem Blank.setLine (blank : r.Blank) (number : Nat) {line : Line}
    (fresh : line.lineage.Blank) : (r.setLine number line).Blank := by
  intro other found_line found
  rw [setLine_lines] at found
  split at found
  · obtain ⟨_, _, rfl⟩ := Option.map_eq_some_iff.mp found
    exact fresh
  · exact blank other found_line found

theorem Retired.setLine (retired : r.Retired) {number : Nat} {line : Line}
    (kept : r.lineNumber? = some number ∨ line.lineage.Blank) :
    (r.setLine number line).Retired := by
  intro other found_line found unused
  rw [setLine_lineNumber?] at unused
  rw [setLine_lines] at found
  split at found
  · rename_i same
    obtain ⟨_, _, rfl⟩ := Option.map_eq_some_iff.mp found
    exact kept.resolve_left (same ▸ unused)
  · exact retired other found_line found unused

theorem Retired.vacated (retired : r.Retired) : r.vacated.Blank := by
  intro number line found
  cases used : r.line? with
  | none =>
    rw [vacated_of_no_line used] at found
    apply retired number line found
    intro numbered
    rw [line?_of_number numbered, found] at used
    cases used
  | some current =>
    obtain ⟨own, numbered, present⟩ := line?_eq_some used
    rw [vacated_of_line numbered present, setLine_lines] at found
    split at found
    · obtain ⟨_, _, rfl⟩ := Option.map_eq_some_iff.mp found
      exact blank_disable _
    · rename_i differ
      apply retired number line found
      simpa [numbered] using differ

theorem Retired.open (retired : r.Retired) (unregistered : r.registered = false) :
    ({ r with lines := r.lines ++ [⟨.new, []⟩], registered := true } : Room).Blank := by
  intro number line found
  rcases List.mem_append.mp (List.mem_of_getElem? found) with old | fresh
  · obtain ⟨place, present⟩ := List.getElem?_of_mem old
    exact retired place line present (by simp [lineNumber?, unregistered])
  · obtain rfl := List.mem_singleton.mp fresh
    exact blank_new

def issued (r : Room) (number : Nat) : Nat :=
  (r.lines[number]?.map (·.lineage.issued)).getD 0

theorem issued_of_lines {other : Room} (lines : other.lines = r.lines) (number : Nat) :
    other.issued number = r.issued number := by
  simp [issued, lines]

theorem issued_setLine {number : Nat} {old line : Line} (found : r.lines[number]? = some old)
    (same : line.lineage.issued = old.lineage.issued) (other : Nat) :
    (r.setLine number line).issued other = r.issued other := by
  simp only [issued, setLine_lines]
  split
  · rename_i here
    subst here
    simp [found, same]
  · rfl

theorem issued_vacated (number : Nat) : r.vacated.issued number = r.issued number := by
  cases used : r.line? with
  | none => rw [vacated_of_no_line used]
  | some line =>
    obtain ⟨own, numbered, found⟩ := line?_eq_some used
    rw [vacated_of_line numbered found]
    refine issued_setLine found ?_ number
    rfl

theorem issued_open (number : Nat) :
    ({ r with lines := r.lines ++ [⟨.new, []⟩], registered := true } : Room).issued number =
      r.issued number := by
  rcases Nat.lt_trichotomy number r.lines.length with below | same | above
  · simp [issued, List.getElem?_append_left below]
  · simp [issued, same, Lineage.new]
  · have outside : (r.lines ++ [⟨.new, []⟩])[number]? = none := by
      simpa using Nat.succ_le_of_lt above
    simp [issued, outside, List.getElem?_eq_none (Nat.le_of_lt above)]

end Room

def Entry.isInstallation : Entry → Bool
  | .armed _ _ _ _ => true
  | .event (.created _ _ _) => true
  | _ => false

theorem Entry.not_installation_of_aside {entry : Entry} (plain : entry.isAside = true) :
    entry.isInstallation = false := by
  unfold isAside at plain
  unfold isInstallation
  split <;> simp_all

namespace Keeper

structure Rested (k : Keeper) : Prop where
  retired : ∀ secret, (k.room secret).Retired
  blank : k.started = false → ∀ secret, (k.room secret).Blank
  data : k.started = false → ∀ secret, (k.room secret).data = none

theorem rested_new (policy : LeasePolicy) : (new policy).Rested := by
  have empty (secret : Secret) : (new policy).room secret = .empty := rfl
  have blank : Room.empty.Blank := by simp [Room.Blank, Room.empty]
  refine ⟨?_, ?_, ?_⟩
  · intro secret
    exact empty secret ▸ blank.retired
  · intro _ secret
    exact empty secret ▸ blank
  · intro _ secret
    exact rfl

variable {k k' : Keeper}

theorem Rested.of_rooms (rested : k.Rested) (rooms : k'.rooms = k.rooms)
    (started : k'.started = false → k.started = false) : k'.Rested := by
  refine ⟨?_, ?_, ?_⟩
  · intro secret
    exact room_of_rooms rooms secret ▸ rested.retired secret
  · intro stopped secret
    exact room_of_rooms rooms secret ▸ rested.blank (started stopped) secret
  · intro stopped secret
    exact room_of_rooms rooms secret ▸ rested.data (started stopped) secret

theorem Rested.note (rested : k.Rested) (entry : Entry) : (k.note entry).Rested :=
  rested.of_rooms rfl id

theorem Rested.setRoom (rested : k.Rested) {secret : Secret} {room : Room}
    (retired : room.Retired) (blank : k.started = false → room.Blank)
    (data : k.started = false → room.data = none) : (k.setRoom secret room).Rested := by
  refine ⟨?_, ?_, ?_⟩
  · exact forall_setRoom (P := fun _ room => room.Retired) retired rested.retired
  · intro stopped
    exact forall_setRoom (P := fun _ room => room.Blank) (blank stopped) (rested.blank stopped)
  · intro stopped
    exact forall_setRoom (P := fun _ room => room.data = none) (data stopped) (rested.data stopped)

theorem Rested.keepLines (rested : k.Rested) {secret : Secret} {room : Room}
    (lines : room.lines = (k.room secret).lines)
    (registered : room.registered = (k.room secret).registered)
    (data : k.started = false → room.data = none) : (k.setRoom secret room).Rested := by
  have retired : room.Retired := (rested.retired secret).of_lines lines registered
  apply rested.setRoom retired ?_ data
  intro stopped
  exact (rested.blank stopped secret).of_lines lines

theorem Rested.setLine (rested : k.Rested) {secret : Secret} {number : Nat} {old line : Line}
    (found : (k.room secret).lines[number]? = some old)
    (kept : old.lineage.Blank → line.lineage.Blank) :
    (k.setRoom secret ((k.room secret).setLine number line)).Rested := by
  refine rested.setRoom ((rested.retired secret).setLine ?_) ?_ (rested.data · secret)
  · by_cases used : (k.room secret).lineNumber? = some number
    · exact Or.inl used
    · exact Or.inr (kept (rested.retired secret number old found used))
  · intro stopped
    have blank := rested.blank stopped secret
    exact blank.setLine number (kept (blank number old found))

theorem Rested.setCurrent (rested : k.Rested) {secret : Secret} {number : Nat} (line : Line)
    (started : k.started = true) (numbered : (k.room secret).lineNumber? = some number) :
    (k.setRoom secret ((k.room secret).setLine number line)).Rested :=
  rested.setRoom ((rested.retired secret).setLine (Or.inl numbered)) (by simp [started])
    (by simp [started])

theorem rested_of_vacated (rested : k.Rested)
    (rooms : ∀ secret, k'.room secret = { (k.room secret).vacated with data := none }) :
    k'.Rested := by
  have blank (secret : Secret) : (k'.room secret).Blank := by
    rw [rooms]
    exact (rested.retired secret).vacated.of_lines rfl
  refine ⟨fun secret => (blank secret).retired, fun _ => blank, ?_⟩
  intro _ secret
  rw [rooms]

theorem Move.rested {live : Prop} (move : Move live k k') (rested : k.Rested) : k'.Rested := by
  have current (secret : Secret) := rested.retired secret
  cases move with
  | aside k' aside => exact rested.of_rooms aside.rooms (aside.started ▸ ·)
  | called secret purpose errand =>
    have flying : (k.setRoom secret ((k.room secret).board purpose errand)).Rested :=
      rested.keepLines rfl rfl (rested.data · secret)
    exact flying.note _
  | promised secret ticket => exact rested.keepLines rfl rfl (rested.data · secret)
  | asked secret ticket =>
    have turned : (k.setRoom secret ((k.room secret).ask ticket)).Rested :=
      rested.keepLines rfl rfl (rested.data · secret)
    exact turned.note _
  | landed secret purpose => exact rested.keepLines rfl rfl (rested.data · secret)
  | crashed ticket =>
    refine ⟨?_, ?_, ?_⟩
    · intro secret
      exact room_dropTicket k secret ticket ▸ (current secret).of_lines rfl rfl
    · intro stopped secret
      exact room_dropTicket k secret ticket ▸ (rested.blank stopped secret).of_lines rfl
    · intro stopped secret
      exact room_dropTicket k secret ticket ▸ rested.data stopped secret
  | passed => exact rested.of_rooms rfl id
  | disowned => exact rested.of_rooms rfl id
  | opened secret absent =>
    have blank := (current secret).open absent
    exact rested.setRoom blank.retired (fun _ => blank) (rested.data · secret)
  | forgotten secret present =>
    have blank : Room.Blank { (k.room secret).vacated with registered := false, data := none } :=
      (current secret).vacated.of_lines rfl
    exact rested.setRoom blank.retired (fun _ => blank) (fun _ => rfl)
  | begun idle => exact ⟨current, by simp, by simp⟩
  | emptied k' stopped rooms => exact rested_of_vacated rested rooms
  | published secret lease data running started =>
    have stored : (k.setRoom secret { k.room secret with data := some data }).Rested :=
      rested.keepLines rfl rfl (by simp [started])
    have told := emit_tells (k.setRoom secret { k.room secret with data := some data })
      (.created secret lease data)
    exact (stored.note _).of_rooms told.rooms (told.started ▸ ·)
  | expired secret => exact rested.keepLines rfl rfl (fun _ => rfl)
  | installed secret lease number line deadline running started schedulable numbered =>
    exact (rested.setCurrent _ started numbered).note _
  | outlasted secret lease number line running started numbered =>
    exact rested.setCurrent _ started numbered
  | disabled secret lease number line running started unschedulable numbered =>
    exact rested.setCurrent _ started numbered
  | claimed secret number generation due line held found waiting ripe before =>
    apply rested.setLine found
    intro blank
    simp [blank.slot] at before
  | missed secret number generation due line found =>
    exact rested.setLine found fun blank => blank.unregister generation
  | noticed secret number generation line found => exact rested.setLine found id
  | resumed secret number generation next delay line result after found ending =>
    have stepped : (k.setRoom secret ((k.room secret).setLine number
        ⟨after, line.waits ++ [(next, k.now + delay)]⟩)).Rested := by
      apply rested.setLine found
      intro blank
      exact (ending.of_empty blank.slot).1 ▸ blank
    exact stepped.note _
  | concluded secret number generation line result after next found ending =>
    apply rested.setLine found
    intro blank
    exact (ending.of_empty blank.slot).1 ▸ blank

theorem run_rested (policy : LeasePolicy) (events : List KeeperEvent) :
    ((new policy).run events).Rested :=
  run_keep (fun k event => (step_moves k event).keep fun _ _ move => move.rested)
    (rested_new policy) events

/-! ### What a step can do that finds the keeper stopped -/

/-- Every line is blank. Since `past` no line has handed out a generation, no timer was armed and
no data was published. -/
structure Quiet (past k : Keeper) : Prop where
  blank : ∀ secret, (k.room secret).Blank
  issued : ∀ secret number, (k.room secret).issued number = (past.room secret).issued number
  journal : ∃ fresh, k.journal = fresh ++ past.journal ∧
    ∀ entry ∈ fresh, entry.2.isInstallation = false

variable {past : Keeper}

theorem quiet_self (blank : ∀ secret, (k.room secret).Blank) : Quiet k k :=
  ⟨blank, fun _ _ => rfl, [], rfl, by simp⟩

theorem Quiet.setRoom (quiet : Quiet past k) {secret : Secret} {room : Room} (blank : room.Blank)
    (issued : ∀ number, room.issued number = (k.room secret).issued number) :
    Quiet past (k.setRoom secret room) := by
  have same (number : Nat) : room.issued number = (past.room secret).issued number :=
    (issued number).trans (quiet.issued secret number)
  refine ⟨?_, ?_, quiet.journal⟩
  · exact forall_setRoom (P := fun _ room => room.Blank) blank quiet.blank
  · exact forall_setRoom (P := fun other room =>
      ∀ number, room.issued number = (past.room other).issued number) same quiet.issued

theorem Quiet.setLine (quiet : Quiet past k) {secret : Secret} {number : Nat} {old line : Line}
    (found : (k.room secret).lines[number]? = some old)
    (kept : old.lineage.Blank → line.lineage.Blank)
    (same : line.lineage.issued = old.lineage.issued) :
    Quiet past (k.setRoom secret ((k.room secret).setLine number line)) :=
  quiet.setRoom ((quiet.blank secret).setLine number (kept (quiet.blank secret number old found)))
    (Room.issued_setLine found same)

theorem Quiet.extend (quiet : Quiet past k) (rooms : k'.rooms = k.rooms)
    (journal : ∃ fresh, k'.journal = fresh ++ k.journal ∧
      ∀ entry ∈ fresh, entry.2.isInstallation = false) : Quiet past k' := by
  obtain ⟨early, before, quiet_early⟩ := quiet.journal
  obtain ⟨late, after, quiet_late⟩ := journal
  refine ⟨fun secret => room_of_rooms rooms secret ▸ quiet.blank secret,
    fun secret => room_of_rooms rooms secret ▸ quiet.issued secret, late ++ early, ?_, ?_⟩
  · rw [after, before, List.append_assoc]
  · intro entry member
    rcases List.mem_append.mp member with new | old
    · exact quiet_late entry new
    · exact quiet_early entry old

theorem Move.quiet (move : Move False k k') (quiet : Quiet past k) : Quiet past k' := by
  have kept {secret : Secret} {room : Room} (lines : room.lines = (k.room secret).lines) :
      Quiet past (k.setRoom secret room) :=
    quiet.setRoom ((quiet.blank secret).of_lines lines) (Room.issued_of_lines lines)
  have blank (secret : Secret) : (k.room secret).vacated.Blank :=
    (quiet.blank secret).retired.vacated
  cases move with
  | aside k' aside =>
    obtain ⟨fresh, journal, plain⟩ := aside.journal
    exact quiet.extend aside.rooms ⟨fresh, journal,
      fun entry member => Entry.not_installation_of_aside (plain entry member)⟩
  | called secret purpose errand =>
    have flying : Quiet past (k.setRoom secret ((k.room secret).board purpose errand)) := kept rfl
    exact flying.extend rfl ⟨[(k.now, .call secret purpose errand)], rfl, by
      simp [Entry.isInstallation]⟩
  | promised secret ticket => exact kept rfl
  | asked secret ticket =>
    have turned : Quiet past (k.setRoom secret ((k.room secret).ask ticket)) := kept rfl
    exact turned.extend rfl ⟨[(k.now, .call secret (.start ticket) .fetch)], rfl, by
      simp [Entry.isInstallation]⟩
  | landed secret purpose => exact kept rfl
  | crashed ticket =>
    refine ⟨?_, ?_, quiet.journal⟩
    · intro secret
      exact room_dropTicket k secret ticket ▸ (quiet.blank secret).of_lines rfl
    · intro secret
      exact room_dropTicket k secret ticket ▸ quiet.issued secret
  | passed => exact ⟨quiet.blank, quiet.issued, quiet.journal⟩
  | disowned => exact ⟨quiet.blank, quiet.issued, quiet.journal⟩
  | opened secret absent =>
    exact quiet.setRoom ((quiet.blank secret).retired.open absent) Room.issued_open
  | forgotten secret present =>
    exact quiet.setRoom ((blank secret).of_lines rfl) Room.issued_vacated
  | begun idle => exact ⟨quiet.blank, quiet.issued, quiet.journal⟩
  | emptied k' stopped rooms policy now owned journal =>
    refine ⟨?_, ?_, journal ▸ quiet.journal⟩
    · intro secret
      exact rooms secret ▸ (blank secret).of_lines rfl
    · intro secret number
      rw [rooms]
      exact (Room.issued_vacated number).trans (quiet.issued secret number)
  | published secret lease data running => exact running.elim
  | expired secret => exact kept rfl
  | installed secret lease number line deadline running => exact running.elim
  | outlasted secret lease number line running => exact running.elim
  | disabled secret lease number line running => exact running.elim
  | claimed secret number generation due line held found waiting ripe before =>
    simp [(quiet.blank secret number line found).slot] at before
  | missed secret number generation due line found =>
    exact quiet.setLine found (fun blank => blank.unregister generation) rfl
  | noticed secret number generation line found => exact quiet.setLine found id rfl
  | resumed secret number generation next delay line result after found ending =>
    cases (ending.of_empty (quiet.blank secret number line found).slot).2
  | concluded secret number generation line result after next found ending =>
    obtain ⟨rfl, _⟩ := ending.of_empty (quiet.blank secret number line found).slot
    exact quiet.setLine found id rfl

structure Empty (k : Keeper) : Prop where
  slot : ∀ secret line, (k.room secret).line? = some line → line.lineage.slot = none
  pending : ∀ secret line, (k.room secret).line? = some line → line.lineage.pending = 0
  data : ∀ secret, k.data secret = none

theorem Rested.empty (rested : k.Rested) (stopped : k.started = false) : k.Empty := by
  have blank (secret : Secret) (line : Line) (used : (k.room secret).line? = some line) :
      line.lineage.Blank := by
    obtain ⟨number, _, found⟩ := Room.line?_eq_some used
    exact rested.blank stopped secret number line found
  refine ⟨fun secret line used => (blank secret line used).slot, ?_, rested.data stopped⟩
  intro secret line used
  simp [pending, (blank secret line used).timers]

/-- In every run, a keeper that is stopped holds neither a lease, a timer nor data, and whatever the
next step is, and whatever store call it ends, it installs and publishes nothing. -/
theorem stopped_holds_nothing (policy : LeasePolicy) (events : List KeeperEvent)
    (stopped : ((new policy).run events).started = false) :
    ((new policy).run events).Empty ∧
      ∀ event, Quiet ((new policy).run events) (((new policy).run events).step event) := by
  have rested := run_rested policy events
  refine ⟨rested.empty stopped, ?_⟩
  intro event
  have moves := step_moves ((new policy).run events) event
  rw [stopped, Bool.false_eq_true] at moves
  exact moves.keep (fun _ _ move => move.quiet) (quiet_self (rested.blank stopped))

/-- The answer to a rotation that was under way when the keeper stopped. -/
theorem stopped_during_rotation :
    let secret : Secret := ⟨"database/creds/app", .rotate⟩
    let response : Response := ⟨"", "a", 60, true, none, none, none⟩
    let k := (new .default).run [.request 1 (.add secret), .request 2 .start, .ask secret 2,
      .answer secret (.start 2) (.fetched (.ok response)), .request 3 (.rotate secret),
      .request 4 .destroy]
    k.started = false ∧ k.hasTicket 3 = true ∧ k.Empty ∧
      Quiet k (k.step (.answer secret (.rotate 3) (.fetched (.ok response)))) := by
  intro secret response k
  have stopped : k.started = false := by decide
  have holds := stopped_holds_nothing .default _ stopped
  exact ⟨stopped, by decide, holds.1, holds.2 _⟩

end Keeper
end LeaseKeeper
