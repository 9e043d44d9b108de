import LeaseKeeper.Proofs.Keeper.Stopped

/-!
Who acts for the timer of a line. Store calls may be under way for lines and generations long gone,
and their answers come at any time; what such a call may still rely on is that the slot, if it is
under the call's own generation, holds the lease that the call was made for.
-/
namespace LeaseKeeper

open Lineage

def Errand.Meets : Errand → Lease → Prop
  | .fetch, _ => True
  | .renew lease, current => current = lease
  | .revoke _ _, _ => False

namespace Room

/-- Lines are added at the end and otherwise only go on. -/
def Onward (r r' : Room) : Prop :=
  ∀ number : Nat, match r.lines[number]?, r'.lines[number]? with
    | some line, some line' => line.lineage.Onward line'.lineage
    | some _, none => False
    | none, some line' => line'.lineage.Numbered
    | none, none => True

variable {r r' : Room}

theorem Onward.of_lines (lines : r'.lines = r.lines) : r.Onward r' := by
  intro number
  rw [lines]
  cases r.lines[number]? with
  | none => trivial
  | some line => exact .refl _

theorem Onward.setLine {number : Nat} {old line : Line} (found : r.lines[number]? = some old)
    (onward : old.lineage.Onward line.lineage) : r.Onward (r.setLine number line) := by
  intro other
  rw [setLine_lines]
  by_cases same : number = other
  · subst same
    simpa [found] using onward
  · simp only [same, if_false]
    cases r.lines[other]? with
    | none => trivial
    | some line => exact .refl _

theorem Onward.open : r.Onward { r with lines := r.lines ++ [⟨.new, []⟩], registered := true } := by
  intro number
  rcases Nat.lt_trichotomy number r.lines.length with below | same | above
  · rw [List.getElem?_append_left below, List.getElem?_eq_getElem below]
    exact .refl _
  · simpa [same] using numbered_new
  · have outside : (r.lines ++ [⟨.new, []⟩])[number]? = none := by
      simpa using Nat.succ_le_of_lt above
    simp [outside, List.getElem?_eq_none (Nat.le_of_lt above)]

theorem Onward.vacated : r.Onward r.vacated := by
  cases used : r.line? with
  | none => exact .of_lines (by rw [vacated_of_no_line used])
  | some line =>
    obtain ⟨number, numbered, found⟩ := line?_eq_some used
    rw [vacated_of_line numbered found]
    exact .setLine found (.disable _)

end Room

namespace Keeper

def Onward (k k' : Keeper) : Prop := ∀ secret, (k.room secret).Onward (k'.room secret)

def Numbered (k : Keeper) : Prop :=
  ∀ secret (number : Nat) (line : Line), (k.room secret).lines[number]? = some line →
    line.lineage.Numbered

variable {live : Prop} {k k' k'' : Keeper}

namespace Onward

theorem of_rooms (rooms : k'.rooms = k.rooms) : Onward k k' :=
  fun secret => .of_lines (by rw [room_of_rooms rooms])

theorem setRoom {secret : Secret} {room : Room} (here : (k.room secret).Onward room) :
    Onward k (k.setRoom secret room) :=
  forall_setRoom (P := fun other room => (k.room other).Onward room) here
    fun _ => .of_lines rfl

theorem line (onward : Onward k k') {secret : Secret} {number : Nat} {line : Line}
    (found : (k.room secret).lines[number]? = some line) :
    ∃ line', (k'.room secret).lines[number]? = some line' ∧
      line.lineage.Onward line'.lineage := by
  have here := onward secret number
  rw [found] at here
  cases after : (k'.room secret).lines[number]? with
  | none => simp [after] at here
  | some line' => exact ⟨line', rfl, by simpa [after] using here⟩

theorem numbered (onward : Onward k k') (numbered : k.Numbered) : k'.Numbered := by
  intro secret number line' found'
  have here := onward secret number
  rw [found'] at here
  cases found : (k.room secret).lines[number]? with
  | none => simpa [found] using here
  | some line =>
    rw [found] at here
    exact here.numbered (numbered secret number line found)

theorem trans (first : Onward k k') (second : Onward k' k'') : Onward k k'' := by
  intro secret number
  have before := first secret number
  have after := second secret number
  cases found : (k.room secret).lines[number]? with
  | some line =>
    obtain ⟨line', found', onward⟩ := first.line found
    obtain ⟨line'', found'', onward'⟩ := second.line found'
    rw [found'']
    exact onward.trans onward'
  | none =>
    rw [found] at before
    cases found'' : (k''.room secret).lines[number]? with
    | none => trivial
    | some line'' =>
      rw [found''] at after
      cases found' : (k'.room secret).lines[number]? with
      | none => simpa [found'] using after
      | some line' =>
        rw [found'] at before after
        exact after.numbered before

end Onward

theorem Move.onward (move : Move live k k') : Onward k k' := by
  cases move with
  | aside k' aside => exact .of_rooms aside.rooms
  | called secret purpose errand =>
    have boarded : Onward k (k.setRoom secret ((k.room secret).board purpose errand)) :=
      .setRoom (.of_lines rfl)
    exact boarded.trans (.of_rooms rfl)
  | promised secret ticket => exact .setRoom (.of_lines rfl)
  | asked secret ticket =>
    have turned : Onward k (k.setRoom secret ((k.room secret).ask ticket)) :=
      .setRoom (.of_lines rfl)
    exact turned.trans (.of_rooms rfl)
  | landed secret purpose => exact .setRoom (.of_lines rfl)
  | crashed ticket =>
    intro secret
    rw [room_dropTicket]
    exact .of_lines rfl
  | passed => exact .of_rooms rfl
  | disowned => exact .of_rooms rfl
  | opened secret => exact .setRoom .open
  | forgotten secret => exact .setRoom .vacated
  | begun => exact .of_rooms rfl
  | emptied k' stopped rooms =>
    intro secret
    rw [rooms]
    exact .vacated
  | published secret lease data =>
    have stored : Onward k (k.setRoom secret { k.room secret with data := some data }) :=
      .setRoom (.of_lines rfl)
    exact stored.trans (.of_rooms (emit_tells _ _).rooms)
  | expired secret => exact .setRoom (.of_lines rfl)
  | installed secret lease number line deadline running started schedulable numbered found =>
    exact Onward.trans (.setRoom (.setLine found (.replaced _ lease deadline))) (.of_rooms rfl)
  | outlasted secret lease number line running started numbered found =>
    exact .setRoom (.setLine found (.issue _ true))
  | disabled secret lease number line running started unschedulable numbered found =>
    exact .setRoom (.setLine found (.disable _))
  | claimed secret number generation due line held found waiting ripe before =>
    exact .setRoom (.setLine found (.claim before generation))
  | missed secret number generation due line found =>
    exact .setRoom (.setLine found (.unregister _ generation))
  | noticed secret number generation line found => exact .setRoom (.setLine found (.refl _))
  | resumed secret number generation next delay line result after found ending =>
    exact Onward.trans (.setRoom (.setLine found (.ending ending))) (.of_rooms rfl)
  | concluded secret number generation line result after next found ending =>
    exact .setRoom (.setLine found (.ending ending))

theorem Moves.onward (moves : Moves live k k') : Onward k k' :=
  moves.keep (fun _ _ move onward => onward.trans move.onward) (.of_rooms rfl)

/-! ### Store calls -/

/-- Whoever waits for its turn is in line. -/
def Queued (k : Keeper) : Prop :=
  ∀ secret, ∀ ticket ∈ (k.room secret).unasked,
    ∃ flight ∈ (k.room secret).flights, flight.purpose = .start ticket

namespace Queued

theorem of_rooms (queued : k.Queued) (rooms : k'.rooms = k.rooms) : k'.Queued := by
  intro secret
  rw [room_of_rooms rooms]
  exact queued secret

theorem setRoom (queued : k.Queued) {secret : Secret} {room : Room}
    (here : ∀ ticket ∈ room.unasked, ∃ flight ∈ room.flights, flight.purpose = .start ticket) :
    (k.setRoom secret room).Queued :=
  forall_setRoom (P := fun _ room => ∀ ticket ∈ room.unasked,
    ∃ flight ∈ room.flights, flight.purpose = .start ticket) here fun other => queued other

/-- No flight of a start is in line, so none waits for its turn. -/
theorem not_waiting (queued : k.Queued) {secret : Secret} {ticket : Nat}
    (absent : ∀ flight ∈ (k.room secret).flights, flight.purpose ≠ .start ticket) :
    (k.room secret).unasked.contains ticket = false := by
  apply Bool.eq_false_iff.mpr
  intro waiting
  obtain ⟨flight, flying, own⟩ := queued secret ticket (List.contains_iff_mem.mp waiting)
  exact absent flight flying own

end Queued

theorem Move.queued (move : Move live k k') (queued : k.Queued) : k'.Queued := by
  have still (secret : Secret) {flights : List Flight} (kept : ∀ ticket ∈ (k.room secret).unasked,
      ∀ flight ∈ (k.room secret).flights, flight.purpose = .start ticket → flight ∈ flights) :
      ∀ ticket ∈ (k.room secret).unasked, ∃ flight ∈ flights, flight.purpose = .start ticket := by
    intro ticket waits
    obtain ⟨flight, flying, own⟩ := queued secret ticket waits
    exact ⟨flight, kept ticket waits flight flying own, own⟩
  cases move with
  | aside k' aside => exact queued.of_rooms aside.rooms
  | called secret =>
    exact queued.setRoom (still secret fun _ _ _ flying _ => List.mem_append_left _ flying)
  | promised secret ticket =>
    refine queued.setRoom fun other waits => ?_
    rcases List.mem_append.mp waits with old | fresh
    · exact still secret (fun _ _ _ flying _ => List.mem_append_left _ flying) other old
    · obtain rfl := List.mem_singleton.mp fresh
      exact ⟨_, List.mem_append_right _ List.mem_cons_self, rfl⟩
  | asked secret =>
    exact queued.setRoom fun other waits => queued secret other (List.mem_filter.mp waits).1
  | landed secret purpose prompt =>
    -- what has landed had its turn before
    refine queued.setRoom (still secret fun ticket waits flight flying own => ?_)
    refine List.mem_filter.mpr ⟨flying, bne_iff_ne.mpr ?_⟩
    rintro rfl
    rw [own, Room.awaitsTurn, List.contains_iff_mem.mpr waits] at prompt
    cases prompt
  | crashed ticket =>
    intro secret other waits
    rw [room_dropTicket] at waits ⊢
    obtain ⟨old, differ⟩ := List.mem_filter.mp waits
    obtain ⟨flight, flying, own⟩ := queued secret other old
    refine ⟨flight, List.mem_filter.mpr ⟨flying, ?_⟩, own⟩
    simpa [own, Purpose.ticket?] using differ
  | passed => exact queued.of_rooms rfl
  | disowned => exact queued.of_rooms rfl
  | opened secret => exact queued.setRoom (queued secret)
  | forgotten secret =>
    refine queued.setRoom ?_
    dsimp only
    rw [Room.vacated_unasked, Room.vacated_flights]
    exact queued secret
  | begun => exact queued.of_rooms rfl
  | emptied k' stopped rooms =>
    intro secret
    rw [rooms]
    dsimp only
    rw [Room.vacated_unasked, Room.vacated_flights]
    exact queued secret
  | published secret lease data =>
    have stored : (k.setRoom secret { k.room secret with data := some data }).Queued :=
      queued.setRoom (queued secret)
    exact stored.of_rooms (emit_tells _ _).rooms
  | installed secret => exact queued.setRoom (queued secret)
  | resumed secret => exact queued.setRoom (queued secret)
  | expired secret => exact queued.setRoom (queued secret)
  | outlasted secret => exact queued.setRoom (queued secret)
  | disabled secret => exact queued.setRoom (queued secret)
  | claimed secret => exact queued.setRoom (queued secret)
  | missed secret => exact queued.setRoom (queued secret)
  | noticed secret => exact queued.setRoom (queued secret)
  | concluded secret => exact queued.setRoom (queued secret)

theorem step_queued (queued : k.Queued) (event : KeeperEvent) : (k.step event).Queued :=
  (step_moves k event).keep (fun _ _ move => move.queued) queued

theorem run_queued (policy : LeasePolicy) (events : List KeeperEvent) :
    ((new policy).run events).Queued := by
  have fresh : (new policy).Queued := by
    intro secret ticket waits
    cases waits
  exact run_keep (P := Queued) (fun _ event queued => step_queued queued event) fresh events

inductive Hand.Asks : Hand → Secret → Flight → Prop where
  | rotation (secret : Secret) (ticket : Nat) : Asks .busy secret ⟨.rotate ticket, .fetch⟩
  | fetch (secret : Secret) (purpose : Purpose) (rest : List Secret)
      (own : purpose.isFetch = true) :
      Asks (.owing purpose (secret :: rest)) secret ⟨purpose, .fetch⟩
  | refetch (secret : Secret) (purpose : Purpose) (lease next : Lease) :
      Asks (.renewed secret purpose lease next) secret ⟨purpose, .fetch⟩
  | pursuit (secret : Secret) (number generation : Nat) (lease : Lease) (errand : Errand)
      (kind : errand = .fetch ∨ errand = .renew lease) :
      Asks (.claimed secret number generation lease) secret ⟨.timer number generation, errand⟩
  | revocation (secret : Secret) (purpose : Purpose) (lease : Lease)
      (result : Except Fault Lease) :
      Asks (.loose secret purpose lease result) secret ⟨purpose, .revoke lease result⟩
  | spill (secret : Secret) (ticket : Nat) (lease : Lease) (rest : List (Secret × Lease)) :
      Asks (.spilled ticket ((secret, lease) :: rest)) secret
        ⟨.destroy ticket, .revoke lease (.ok lease)⟩

theorem Hand.Asks.renewal {hand : Hand} {secret : Secret} {flight : Flight} {lease : Lease}
    (asks : hand.Asks secret flight) (own : flight.errand = .renew lease) :
    flight.purpose.isFetch = false := by
  cases asks with
  | pursuit => rfl
  | _ => cases own

theorem mem_boarded {k : Keeper} {secret other : Secret} {room : Room} {boarding flight : Flight}
    (boarded : room.flights = (k.room secret).flights ++ [boarding])
    (flying : flight ∈ ((k.setRoom secret room).room other).flights) :
    flight ∈ (k.room other).flights ∨ other = secret ∧ flight = boarding := by
  refine forall_setRoom (P := fun other room => flight ∈ room.flights →
    flight ∈ (k.room other).flights ∨ other = secret ∧ flight = boarding) ?_ ?_ other flying
  · intro flying
    rw [boarded] at flying
    rcases List.mem_append.mp flying with old | fresh
    · exact Or.inl old
    · exact Or.inr ⟨rfl, List.mem_singleton.mp fresh⟩
  · exact fun _ => Or.inl

theorem mem_call {k : Keeper} {secret other : Secret} {purpose : Purpose} {errand : Errand}
    {flight : Flight} (flying : flight ∈ ((k.call secret purpose errand).room other).flights) :
    flight ∈ (k.room other).flights ∨ other = secret ∧ flight = ⟨purpose, errand⟩ :=
  mem_boarded rfl flying

theorem mem_promise {k : Keeper} {secret other : Secret} {ticket : Nat} {flight : Flight}
    (flying : flight ∈ ((k.promise secret ticket).room other).flights) :
    flight ∈ (k.room other).flights ∨ other = secret ∧ flight = ⟨.start ticket, .fetch⟩ :=
  mem_boarded rfl flying

theorem mem_revoke {secret other : Secret} {purpose : Purpose} {lease : Lease}
    {result : Except Fault Lease} {flight : Flight}
    (flying : flight ∈ ((k.revoke secret purpose lease result).room other).flights) :
    flight ∈ (k.room other).flights ∨
      other = secret ∧ flight = ⟨purpose, .revoke lease result⟩ := by
  have told := (emit_aside k (e := .beforeRevocation secret lease) rfl).rooms
  rw [← room_of_rooms told]
  exact mem_call flying

theorem mem_renewOrFetch {secret other : Secret} {purpose : Purpose} {lease : Lease}
    {flight : Flight}
    (flying : flight ∈ ((k.renewOrFetch secret purpose lease).room other).flights) :
    flight ∈ (k.room other).flights ∨ other = secret ∧
      ∃ errand, (errand = .fetch ∨ errand = .renew lease) ∧ flight = ⟨purpose, errand⟩ := by
  unfold renewOrFetch at flying
  split at flying
  · exact (mem_call flying).imp_right fun ⟨here, same⟩ => ⟨here, .fetch, Or.inl rfl, same⟩
  · exact (mem_call flying).imp_right fun ⟨here, same⟩ => ⟨here, .renew lease, Or.inr rfl, same⟩

theorem Scheduled.flights {secret : Secret} {lease : Lease} {outcome : Keeper × Scheduling}
    (scheduled : Scheduled k secret lease outcome) (other : Secret) :
    (outcome.1.room other).flights = (k.room other).flights := by
  cases scheduled with
  | refused => rfl
  | outlasted => exact read_setRoom Room.flights (by rfl) other
  | installed => exact read_setRoom Room.flights (by rfl) other
  | disabled => exact read_setRoom Room.flights (by rfl) other

theorem emit_room (e : LeaseEvent) (secret : Secret) : (k.emit e).room secret = k.room secret :=
  room_of_rooms (emit_tells k e).rooms secret

theorem Act.flights {state state' : Keeper × Hand} (act : Act state state') {secret : Secret}
    {flight : Flight} (flying : flight ∈ (state'.1.room secret).flights) :
    flight ∈ (state.1.room secret).flights ∨ state.2.Asks secret flight := by
  have kept (same : (state'.1.room secret).flights = (state.1.room secret).flights) :
      flight ∈ (state.1.room secret).flights ∨ state.2.Asks secret flight :=
    Or.inl (same ▸ flying)
  cases act with
  | aside k k' hand aside => exact kept (by rw [room_of_rooms aside.rooms])
  | opened => exact kept (read_setRoom Room.flights (by rfl) secret)
  | enrolled => exact kept (read_setRoom Room.flights (by rfl) secret)
  | begun => exact kept rfl
  | owed k other purpose rest own =>
    refine (mem_call flying).imp_right ?_
    rintro ⟨rfl, rfl⟩
    exact .fetch secret purpose rest own
  | promised k other ticket rest =>
    refine (mem_promise flying).imp_right ?_
    rintro ⟨rfl, rfl⟩
    exact .fetch secret (.start ticket) rest rfl
  | paid => exact kept rfl
  | asked k other ticket =>
    refine (mem_call flying).imp_right ?_
    rintro ⟨rfl, rfl⟩
    exact .rotation secret ticket
  | forgotten => exact kept (read_setRoom Room.flights (by exact Room.vacated_flights _) secret)
  | released => exact kept (read_setRoom Room.flights (by exact Room.vacated_flights _) secret)
  | done => exact kept rfl
  | poured k ticket other lease rest =>
    refine (mem_revoke flying).imp_right ?_
    rintro ⟨rfl, rfl⟩
    exact .spill secret ticket lease rest
  | spared => exact kept rfl
  | drained => exact kept rfl
  | pursued k other number generation lease =>
    refine (mem_renewOrFetch flying).imp_right ?_
    rintro ⟨rfl, errand, kind, rfl⟩
    exact .pursuit secret number generation lease errand kind
  | surrendered => exact kept rfl
  | late => exact kept rfl
  | published => exact kept (by rw [emit_room]; exact read_setRoom Room.flights (by rfl) secret)
  | kept k k' other purpose lease scheduled => exact kept (scheduled.flights secret)
  | refused => exact kept rfl
  | outlasted k k' other purpose lease scheduled => exact kept (scheduled.flights secret)
  | revoked k other purpose lease result =>
    refine (mem_revoke flying).imp_right ?_
    rintro ⟨rfl, rfl⟩
    exact .revocation secret purpose lease result
  | dropped => exact kept rfl
  | extended => exact kept rfl
  | refetched k other purpose lease next =>
    refine (mem_call flying).imp_right ?_
    rintro ⟨rfl, rfl⟩
    exact .refetch secret purpose lease next
  | expired => exact kept (read_setRoom Room.flights (by rfl) secret)
  | resumed => exact kept (read_setRoom Room.flights (by rfl) secret)
  | concluded => exact kept (read_setRoom Room.flights (by rfl) secret)
  | lost => exact kept rfl
  | decided k k' other ticket lease kind scheduled => exact kept (scheduled.flights secret)
  | overran k k' other ticket lease scheduled => exact kept (scheduled.flights secret)
  | ended => exact kept rfl
  | crashed k ticket =>
    rw [room_dropTicket] at flying
    exact Or.inl (List.mem_filter.mp flying).1

/-! ### Stakes -/

/-- Whoever acts for a timer finds, if the slot is under its generation, a lease not scheduled and
such as `ok` says. -/
def Staked (k : Keeper) (secret : Secret) (purpose : Purpose) (ok : Lease → Prop) : Prop :=
  ∀ number generation, purpose = .timer number generation →
    ∃ line, (k.room secret).lines[number]? = some line ∧ generation ≤ line.lineage.issued ∧
      ∀ held, line.lineage.slot = some held → held.generation = generation →
        held.phase ≠ .scheduled ∧ ok held.lease

/-- What a step may find in the slot for what it has in hand. -/
def Hand.Meets (k : Keeper) : Hand → Prop
  | .fetched secret purpose _ | .published secret purpose _ | .ending secret purpose _ =>
    k.Staked secret purpose fun _ => True
  | .loose secret purpose _ _ => k.Staked secret purpose fun _ => False
  | .renewed secret purpose lease _ => k.Staked secret purpose (· = lease)
  | .claimed secret number generation lease =>
    k.Staked secret (.timer number generation) (· = lease)
  | _ => True

namespace Staked

variable {secret : Secret} {purpose : Purpose} {ok ok' : Lease → Prop}

theorem onward (staked : k.Staked secret purpose ok) (onward : Onward k k') :
    k'.Staked secret purpose ok := by
  intro number generation own
  obtain ⟨line, found, bound, meets⟩ := staked number generation own
  obtain ⟨line', found', later⟩ := onward.line found
  refine ⟨line', found', Nat.le_trans bound later.issued, ?_⟩
  intro held' present same
  rcases later.slot held' present with fresh | ⟨held, before, number, lease, phase⟩
  · omega
  · obtain ⟨unscheduled, right⟩ := meets held before (number ▸ same)
    exact ⟨unscheduled ∘ phase, lease ▸ right⟩

theorem weaken (staked : k.Staked secret purpose ok) (imp : ∀ lease, ok lease → ok' lease) :
    k.Staked secret purpose ok' := by
  intro number generation own
  obtain ⟨line, found, bound, meets⟩ := staked number generation own
  exact ⟨line, found, bound, fun held before same =>
    (meets held before same).imp_right (imp held.lease)⟩

theorem of_blank (staked : k.Staked secret purpose ok) (blank : (k.room secret).Blank) :
    k.Staked secret purpose ok' := by
  intro number generation own
  obtain ⟨line, found, bound, meets⟩ := staked number generation own
  exact ⟨line, found, bound, by simp [(blank number line found).slot]⟩

theorem of_fetch (own : purpose.isFetch = true) : k.Staked secret purpose ok := by
  rintro number generation rfl
  cases own

theorem of_ticket {ticket : Nat} (own : purpose.ticket? = some ticket) :
    k.Staked secret purpose ok := by
  rintro number generation rfl
  cases own

end Staked

structure Fit (state : Keeper × Hand) : Prop where
  rested : state.1.Rested
  numbered : state.1.Numbered
  flights : ∀ secret, ∀ flight ∈ (state.1.room secret).flights,
    state.1.Staked secret flight.purpose flight.errand.Meets
  hand : state.2.Meets state.1

theorem Fit.asked {k : Keeper} {hand : Hand} (fit : Fit (k, hand)) {secret : Secret}
    {flight : Flight} (asks : hand.Asks secret flight) :
    k.Staked secret flight.purpose flight.errand.Meets := by
  cases asks with
  | rotation => exact .of_fetch rfl
  | fetch _ purpose rest own => exact .of_fetch own
  | refetch _ purpose lease next =>
    have staked : k.Staked secret purpose (· = lease) := fit.hand
    exact staked.weaken fun _ _ => trivial
  | pursuit _ number generation lease errand kind =>
    have staked : k.Staked secret (.timer number generation) (· = lease) := fit.hand
    rcases kind with rfl | rfl
    · exact staked.weaken fun _ _ => trivial
    · exact staked
  | revocation => exact fit.hand
  | spill => exact .of_ticket rfl

theorem Fit.act {state state' : Keeper × Hand} (fit : Fit state) (act : Act state state')
    (hand : Onward state.1 state'.1 → state'.2.Meets state'.1) : Fit state' := by
  have moves := (act.moves True fun _ _ => trivial).1
  have onward := moves.onward
  refine ⟨moves.keep (fun _ _ move => move.rested) fit.rested, onward.numbered fit.numbered, ?_,
    hand onward⟩
  intro secret flight flying
  rcases act.flights flying with old | asks
  · exact (fit.flights secret flight old).onward onward
  · exact (fit.asked asks).onward onward

theorem Rested.blank_of_closed (rested : k.Rested) {secret : Secret}
    (closed : (k.room secret).line? = none ∨ k.started = false) : (k.room secret).Blank := by
  rcases closed with absent | stopped
  · intro number line found
    refine rested.retired secret number line found fun numbered => ?_
    rw [Room.line?_of_number numbered, found] at absent
    cases absent
  · exact rested.blank stopped secret

theorem Scheduled.unstaked {secret : Secret} {purpose : Purpose} {lease : Lease} {ok : Lease → Prop}
    (scheduled : Scheduled k secret lease (k', .kept)) (rested : k.Rested)
    (staked : k.Staked secret purpose fun _ => True) : k'.Staked secret purpose ok := by
  intro number generation own
  obtain ⟨line, found, bound, _⟩ := staked number generation own
  have unused {other : Nat} (numbered : (k.room secret).lineNumber? = some other)
      (differ : other ≠ number) : line.lineage.slot = none := by
    refine (rested.retired secret number line found ?_).slot
    rw [numbered]
    exact fun same => differ (Option.some.inj same)
  cases scheduled with
  | installed other before deadline level started schedulable numbered present =>
    by_cases same : other = number
    · subst same
      obtain rfl := Option.some.inj (present.symm.trans found)
      refine ⟨_, lines_arm found _ _ _, ?_, ?_⟩
      · simpa using Nat.le_succ_of_le bound
      · intro held placed under
        rw [replaced_slot] at placed
        obtain rfl := Option.some.inj placed
        have fresh : before.lineage.issued + 1 = generation := under
        omega
    · refine ⟨line, ?_, bound, by simp [unused numbered same]⟩
      exact (lines_setLine_of_ne k secret same _).trans found
  | disabled other before level started unschedulable numbered present =>
    by_cases same : other = number
    · subst same
      obtain rfl := Option.some.inj (present.symm.trans found)
      exact ⟨_, lines_relined found _, bound, by simp [Lineage.disable]⟩
    · refine ⟨line, ?_, bound, by simp [unused numbered same]⟩
      exact (lines_setLine_of_ne k secret same _).trans found

theorem Act.fit {state state' : Keeper × Hand} (act : Act state state') (fit : Fit state) :
    Fit state' := by
  refine fit.act act fun onward => ?_
  cases act with
  | aside k k' hand aside =>
    have meets := fit.hand
    cases hand <;> simp only [Hand.Meets] at meets ⊢ <;> exact meets.onward onward
  | opened => trivial
  | enrolled => trivial
  | begun => trivial
  | owed => trivial
  | promised => trivial
  | paid => trivial
  | asked => trivial
  | forgotten => trivial
  | released k secret ticket lease =>
    have staked : (k.without secret).Staked secret (.remove ticket) fun _ => False := .of_ticket rfl
    exact staked
  | done => trivial
  | poured => trivial
  | spared => trivial
  | drained => trivial
  | pursued => trivial
  | surrendered k secret number generation lease =>
    have staked : k.Staked secret (.timer number generation) (· = lease) := fit.hand
    exact staked.weaken fun _ _ => trivial
  | late k secret purpose response stopped =>
    have staked : k.Staked secret purpose fun _ => True := fit.hand
    have gone : k.Staked secret purpose fun _ => False :=
      staked.of_blank (fit.rested.blank stopped secret)
    exact gone
  | published k secret purpose response =>
    have staked : k.Staked secret purpose fun _ => True := fit.hand
    exact staked.onward onward
  | kept k k' secret purpose lease =>
    have staked : k.Staked secret purpose fun _ => True := fit.hand
    exact staked.onward onward
  | refused k secret purpose lease closed =>
    have staked : k.Staked secret purpose fun _ => True := fit.hand
    have gone : k.Staked secret purpose fun _ => False :=
      staked.of_blank (fit.rested.blank_of_closed closed)
    exact gone
  | outlasted k k' secret purpose => cases purpose <;> trivial
  | revoked => trivial
  | dropped k secret purpose lease =>
    have staked : k.Staked secret purpose fun _ => False := fit.hand
    exact staked.weaken fun _ _ => trivial
  | extended k secret purpose lease next =>
    have staked : k.Staked secret purpose (· = lease) := fit.hand
    exact staked.weaken fun _ _ => trivial
  | refetched => trivial
  | expired k secret purpose lease next =>
    have staked : k.Staked secret purpose (· = lease) := fit.hand
    exact (staked.weaken fun _ _ => trivial).onward onward
  | resumed => trivial
  | concluded => trivial
  | lost => trivial
  | decided => trivial
  | overran => trivial
  | ended => trivial
  | crashed => trivial

theorem Begins.flights {event : KeeperEvent} {k₀ : Keeper} {hand : Hand}
    (begins : Begins k event k₀ hand) {secret : Secret} {flight : Flight}
    (flying : flight ∈ (k₀.room secret).flights) :
    flight ∈ (k.room secret).flights ∨ ∃ ticket, flight.purpose = .renew ticket ∧
      event = .request ticket (.renew secret) := by
  have landed (other : Secret) (purpose : Purpose)
      (flying : flight ∈ ((k.landed other purpose).room secret).flights) :
      flight ∈ (k.room secret).flights := by
    refine forall_setRoom (P := fun other room => flight ∈ room.flights →
      flight ∈ (k.room other).flights) ?_ (fun _ => id) secret flying
    exact fun member => (List.mem_filter.mp member).1
  have kept (same : (k₀.room secret).flights = (k.room secret).flights) :
      flight ∈ (k.room secret).flights := same ▸ flying
  cases begins with
  | refused => exact Or.inl flying
  | told event k' aside => exact Or.inl (kept (by rw [room_of_rooms aside.rooms]))
  | operated => exact Or.inl flying
  | inquired ticket other lease =>
    refine (mem_renewOrFetch flying).imp_right ?_
    rintro ⟨rfl, errand, _, rfl⟩
    exact ⟨ticket, rfl, rfl⟩
  | asked => exact Or.inl (kept (read_setRoom Room.flights (by rfl) secret))
  | emptied ticket => exact Or.inl (kept (by rw [room_emptied]; exact Room.vacated_flights _))
  | failed other purpose => exact Or.inl (landed other purpose flying)
  | fetched other purpose => exact Or.inl (landed other purpose flying)
  | renewed other purpose => exact Or.inl (landed other purpose flying)
  | revoked other purpose => exact Or.inl (landed other purpose flying)
  | claimed => exact Or.inl (kept (read_setRoom Room.flights (by rfl) secret))
  | missed => exact Or.inl (kept (read_setRoom Room.flights (by rfl) secret))
  | noticed => exact Or.inl (kept (read_setRoom Room.flights (by rfl) secret))
  | passed => exact Or.inl flying
  | disowned => exact Or.inl flying

theorem Begins.fit {event : KeeperEvent} {k₀ : Keeper} {hand : Hand}
    (begins : Begins k event k₀ hand) (fit : Fit (k, .free)) : Fit (k₀, hand) := by
  have moves := (begins.moves True fun _ => trivial).1
  have onward := moves.onward
  refine ⟨moves.keep (fun _ _ move => move.rested) fit.rested, onward.numbered fit.numbered, ?_, ?_⟩
  · intro secret flight flying
    rcases begins.flights flying with old | ⟨ticket, own, _⟩
    · exact (fit.flights secret flight old).onward onward
    · have ticketed : flight.purpose.ticket? = some ticket := by
        rw [own]
        rfl
      exact .of_ticket ticketed
  · have flew {secret : Secret} {purpose : Purpose} {errand : Errand}
        (flown : (k.room secret).flight? purpose = some ⟨purpose, errand⟩) :
        k₀.Staked secret purpose errand.Meets :=
      (fit.flights secret _ (Room.mem_of_flight? flown)).onward onward
    cases begins with
    | refused => trivial
    | told => trivial
    | operated => trivial
    | inquired => trivial
    | asked => trivial
    | emptied => trivial
    | failed secret purpose errand reply fault failure flown =>
      exact (flew flown).weaken fun _ _ => trivial
    | fetched secret purpose response flown => exact flew flown
    | renewed secret purpose lease next flown => exact flew flown
    | revoked secret purpose lease result reply flown =>
      exact (flew flown).weaken fun _ _ => trivial
    | claimed secret number generation due line held found waiting ripe before own scheduled =>
      rintro _ _ ⟨⟩
      have bound := (fit.numbered secret number line found).slot held before
      refine ⟨_, lines_fired found _ generation, own ▸ bound, ?_⟩
      intro other placed _
      obtain rfl := Option.some.inj placed
      exact ⟨by simp, rfl⟩
    | missed => trivial
    | noticed => trivial
    | passed => trivial
    | disowned => trivial

theorem step_fit (fit : Fit (k, .free)) (event : KeeperEvent) : Fit (k.step event, .free) := by
  obtain ⟨k₀, hand, begins, acts⟩ := step_acts k event
  exact acts.keep (fun _ _ act => act.fit) (begins.fit fit)

theorem fit_new (policy : LeasePolicy) : Fit (new policy, .free) := by
  refine ⟨rested_new policy, ?_, ?_, trivial⟩
  · intro secret number line found
    cases found
  · intro secret flight flying
    cases flying

theorem run_fit (policy : LeasePolicy) (events : List KeeperEvent) :
    Fit ((new policy).run events, .free) :=
  run_keep (P := fun k => Fit (k, .free)) (fun _ event fit => step_fit fit event) (fit_new policy)
    events

/-! ### Renewals on demand -/

inductive Hand.Serves : Hand → Secret → Purpose → Prop where
  | fetched (secret : Secret) (purpose : Purpose) (response : Response) :
      Serves (.fetched secret purpose response) secret purpose
  | published (secret : Secret) (purpose : Purpose) (lease : Lease) :
      Serves (.published secret purpose lease) secret purpose
  | loose (secret : Secret) (purpose : Purpose) (lease : Lease) (result : Except Fault Lease) :
      Serves (.loose secret purpose lease result) secret purpose
  | renewed (secret : Secret) (purpose : Purpose) (lease next : Lease) :
      Serves (.renewed secret purpose lease next) secret purpose
  | ending (secret : Secret) (purpose : Purpose) (result : Except Fault Lease) :
      Serves (.ending secret purpose result) secret purpose

structure Undemanded (secret : Secret) (state : Keeper × Hand) : Prop where
  flights : ∀ flight ∈ (state.1.room secret).flights, ∀ ticket, flight.purpose ≠ .renew ticket
  hand : ∀ ticket, ¬ state.2.Serves secret (.renew ticket)

theorem Hand.Asks.serves {hand : Hand} {secret : Secret} {flight : Flight} {ticket : Nat}
    (asks : hand.Asks secret flight) (own : flight.purpose = .renew ticket) :
    hand.Serves secret (.renew ticket) := by
  cases asks with
  | rotation => cases own
  | fetch _ purpose rest fetches =>
    obtain rfl : purpose = .renew ticket := own
    cases fetches
  | refetch _ purpose lease next =>
    obtain rfl : purpose = .renew ticket := own
    exact .renewed _ _ lease next
  | pursuit => cases own
  | revocation _ purpose lease result =>
    obtain rfl : purpose = .renew ticket := own
    exact .loose _ _ lease result
  | spill => cases own

theorem Act.serves {state state' : Keeper × Hand} (act : Act state state') {secret : Secret}
    {ticket : Nat} (serves : state'.2.Serves secret (.renew ticket)) :
    state.2.Serves secret (.renew ticket) := by
  cases act with
  | outlasted k k' other purpose => cases purpose <;> cases serves
  | aside => exact serves
  | _ => cases serves <;> constructor

theorem Act.undemanded {state state' : Keeper × Hand} (act : Act state state') {secret : Secret}
    (undemanded : Undemanded secret state) : Undemanded secret state' := by
  refine ⟨?_, fun ticket serves => undemanded.hand ticket (act.serves serves)⟩
  intro flight flying ticket own
  rcases act.flights flying with old | asks
  · exact undemanded.flights flight old ticket own
  · exact undemanded.hand ticket (asks.serves own)

theorem Begins.undemanded {event : KeeperEvent} {k₀ : Keeper} {hand : Hand}
    (begins : Begins k event k₀ hand) {secret : Secret}
    (unasked : ∀ ticket, event ≠ .request ticket (.renew secret))
    (undemanded : Undemanded secret (k, .free)) : Undemanded secret (k₀, hand) := by
  refine ⟨?_, ?_⟩
  · intro flight flying ticket own
    rcases begins.flights flying with old | ⟨other, _, demand⟩
    · exact undemanded.flights flight old ticket own
    · exact unasked other demand
  · intro ticket serves
    have flown {errand : Errand}
        (flew : (k.room secret).flight? (.renew ticket) = some ⟨.renew ticket, errand⟩) : False :=
      undemanded.flights _ (Room.mem_of_flight? flew) ticket rfl
    cases begins with
    | failed other purpose errand reply fault failure flew =>
      cases serves
      exact flown flew
    | fetched other purpose response flew =>
      cases serves
      exact flown flew
    | renewed other purpose lease next flew =>
      cases serves
      exact flown flew
    | revoked other purpose lease result reply flew =>
      cases serves
      exact flown flew
    | _ => cases serves

theorem undemanded_new (policy : LeasePolicy) (secret : Secret) :
    Undemanded secret (new policy, .free) :=
  ⟨fun _ flying => (nomatch flying), fun _ serves => (nomatch serves)⟩

end Keeper
end LeaseKeeper
