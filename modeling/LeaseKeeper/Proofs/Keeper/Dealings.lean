import LeaseKeeper.Proofs.Keeper.Routine

/-!
What is dealt with on behalf of one secret while no operation ends: its room changes, its calls and
timers are noted, and the listeners are told. No source comes or goes, no other secret is concerned,
and the calls that operations wait for stay as they are. Whatever a timer brings about is made of
nothing else.
-/
namespace LeaseKeeper

def Entry.returned? : Entry → Option (Nat × KeeperAnswer)
  | .returned ticket answer => some (ticket, answer)
  | _ => none

def Room.commissions (r : Room) : List Flight := r.flights.filter (·.purpose.ticket?.isSome)

theorem Source.hear_hear (s : Source) (e : LeaseEvent) : (s.hear e).hear e = s.hear e := by
  by_cases mine : e.secret = s.secret
  · cases e with
    | afterRenewed => by_cases errored : s.state = .errored <;> simp [hear, mine, errored]
    | _ => simp [hear, mine, adopt]
  · simp [hear, mine]

def Capture.take (c : Capture) (secret : Secret) (caught : Caught) : Capture :=
  if c.secret = secret ∧ c.first.isNone then { c with first := some caught } else c

theorem Capture.take_take (c : Capture) (secret : Secret) (caught : Caught) :
    (c.take secret caught).take secret caught = c.take secret caught := by
  by_cases first : c.secret = secret ∧ c.first.isNone
  · rw [take, take, if_pos first]
    exact if_neg (by simp)
  · rw [take, take, if_neg first, if_neg first]

namespace Keeper

variable {k k' k'' : Keeper} {own secret : Secret} {number generation ticket : Nat}

def returns (k : Keeper) : List (Nat × KeeperAnswer) := k.journal.filterMap (·.2.returned?)

/-! ### What sources and captures make of the news -/

theorem emit_sources (k : Keeper) (e : LeaseEvent) (id : Nat) :
    (k.emit e).sources.find? id =
      if k.leaseListeners.entries.any (·.2 == .source id) then
        (k.sources.find? id).map (·.hear e)
      else k.sources.find? id := by
  refine foldl_told (fun k : Keeper => k.sources.find? id) (·.hear e) (·.2 == .source id)
    (fun s => s.hear_hear e) ?_ k.leaseListeners.entries (k.note (.event e))
  rintro k ⟨_, listener⟩
  cases listener with
  | observer => rfl
  | source other =>
    by_cases same : id = other
    · subst same
      simp [tellSource, Table.find?_adjust_self]
    · simp [tellSource, Table.find?_adjust_of_ne same, Ne.symm same]

theorem catchFault_captures (k : Keeper) (other : Nat) (secret : Secret) (caught : Caught)
    (ticket : Nat) : (k.catchFault other secret caught).1.captures.find? ticket =
      if other = ticket then (k.captures.find? ticket).map (·.take secret caught)
      else k.captures.find? ticket := by
  unfold catchFault
  cases found : k.captures.find? other with
  | none =>
    by_cases same : other = ticket
    · subst same
      simp [found]
    · exact (if_neg same).symm
  | some capture =>
    dsimp only
    by_cases same : other = ticket
    · subst same
      rw [if_pos rfl, found, Option.map_some, Capture.take]
      split
      · exact Table.find?_put_self other _ k.captures
      · exact found
    · rw [if_neg same]
      split
      · exact Table.find?_put_of_ne (Ne.symm same) _ k.captures
      · rfl

theorem report_captures (k : Keeper) (secret : Secret) (lease : Lease) (fault : Fault)
    (ticket : Nat) : (k.report secret lease fault).1.captures.find? ticket =
      if k.faultListeners.entries.any (·.2 == .capture ticket) then
        (k.captures.find? ticket).map (·.take secret ⟨k.reports, fault, k.keepsFaults⟩)
      else k.captures.find? ticket := by
  refine foldl_told (fun state : Keeper × Bool => state.1.captures.find? ticket)
    (·.take secret ⟨k.reports, fault, k.keepsFaults⟩) (·.2 == .capture ticket)
    (fun c => c.take_take secret _) ?_ k.faultListeners.entries _
  rintro ⟨k, held⟩ ⟨_, listener⟩
  cases listener with
  | capture other =>
    refine (catchFault_captures k other secret _ ticket).trans ?_
    by_cases same : other = ticket <;> simp [same]
  | _ => rfl

/-! ### One thing after the other -/

/-- One thing that is done on behalf of a secret. -/
inductive Dealing (own : Secret) (k : Keeper) : Keeper → Prop where
  | housed (room : Room) (registered : room.registered = (k.room own).registered)
      (commissions : room.commissions = (k.room own).commissions) :
      Dealing own k (k.setRoom own room)
  | noted (entry : Entry) (silent : ∀ other, other ≠ own → entry.tiding? other = none)
      (endless : entry.returned? = none) : Dealing own k (k.note entry)
  | emitted (e : LeaseEvent) (mine : e.secret = own) : Dealing own k (k.emit e)
  | reported (lease : Lease) (fault : Fault) : Dealing own k (k.report own lease fault).1
  | metered (metrics : Metrics) : Dealing own k { k with metrics }

abbrev Dealings (own : Secret) : Keeper → Keeper → Prop := Relation.ReflTransGen (Dealing own)

theorem commissions_board (r : Room) (number generation : Nat) (errand : Errand) :
    (r.board (.timer number generation) errand).commissions = r.commissions := by
  simp [Room.board, Room.commissions, List.filter_append, Purpose.ticket?]

theorem commissions_dropFlight (r : Room) (number generation : Nat) :
    (r.dropFlight (.timer number generation)).commissions = r.commissions := by
  unfold Room.dropFlight Room.commissions
  rw [List.filter_filter]
  refine List.filter_congr fun flight _ => ?_
  by_cases same : flight.purpose = .timer number generation <;> simp [same, Purpose.ticket?]

namespace Dealings

variable (k own)

theorem setLine (number : Nat) (line : Line) :
    Dealings own k (k.setRoom own ((k.room own).setLine number line)) :=
  .single (.housed _ rfl rfl)

theorem setData (data : Option (TextMap String)) :
    Dealings own k (k.setRoom own { k.room own with data }) := .single (.housed _ rfl rfl)

theorem arm (number : Nat) (line : Line) (generation delay : Nat) :
    Dealings own k (k.arm own number line generation delay) :=
  (setLine k own number _).tail (.noted (.armed own number generation _) (fun _ _ => rfl) rfl)

theorem count (m : Measure) : Dealings own k (k.count m) := .single (.metered _)

theorem setGauge (level : Nat) : Dealings own k (k.setGauge level) := .single (.metered _)

theorem landed (number generation : Nat) :
    Dealings own k (k.landed own (.timer number generation)) :=
  .single (.housed _ rfl (commissions_dropFlight _ number generation))

theorem call (number generation : Nat) (errand : Errand) :
    Dealings own k (k.call own (.timer number generation) errand) := by
  have boarded : Dealings own k
      (k.setRoom own ((k.room own).board (.timer number generation) errand)) :=
    .single (.housed _ rfl (commissions_board _ number generation errand))
  exact boarded.tail (.noted _ (fun _ differ => if_neg (Ne.symm differ)) rfl)

theorem revoke (number generation : Nat) (lease : Lease) (result : Except Fault Lease) :
    Dealings own k (k.revoke own (.timer number generation) lease result) :=
  .head (.emitted (.beforeRevocation own lease) rfl) (call _ own number generation _)

theorem renewOrFetch (number generation : Nat) (lease : Lease) :
    Dealings own k (k.renewOrFetch own (.timer number generation) lease) := by
  unfold Keeper.renewOrFetch
  split
  · exact call k own number generation _
  · exact call k own number generation _

theorem published (response : Response) : Dealings own k (k.published own response) :=
  (setData k own _).tail (.emitted _ rfl)

theorem disappointed (fault : Fault) : Dealings own k (k.disappointed own fault) := by
  unfold Keeper.disappointed
  split
  · exact .head (.emitted (.notFound own) rfl) (.single (.reported Lease.none fault))
  · exact .single (.reported Lease.none fault)

theorem acknowledged (next : Lease) : Dealings own k (k.acknowledged own next) := by
  unfold Keeper.acknowledged
  split
  · exact (count k own _).tail (.emitted _ rfl)
  · exact count k own _

theorem lapsed (next : Lease) : Dealings own k (k.lapsed own next) :=
  (setData k own none).tail (.emitted _ rfl)

variable {k own} in
theorem scheduled {lease : Lease} {outcome : Keeper × Scheduling}
    (scheduled : Scheduled k own lease outcome) : Dealings own k outcome.1 := by
  cases scheduled with
  | refused => exact .refl
  | outlasted => exact setLine k own _ _
  | installed number line deadline level =>
    exact (arm k own number _ _ _).trans (setGauge _ own level)
  | disabled number line level => exact (setLine k own number _).trans (setGauge _ own level)

/-! ### What a turn or a timer brings about -/

theorem asked (turn : Nat) : Dealings own k (k.asked own turn) := by
  have turned : Dealings own k (k.setRoom own ((k.room own).ask turn)) :=
    .single (.housed _ rfl rfl)
  exact turned.tail (.noted _ (fun _ differ => if_neg (Ne.symm differ)) rfl)

theorem ask (turn : Nat) : Dealings own k (k.ask own turn) := by
  unfold Keeper.ask
  split
  · exact asked k own turn
  · exact .refl

theorem endTimer (number generation : Nat) (result : Except Fault Lease) :
    Dealings own k (k.endTimer own number generation result) := by
  unfold Keeper.endTimer
  dsimp only
  split
  · exact .refl
  · split
    · exact arm k own number _ _ _
    · exact setLine k own number _
    · exact setLine k own number _

theorem endFetch (number generation : Nat) (result : Except Fault Lease) :
    Dealings own k (k.endFetch own (.timer number generation) result) :=
  (count k own _).trans (endTimer _ own number generation result)

theorem abandon (number generation : Nat) (lease : Lease) (result : Except Fault Lease) :
    Dealings own k (k.abandon own (.timer number generation) lease result) := by
  unfold Keeper.abandon
  split
  · exact revoke k own number generation lease result
  · exact endFetch k own number generation result

theorem fetched (number generation : Nat) (result : Except Fault Response) :
    Dealings own k (k.fetched own (.timer number generation) result) := by
  cases result with
  | error fault =>
    obtain ⟨copy, ended⟩ := fetched_failed k own (.timer number generation) fault
    rw [ended]
    exact (disappointed k own fault).trans (endFetch _ own number generation _)
  | ok response =>
    unfold Keeper.fetched
    dsimp only
    split
    · exact abandon k own number generation _ _
    · refine (published k own response).trans ?_
      unfold Keeper.published
      generalize Keeper.emit _ _ = k₁
      have scheduled := Dealings.scheduled (schedule_scheduled k₁ own response.lease)
      generalize k₁.schedule own response.lease = outcome at scheduled ⊢
      obtain ⟨k₂, kind⟩ := outcome
      cases kind with
      | kept => exact scheduled.trans (endFetch k₂ own number generation _)
      | refused => exact scheduled.trans (abandon k₂ own number generation _ _)
      | overflow => exact scheduled

theorem renewed (number generation : Nat) (lease : Lease) (result : Except Fault Lease) :
    Dealings own k (k.renewed own (.timer number generation) lease result) := by
  cases result with
  | error fault =>
    exact ((count k own _).tail (.reported lease fault)).trans (endTimer _ own number generation _)
  | ok next =>
    have told := acknowledged k own next
    by_cases short : k.fallsShort next
    · rw [renewed_of_short lease short]
      split
      · exact told.trans (call _ own number generation .fetch)
      · exact (told.trans (lapsed _ own next)).trans
          (endTimer _ own number generation (.ok Lease.none))
    · rw [renewed_of_enough lease short]
      exact told.trans (endTimer _ own number generation _)

theorem revoked (number generation : Nat) (lease : Lease) (result : Except Fault Lease)
    (reply : Except Fault Unit) :
    Dealings own k (k.revoked own (.timer number generation) lease result reply) := by
  cases reply with
  | ok _ =>
    exact ((count k own _).tail (.emitted (.afterRevocation own lease) rfl)).trans
      (endFetch _ own number generation result)
  | error fault =>
    exact ((count k own _).tail (.reported lease fault)).trans
      (endFetch _ own number generation result)

theorem answer (number generation : Nat) (reply : Reply) :
    Dealings own k (k.answer own (.timer number generation) reply) := by
  have landed := landed k own number generation
  unfold Keeper.answer
  dsimp only
  split
  · exact .refl
  · split
    · exact landed.trans (fetched _ own number generation _)
    · exact landed.trans (renewed _ own number generation _ _)
    · exact landed.trans (revoked _ own number generation _ _ _)
    · exact .refl

theorem fire (number generation : Nat) : Dealings own k (k.fire own number generation) := by
  unfold Keeper.fire
  dsimp only
  split
  · exact .refl
  · split
    · exact .refl
    · split
      · split
        · exact setLine k own number _
        · split
          · exact (setLine k own number _).trans (renewOrFetch _ own number generation _)
          · exact (setLine k own number _).trans (endTimer _ own number generation _)
      · exact .refl

theorem stop (number generation : Nat) : Dealings own k (k.stop own number generation) := by
  unfold Keeper.stop
  dsimp only
  split
  · exact .refl
  · split
    · exact setLine k own number _
    · exact .refl

end Dealings

/-! ### What is left alone -/

structure Upholds (k k' : Keeper) : Prop where
  started : k'.started = k.started
  binds : k'.binds = k.binds
  leaseListeners : k'.leaseListeners = k.leaseListeners
  faultListeners : k'.faultListeners = k.faultListeners
  returns : k'.returns = k.returns
  registered : ∀ other, (k'.room other).registered = (k.room other).registered
  commissions : ∀ other, (k'.room other).commissions = (k.room other).commissions

structure Overlooks (secret : Secret) (k k' : Keeper) : Prop extends Upholds k k' where
  stays : Stays secret k k'
  source : ∀ id s, k.sources.find? id = some s → s.secret = secret →
    k'.sources.find? id = some s
  capture : ∀ ticket c, k.captures.find? ticket = some c → c.secret = secret →
    k'.captures.find? ticket = some c

theorem returns_of_entry {time : Nat} {entry : Entry} (endless : entry.returned? = none)
    (journal : k'.journal = (time, entry) :: k.journal) : k'.returns = k.returns := by
  rw [Keeper.returns, journal, List.filterMap_cons, endless]
  rfl

namespace Upholds

theorem refl (k : Keeper) : Upholds k k :=
  ⟨rfl, rfl, rfl, rfl, rfl, fun _ => rfl, fun _ => rfl⟩

theorem trans (first : Upholds k k') (second : Upholds k' k'') : Upholds k k'' :=
  ⟨second.started.trans first.started, second.binds.trans first.binds,
    second.leaseListeners.trans first.leaseListeners,
    second.faultListeners.trans first.faultListeners, second.returns.trans first.returns,
    fun other => (second.registered other).trans (first.registered other),
    fun other => (second.commissions other).trans (first.commissions other)⟩

end Upholds

theorem Dealing.upholds (dealing : Dealing own k k') : Upholds k k' := by
  cases dealing with
  | housed room registered commissions =>
    exact ⟨rfl, rfl, rfl, rfl, rfl, read_setRoom Room.registered registered,
      read_setRoom Room.commissions commissions⟩
  | noted entry silent endless =>
    exact ⟨rfl, rfl, rfl, rfl, returns_of_entry endless rfl, fun _ => rfl, fun _ => rfl⟩
  | emitted e =>
    obtain ⟨sources, frame⟩ := emit_frame k e
    have returns : (k.emit e).returns = k.returns := returns_of_entry rfl (emit_journal k e)
    rw [frame] at returns ⊢
    exact ⟨rfl, rfl, rfl, rfl, returns, fun _ => rfl, fun _ => rfl⟩
  | reported lease fault =>
    have told := report_telling k own lease fault
    exact ⟨told.started, told.binds, report_leaseListeners k own lease fault,
      report_faultListeners k own lease fault,
      returns_of_entry rfl (report_journal k own lease fault),
      fun other => congrArg Room.registered (room_of_rooms told.rooms other),
      fun other => congrArg Room.commissions (room_of_rooms told.rooms other)⟩
  | metered => exact ⟨rfl, rfl, rfl, rfl, rfl, fun _ => rfl, fun _ => rfl⟩

theorem Dealings.upholds (dealings : Dealings own k k') : Upholds k k' := by
  induction dealings with
  | refl => exact .refl k
  | tail _ last ih => exact ih.trans last.upholds

namespace Overlooks

theorem refl (secret : Secret) (k : Keeper) : Overlooks secret k k :=
  ⟨.refl k, .refl secret k, fun _ _ found _ => found, fun _ _ found _ => found⟩

theorem trans (first : Overlooks secret k k') (second : Overlooks secret k' k'') :
    Overlooks secret k k'' :=
  ⟨first.toUpholds.trans second.toUpholds, first.stays.trans second.stays,
    fun id s found mine => second.source id s (first.source id s found mine) mine,
    fun ticket c found mine => second.capture ticket c (first.capture ticket c found mine) mine⟩

theorem of_frame (upholds : Upholds k k') (stays : Stays secret k k')
    (sources : k'.sources = k.sources) (captures : k'.captures = k.captures) :
    Overlooks secret k k' :=
  ⟨upholds, stays, fun _ _ found _ => sources ▸ found, fun _ _ found _ => captures ▸ found⟩

theorem aside (secret : Secret) (k : Keeper) (now : Nat) (owned : Bool) (metrics : Metrics) :
    Overlooks secret k { k with now, owned, metrics } :=
  of_frame ⟨rfl, rfl, rfl, rfl, rfl, fun _ => rfl, fun _ => rfl⟩ (.of_room rfl rfl) rfl rfl

end Overlooks

theorem emit_source_deaf {id : Nat} {s : Source} {e : LeaseEvent} (deaf : s.hear e = s)
    (found : k.sources.find? id = some s) : (k.emit e).sources.find? id = some s := by
  rw [emit_sources, found, Option.map_some, deaf, ite_self]

theorem report_source_deaf {id : Nat} {s : Source} {fault : Fault} (lease : Lease)
    (deaf : s.hearFault secret fault = s) (found : k.sources.find? id = some s) :
    (k.report secret lease fault).1.sources.find? id = some s := by
  rw [report_sources, found, Option.map_some, deaf, ite_self]

theorem Dealing.overlooks (dealing : Dealing own k k') (differ : secret ≠ own) :
    Overlooks secret k k' := by
  have upholds := dealing.upholds
  cases dealing with
  | housed room =>
    exact .of_frame upholds (.of_room (room_setRoom_of_ne k own differ room) rfl) rfl rfl
  | noted entry silent =>
    refine .of_frame upholds (.of_room rfl ?_) rfl rfl
    simp [tidings, note, silent secret differ]
  | emitted e mine =>
    subst mine
    have confined := Confined.emit k e rfl
    refine ⟨upholds, .of_room (confined.rooms secret differ) (confined.tidings secret differ),
      fun id s found foreign => emit_source_deaf ?_ found, fun ticket c found _ => ?_⟩
    · exact if_neg fun same => differ (foreign.symm.trans same.symm)
    · obtain ⟨sources, frame⟩ := emit_frame k e
      rw [frame]
      exact found
  | reported lease fault =>
    have confined := Confined.report own k lease fault
    refine ⟨upholds, .of_room (confined.rooms secret differ) (confined.tidings secret differ),
      fun id s found foreign => report_source_deaf lease ?_ found, fun ticket c found foreign => ?_⟩
    · exact if_neg fun heard => differ (foreign.symm.trans heard.1.symm)
    · have passed : ¬ (c.secret = own ∧ c.first.isNone) := fun caught =>
        differ (foreign.symm.trans caught.1)
      rw [report_captures, found, Option.map_some, Capture.take, if_neg passed, ite_self]
  | metered metrics => exact .aside secret k k.now k.owned metrics

theorem Dealings.overlooks (dealings : Dealings own k k') (differ : secret ≠ own) :
    Overlooks secret k k' := by
  induction dealings with
  | refl => exact .refl secret k
  | tail _ last ih => exact ih.trans (last.overlooks differ)

theorem Overlooks.stop (k : Keeper) (secret : Secret) (number generation : Nat) :
    Overlooks secret k (k.stop secret number generation) := by
  have upholds := (Dealings.stop k secret number generation).upholds
  refine .of_frame upholds (.stop k secret number generation) ?_ ?_
  · unfold Keeper.stop
    dsimp only
    split
    · rfl
    · split <;> rfl
  · unfold Keeper.stop
    dsimp only
    split
    · rfl
    · split <;> rfl

end Keeper
end LeaseKeeper
