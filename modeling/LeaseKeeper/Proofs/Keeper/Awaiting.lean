import LeaseKeeper.Proofs.Keeper.Hosting

/-!
The fetches that a bind waits for are made and answered. The answer for another secret leaves the
bind as it is; that for its own secret fills its source, or leaves its fault with the capture. When
the last one has come, nothing is left of what the bind waited for, and it goes on.
-/
namespace LeaseKeeper.Keeper

variable {k k' k₀ k₁ : Keeper} {bid : Bid} {own secret : Secret} {ticket : Nat} {purpose : Purpose}
  {stage : BindStage} {answer? : Option (Except Fault Response)} {s : Source}
  {fault? : Option Fault}

/-! ### The turn of the secret comes -/

theorem Pending.asked (pending : Pending k₀ bid (.start bid.ticket) stage none k)
    (waiting : (k.room bid.secret).unasked.contains bid.ticket = true) :
    Pending k₀ bid (.start bid.ticket) stage none (k.asked bid.secret bid.ticket) := by
  have upholds := (Dealings.asked k bid.secret bid.ticket).upholds
  have room := room_asked k bid.secret bid.ticket
  have turned : ((k.asked bid.secret bid.ticket).room bid.secret).awaitsTurn
      (.start bid.ticket) = false := by
    rw [room]
    simp [Room.awaitsTurn, Room.ask]
  have waited : (k.room bid.secret).awaitsTurn (.start bid.ticket) = true := waiting
  obtain ⟨news, told, asked⟩ := pending.told
  rw [if_pos ⟨rfl, waited⟩] at asked
  refine ⟨pending.toSeats.upholds upholds pending.source pending.capture, pending.asks,
    pending.started, pending.binds, (congrArg Room.flights room).trans pending.flights,
    fun other flight waits => ?_, ⟨(k.now, .asked .fetch) :: news, ?_, ?_⟩,
    fun absent ungranted => (congrArg Room.current room).trans (pending.vacant absent ungranted),
    fun _ granted => by cases granted⟩
  · rw [upholds.commissions] at waits
    rw [upholds.registered]
    exact pending.commissions other flight waits
  · rw [List.cons_append, ← told]
    exact tidings_asked k bid.secret bid.ticket
  · rw [if_neg fun still => Bool.false_ne_true (turned.symm.trans still.2)]
    have first := inquiries_append [(k.now, .asked .fetch)] news
    rw [asked] at first
    exact first

/-! ### The fetches are answered -/

theorem Seats.landed (seats : Seats k₀ bid s fault? k) (own : Secret) (purpose : Purpose) :
    Seats k₀ bid s fault? (k.landed own purpose) := by
  refine ⟨fun other => ?_, seats.leaseListeners, seats.faultListeners, seats.returns, seats.source,
    seats.capture⟩
  have same : ((k.landed own purpose).room other).registered = (k.room other).registered :=
    read_setRoom Room.registered (by rfl) other
  exact same.trans (seats.registered other)

theorem commissions_landed {flight : Flight} (own : Secret) (purpose : Purpose) {other : Secret}
    (waiting : flight ∈ ((k.landed own purpose).room other).commissions) :
    flight ∈ (k.room other).commissions := by
  by_cases same : other = own
  · subst same
    rw [landed_room] at waiting
    obtain ⟨flying, commissioned⟩ := List.mem_filter.mp waiting
    exact List.mem_filter.mpr ⟨(List.mem_filter.mp flying).1, commissioned⟩
  · rwa [Keeper.landed, room_setRoom_of_ne k own same] at waiting

theorem Pending.landed (pending : Pending k₀ bid purpose stage answer? k)
    (differ : bid.secret ≠ own) : Pending k₀ bid purpose stage answer? (k.landed own purpose) := by
  have room : (k.landed own purpose).room bid.secret = k.room bid.secret :=
    room_setRoom_of_ne k own differ _
  have seats := pending.toSeats.landed own purpose
  refine ⟨seats, pending.asks, pending.started, pending.binds,
    (congrArg Room.flights room).trans pending.flights, fun other flight waiting => ?_, ?_,
    fun absent ungranted => (congrArg Room.current room).trans (pending.vacant absent ungranted),
    fun response granted => (congrArg Room.data room).trans (pending.data response granted)⟩
  · obtain ⟨fetch, alone, known⟩ :=
      pending.commissions other flight (commissions_landed own purpose waiting)
    exact ⟨fetch, alone,
      (seats.registered other).trans ((pending.registered other).symm.trans known)⟩
  · rw [room]
    exact pending.told

theorem Pending.answered (pending : Pending k₀ bid purpose stage none k)
    (prompt : (k.room bid.secret).awaitsTurn purpose = false)
    (dealt : Dealings bid.secret (k.landed bid.secret purpose) k₁)
    {result : Except Fault Response}
    (source : k₁.sources.find? bid.ticket = some ((k₀.newSource bid).served (some result)))
    (capture : ∃ c, k₁.captures.find? bid.ticket = some c ∧ c.secret = bid.secret ∧
      c.listener = k₀.faultListeners.issued + 1 ∧
      c.first.map Caught.fault = failure? (some result))
    (idle : (k₁.room bid.secret).flights = ((k.landed bid.secret purpose).room bid.secret).flights)
    {fresh : List (Nat × Tiding)} (told : k₁.tidings bid.secret = fresh ++ k.tidings bid.secret)
    (silent : inquiries fresh = [])
    (vacant : (∀ response, some result ≠ some (.ok response)) →
      k₁.current bid.secret = k.current bid.secret)
    (data : ∀ response, some result = some (.ok response) →
      k₁.data bid.secret = some response.flattened) :
    Pending k₀ bid purpose stage (some result) k₁ := by
  have upholds := dealt.upholds
  have landed := pending.toSeats.landed bid.secret purpose
  obtain ⟨news, before, asked⟩ := pending.told
  refine ⟨landed.upholds upholds source capture, pending.asks,
    upholds.started.trans pending.started, upholds.binds.trans pending.binds, ?_,
    fun other flight waiting => ?_, ⟨fresh ++ news, ?_, ?_⟩, fun absent ungranted => ?_, data⟩
  · rw [idle, landed_room]
    simp [Room.dropFlight, pending.flights, awaited]
  · rw [upholds.commissions] at waiting
    obtain ⟨fetch, alone, known⟩ :=
      pending.commissions other flight (commissions_landed bid.secret purpose waiting)
    refine ⟨fetch, alone, ?_⟩
    rw [upholds.registered, landed.registered, ← pending.registered]
    exact known
  · rw [told, before, List.append_assoc]
  · rw [inquiries_append, asked, silent, prompt]
    rfl
  · exact (vacant ungranted).trans (pending.vacant absent (by simp))

theorem inquiries_setback (time : Nat) (secret : Secret) (fault : Fault) :
    inquiries (setback secret time fault) = [] := by
  unfold setback
  split <;> rfl

theorem Seats.listed (seats : Seats k₀ bid s fault? k) :
    k.leaseListeners.entries.any (·.2 == .source bid.ticket) = true ∧
      k.faultListeners.entries.any (·.2 == .capture bid.ticket) = true := by
  rw [seats.leaseListeners, seats.faultListeners]
  constructor <;> simp [Listeners.Registry.add]

theorem Seats.hears (seats : Seats k₀ bid s fault? k) (e : LeaseEvent) :
    (k.emit e).sources.find? bid.ticket = some (s.hear e) := by
  rw [emit_sources, if_pos seats.listed.1, seats.source, Option.map_some]

theorem Seats.catches (seats : Seats k₀ bid s none k) (lease : Lease) (fault : Fault) :
    ∃ c, (k.report bid.secret lease fault).1.captures.find? bid.ticket = some c ∧
      c.secret = bid.secret ∧ c.listener = k₀.faultListeners.issued + 1 ∧
      c.first.map Caught.fault = some fault := by
  obtain ⟨c, found, own, listener, first⟩ := seats.capture
  have clear : c.first.isNone = true := by
    rw [Option.map_eq_none_iff.mp first]
    rfl
  refine ⟨{ c with first := some ⟨k.reports, fault, k.keepsFaults⟩ }, ?_, own, listener, rfl⟩
  rw [report_captures, if_pos seats.listed.2, found, Option.map_some, Capture.take,
    if_pos ⟨own, clear⟩]

theorem emit_captures (k : Keeper) (e : LeaseEvent) : (k.emit e).captures = k.captures := by
  obtain ⟨sources, frame⟩ := emit_frame k e
  rw [frame]
  rfl

theorem Seats.missing (seats : Seats k₀ bid s fault? k) :
    Seats k₀ bid s fault? (k.emit (.notFound bid.secret)) := by
  have dealt : Dealings bid.secret k (k.emit (.notFound bid.secret)) := .single (.emitted _ rfl)
  refine seats.upholds dealt.upholds ?_ ?_
  · exact (emit_notFound_source k bid.secret bid.ticket).trans seats.source
  · rw [emit_captures]
    exact seats.capture

theorem Pending.failed (pending : Pending k₀ bid purpose stage none k)
    (prompt : (k.room bid.secret).awaitsTurn purpose = false) (fault : Fault) :
    Pending k₀ bid purpose stage (some (.error fault))
      ((k.landed bid.secret purpose).disappointed bid.secret fault) := by
  have dealt := Dealings.disappointed (k.landed bid.secret purpose) bid.secret fault
  have leaves := leaves_disappointed (k.landed bid.secret purpose) bid.secret fault
  have told : ((k.landed bid.secret purpose).disappointed bid.secret fault).tidings bid.secret =
      setback bid.secret k.now fault ++ k.tidings bid.secret := by
    rw [tidings_disappointed, setback]
    split <;> rfl
  have unfilled : (k₀.newSource bid).hearFault bid.secret fault = k₀.newSource bid :=
    if_neg fun heard => by cases heard.2.1
  have seats : Seats k₀ bid (k₀.newSource bid) none
      (if fault.isNotFound then (k.landed bid.secret purpose).emit (.notFound bid.secret)
        else k.landed bid.secret purpose) := by
    split
    · exact (pending.toSeats.landed bid.secret purpose).missing
    · exact pending.toSeats.landed bid.secret purpose
  refine pending.answered prompt dealt (report_source_deaf Lease.none unfilled seats.source)
    (seats.catches Lease.none fault) leaves.flights told (inquiries_setback _ _ _) (fun _ => ?_)
    fun _ granted => by cases granted
  exact leaves.current.trans (congrArg Room.current (landed_room k bid.secret purpose) :)

theorem Scheduled.listening {lease : Lease} {outcome : Keeper × Scheduling}
    (scheduled : Scheduled k secret lease outcome) :
    outcome.1.sources = k.sources ∧ outcome.1.captures = k.captures := by
  cases scheduled <;> exact ⟨rfl, rfl⟩

theorem Pending.granted (pending : Pending k₀ bid purpose stage none k)
    (prompt : (k.room bid.secret).awaitsTurn purpose = false) {response : Response}
    (scheduled : ((k.landed bid.secret purpose).published bid.secret response).Scheduled bid.secret
      response.lease (k₁, .kept)) :
    Pending k₀ bid purpose stage (some (.ok response)) k₁ := by
  have landed := pending.toSeats.landed bid.secret purpose
  have published := Dealings.published (k.landed bid.secret purpose) bid.secret response
  have leaves := leaves_published (k.landed bid.secret purpose) bid.secret response
  have alike := Alike.scheduled scheduled
  have told : k₁.tidings bid.secret =
      [(k.now, .heard (.created bid.secret response.lease response.flattened))] ++
        k.tidings bid.secret :=
    alike.tidings.trans (tidings_published (k.landed bid.secret purpose) bid.secret response)
  have data : k₁.data bid.secret = some response.flattened := by
    rw [alike.data, published_data, if_pos rfl]
  have heard : (k₀.newSource bid).hear
      (.created bid.secret response.lease response.flattened) =
        (k₀.newSource bid).adopt response.flattened := if_pos rfl
  have filled : Seats k₀ bid (k₀.newSource bid) none
      ((k.landed bid.secret purpose).setRoom bid.secret
        { (k.landed bid.secret purpose).room bid.secret with data := some response.flattened }) :=
    landed.upholds (Dealings.setData _ bid.secret _).upholds landed.source landed.capture
  have source : k₁.sources.find? bid.ticket =
      some ((k₀.newSource bid).adopt response.flattened) :=
    (congrArg (Table.find? bid.ticket) scheduled.listening.1).trans
      ((filled.hears _).trans (congrArg some heard))
  have captures : k₁.captures = k.captures := by
    rw [scheduled.listening.2, Keeper.published, emit_captures]
    rfl
  refine pending.answered prompt (published.trans (Dealings.scheduled scheduled)) source ?_
    ((scheduled.flights bid.secret).trans leaves.flights) told rfl (fun ungranted => ?_) ?_
  · rw [captures]
    exact pending.capture
  · exact absurd rfl (ungranted response)
  · rintro _ ⟨⟩
    exact data

theorem fetched_ends (running : k.started = true) (known : (k.room own).line?.isSome = true)
    {result : Except Fault Response}
    (fits : ∀ response, result = .ok response → ¬ k.Outlasts own response.lease)
    (purpose : Purpose) : ∃ k₁ ending, Dealings own k k₁ ∧
      k.fetched own purpose result = k₁.endFetch own purpose ending := by
  cases result with
  | error fault =>
    obtain ⟨copy, ended⟩ := fetched_failed k own purpose fault
    exact ⟨_, _, .disappointed k own fault, ended⟩
  | ok response =>
    obtain ⟨k₁, scheduled, ended⟩ := fetched_kept running known (fits response rfl) purpose
    exact ⟨k₁, _, (Dealings.published k own response).trans (Dealings.scheduled scheduled), ended⟩

/-! ### When the last fetch is answered -/

theorem hasTicket_of_flying {flight : Flight} (flying : flight ∈ (k.room secret).flights)
    (own : flight.purpose.ticket? = some ticket) : k.hasTicket ticket = true := by
  unfold Keeper.room at flying
  cases found : k.rooms.find? secret with
  | none =>
    rw [found] at flying
    cases flying
  | some room =>
    rw [found] at flying
    have carries : room.hasTicket ticket = true :=
      List.any_eq_true.mpr ⟨flight, flying, beq_iff_eq.mpr own⟩
    exact List.any_eq_true.mpr ⟨_, Table.mem_of_find? found, carries⟩

theorem Keyed.commission (keyed : k.Keyed) (busy : k.hasTicket ticket = true) :
    ∃ secret, ∃ flight ∈ (k.room secret).commissions, flight.purpose.ticket? = some ticket := by
  obtain ⟨⟨secret, room⟩, member, carries⟩ := List.any_eq_true.mp busy
  obtain ⟨flight, flying, own⟩ := List.any_eq_true.mp carries
  have own := eq_of_beq own
  refine ⟨secret, flight, ?_, own⟩
  rw [keyed.room member]
  exact List.mem_filter.mpr ⟨flying, by rw [own]; rfl⟩

theorem complete_bound {b : Binding} (bound : k.binds.find? ticket = some b)
    (ready : b.stage = .fetching ∨ b.stage = .adding ∧ b.added = true ∧ k.started = true)
    (answer : KeeperAnswer) : k.complete ticket answer = k.bindFetched ticket b := by
  rcases ready with fetching | ⟨adding, added, running⟩
  · simp only [complete, bound, fetching]
  · simp [complete, bound, adding, bindAdded, added, running]

theorem Pending.endFetch (pending : Pending k₀ bid purpose stage answer? k) (own : Secret)
    (ending : Except Fault Lease) :
    k.hasTicket bid.ticket = true ∧ k.endFetch own purpose ending = k ∨
      (purpose = .start bid.ticket → k.hasTicket bid.ticket = false) ∧ ∃ metrics,
        k.endFetch own purpose ending =
          ({ k with metrics }).bindFetched bid.ticket (k₀.binding bid stage) := by
  have bound : k.binds.find? bid.ticket = some (k₀.binding bid stage) := by
    rw [pending.binds]
    exact if_pos rfl
  have asks := pending.asks
  cases asks with
  | register absent =>
    refine Or.inr ⟨by simp, k.metrics, ?_⟩
    exact complete_bound bound (Or.inr ⟨rfl, by simp [binding, absent], pending.started⟩) _
  | start _ =>
    cases busy : k.hasTicket bid.ticket with
    | true => exact Or.inl ⟨rfl, by simp [Keeper.endFetch, endShared, busy]⟩
    | false =>
      refine Or.inr ⟨fun _ => rfl, k.metrics, ?_⟩
      have shared : k.endFetch own (.start bid.ticket) ending = k.complete bid.ticket .done := by
        simp [Keeper.endFetch, endShared, busy]
      exact shared.trans (complete_bound bound (Or.inl rfl) _)
  | rotate _ =>
    have counted : (k.count (.rotation (isOk ending))).binds.find? bid.ticket =
        some (k₀.binding bid .fetching) := bound
    exact Or.inr ⟨by simp, _, complete_bound counted (Or.inl rfl) _⟩

theorem Pending.lull {result : Except Fault Response}
    (pending : Pending k₀ bid purpose stage (some result) k)
    (free : purpose = .start bid.ticket → k.hasTicket bid.ticket = false) :
    Lull k₀ bid.secret [.fetch] k := by
  obtain ⟨news, told, asked⟩ := pending.told
  refine ⟨pending.flights, fun other => List.eq_nil_iff_forall_not_mem.mpr fun flight waiting => ?_,
    news, told, asked.trans (if_neg nofun)⟩
  obtain ⟨rfl, alone, _⟩ := pending.commissions other flight waiting
  have flying := (List.mem_filter.mp waiting).1
  rcases alone with rfl | started
  · rw [pending.flights] at flying
    cases flying
  · have busy := hasTicket_of_flying flying pending.asks.ticket?
    rw [free started] at busy
    cases busy

end LeaseKeeper.Keeper
