import LeaseKeeper.Proofs.Keeper.Joining
import LeaseKeeper.Proofs.Keeper.Ledger
import Mathlib.Data.List.Induction

/-!
Who unregisters a secret. A request may remove it, and else only a bind does that fails, if it had
registered the secret itself when it came. The bind does not ask who has bound the secret since
then, so the source that another bind gave out is left with a secret that nobody keeps. A bind that
found its secret registered fails without a trace.
-/
namespace LeaseKeeper

def Entry.isRefusal (ticket : Nat) : Entry → Bool
  | .returned other (.bound (.error _)) => other == ticket
  | _ => false

theorem Entry.isRefusal_iff {ticket : Nat} {entry : Entry} :
    entry.isRefusal ticket = true ↔ ∃ fault, entry = .returned ticket (.bound (.error fault)) := by
  constructor
  · intro refusal
    unfold Entry.isRefusal at refusal
    split at refusal
    · obtain rfl := eq_of_beq refusal
      exact ⟨_, rfl⟩
    · cases refusal
  · rintro ⟨fault, rfl⟩
    exact beq_self_eq_true ticket

namespace Keeper

variable {k k' k₁ k₂ : Keeper} {secret : Secret} {ticket : Nat} {b : Binding}
  {event : KeeperEvent} {entry : Entry} {P Q : Entry → Prop}

/-! ### What a step logs -/

def Logged (k k' : Keeper) (entry : Entry) : Prop :=
  ∃ fresh, k'.journal = fresh ++ k.journal ∧ ∃ time, (time, entry) ∈ fresh

theorem Logs.logged (logs : Logs P k k') (logged : Logged k k' entry) : P entry := by
  obtain ⟨fresh, journal, plain⟩ := logs
  obtain ⟨fresh', journal', time, member⟩ := logged
  obtain rfl := List.append_cancel_right (journal'.symm.trans journal)
  exact plain _ member

theorem Logged.after (first : Logs P k k₁) (logged : Logged k₁ k' entry) : Logged k k' entry := by
  obtain ⟨early, before, _⟩ := first
  obtain ⟨late, after, time, member⟩ := logged
  exact ⟨late ++ early, by rw [after, before, List.append_assoc], time,
    List.mem_append_left _ member⟩

theorem Logged.split (first : Logs P k k₁) (second : Logs Q k₁ k') (logged : Logged k k' entry) :
    Logged k k₁ entry ∨ Logged k₁ k' entry := by
  obtain ⟨early, before, _⟩ := first
  obtain ⟨late, after, _⟩ := second
  obtain ⟨fresh, journal, time, member⟩ := logged
  have whole : fresh = late ++ early := by
    rw [after, before, ← List.append_assoc] at journal
    exact (List.append_cancel_right journal).symm
  rw [whole] at member
  rcases List.mem_append.mp member with new | old
  · exact Or.inr ⟨late, after, time, new⟩
  · exact Or.inl ⟨early, before, time, old⟩

theorem Logged.of_ended (logs : Logs P k k₁) (ticket : Nat) (answer : KeeperAnswer) :
    Logged k (k₁.ended ticket answer) (.returned ticket answer) := by
  obtain ⟨fresh, journal, _⟩ := logs
  refine ⟨(k₁.now, .returned ticket answer) :: fresh, ?_, k₁.now, List.mem_cons_self⟩
  exact congrArg (List.cons _) journal

theorem logged_of_fresh {p : Entry → Bool} (grown : ∃ fresh, k'.journal = fresh ++ k.journal)
    (found : (k'.journal.take (k'.journal.length - k.journal.length)).any (p ·.2) = true) :
    ∃ entry, p entry = true ∧ Logged k k' entry := by
  obtain ⟨fresh, journal⟩ := grown
  have new : k'.journal.take (k'.journal.length - k.journal.length) = fresh := by
    simp [journal]
  rw [new] at found
  obtain ⟨⟨time, entry⟩, member, holds⟩ := List.any_eq_true.mp found
  exact ⟨entry, holds, fresh, journal, time, member⟩

inductive Tells (ticket : Nat) (removed? : Option Secret) (answer? : Option KeeperAnswer) :
    Entry → Prop where
  | quiet (entry : Entry) (quiet : entry.isQuiet = true) : Tells ticket removed? answer? entry
  | asked (secret : Secret) (errand : Errand) (own : removed? = some secret) :
      Tells ticket removed? answer? (.call secret (.remove ticket) errand)
  | returned (answer : KeeperAnswer) (own : answer? = some answer) :
      Tells ticket removed? answer? (.returned ticket answer)

/-! ### What an operation that ends may do -/

structure Affects (ticket : Nat) (removed? : Option Secret) (answer? : Option KeeperAnswer)
    (k k' : Keeper) : Prop where
  registered : ∀ secret, (k.room secret).registered = true →
    (k'.room secret).registered = true ∨ removed? = some secret
  journal : Logs (Tells ticket removed? answer?) k k'
  binds : ∀ other, other ≠ ticket → k'.binds.find? other = k.binds.find? other

namespace Affects

variable {removed? : Option Secret} {answer? : Option KeeperAnswer}

theorem trans (first : Affects ticket removed? answer? k k₁)
    (second : Affects ticket removed? answer? k₁ k') : Affects ticket removed? answer? k k' := by
  refine ⟨fun secret present => ?_, first.journal.trans second.journal, fun other differ => ?_⟩
  · rcases first.registered secret present with still | gone
    · exact second.registered secret still
    · exact Or.inr gone
  · exact (second.binds other differ).trans (first.binds other differ)

theorem of_frame (rooms : k'.rooms = k.rooms) (journal : k'.journal = k.journal)
    (binds : ∀ other, other ≠ ticket → k'.binds.find? other = k.binds.find? other) :
    Affects ticket removed? answer? k k' :=
  ⟨fun secret present => Or.inl (by rwa [room_of_rooms rooms]), .of_journal journal, binds⟩

theorem of_apart (apart : Apart k k') : Affects ticket removed? answer? k k' :=
  ⟨fun secret present => Or.inl ((apart.rooms secret).registered present),
    apart.journal.mono fun entry quiet => .quiet entry quiet,
    fun other _ => by rw [apart.binds]⟩

theorem release (k : Keeper) (own : Nat) :
    Affects ticket removed? answer? k (k.release own).1 := by
  unfold Keeper.release
  split <;> exact of_frame rfl rfl fun _ _ => rfl

theorem dropSource (k : Keeper) (id : Nat) :
    Affects ticket removed? answer? k (k.dropSource id) := by
  unfold Keeper.dropSource silence
  split <;> exact of_frame rfl rfl fun _ _ => rfl

theorem ended (k : Keeper) (ticket : Nat) (answer : KeeperAnswer) :
    Affects ticket removed? (some answer) k (k.ended ticket answer) :=
  ⟨fun _ => Or.inl, .of_entry (.returned answer rfl) rfl,
    fun _ differ => Table.find?_erase_of_ne differ _⟩

theorem setStage (k : Keeper) (ticket : Nat) (b : Binding) :
    Affects ticket removed? answer? k (k.setStage ticket b) :=
  of_frame rfl rfl fun _ differ => Table.find?_put_of_ne differ b _

theorem ask (k : Keeper) (ticket : Nat) (secret : Secret) (errand : Errand) :
    Affects ticket (some secret) answer? k (k.call secret (.remove ticket) errand) := by
  refine ⟨fun other present => Or.inl ?_, .of_entry (.asked secret errand rfl) rfl, fun _ _ => rfl⟩
  have boarded : ((k.setRoom secret ((k.room secret).board (.remove ticket) errand)).room
      other).registered = (k.room other).registered := read_setRoom Room.registered (by rfl) other
  exact boarded.trans present

theorem remove (k : Keeper) (ticket : Nat) (secret : Secret) :
    Affects ticket (some secret) answer? k (k.remove ticket secret).1 := by
  have gone : Affects ticket (some secret) answer? k (k.without secret) := by
    refine ⟨fun other present => ?_, .of_journal rfl, fun _ _ => rfl⟩
    by_cases same : other = secret
    · exact Or.inr (congrArg some same.symm)
    · exact Or.inl (by rwa [without, room_setRoom_of_ne k secret same])
  cases registered : (k.room secret).registered with
  | false =>
    simp only [Keeper.remove, registered]
    exact of_frame rfl rfl fun _ _ => rfl
  | true =>
    rw [remove_eq k secret ticket registered]
    split
    · rename_i lease current
      split
      · have told : Affects ticket (some secret) answer? (k.without secret)
            ((k.without secret).emit (.beforeRevocation secret lease)) :=
          of_apart (Chore.emitted _ rfl).apart
        exact gone.trans (told.trans (ask _ ticket secret _))
      · exact gone
    · exact gone

end Affects

theorem remove_gone (k : Keeper) (ticket : Nat) (secret : Secret) :
    ((k.remove ticket secret).1.room secret).registered = false := by
  cases registered : (k.room secret).registered with
  | false =>
    have refused : k.remove ticket secret = (k, some false) := by simp [remove, registered]
    rw [refused]
    exact registered
  | true =>
    have gone : ((k.without secret).room secret).registered = false := by
      rw [without, room_setRoom_self]
    rw [remove_eq k secret ticket registered]
    split
    · split
      · exact ((Spares.revoke (k.without secret) secret _ _ _).shuns secret gone).1
      · exact gone
    · exact gone

/-! ### Binds that fail -/

/-- In this step the bind, whose fetch was to be waited for, turns out to return a fault; it may
still have its registration undone first. -/
structure Fails (k k' : Keeper) (ticket : Nat) (b : Binding) : Prop where
  bound : k.binds.find? ticket = some b
  pending : b.isPending = true
  fault : ∃ fault, k'.binds.find? ticket = some { b with stage := .removing fault } ∨
    Logged k k' (.returned ticket (.bound (.error fault)))

theorem Binding.not_removing {b : Binding} {fault : Fault} (pending : b.isPending = true) :
    b ≠ { b with stage := .removing fault } := by
  intro same
  rw [same] at pending
  cases pending

theorem Fails.iff_later (binds : k₁.binds = k.binds)
    (first : Logs (fun entry => ∀ ticket answer, entry ≠ .returned ticket answer) k k₁)
    (second : Logs Q k₁ k') : Fails k k' ticket b ↔ Fails k₁ k' ticket b := by
  constructor
  · rintro ⟨bound, pending, fault, outcome⟩
    refine ⟨binds ▸ bound, pending, fault, outcome.imp_right fun logged => ?_⟩
    rcases Logged.split first second logged with early | late
    · exact absurd rfl (first.logged early _ _)
    · exact late
  · rintro ⟨bound, pending, fault, outcome⟩
    exact ⟨binds ▸ bound, pending, fault, outcome.imp_right (Logged.after first)⟩

theorem Affects.fails_own {removed? : Option Secret} {answer? : Option KeeperAnswer} {own : Nat}
    (affects : Affects own removed? answer? k k') (fails : Fails k k' ticket b) :
    ticket = own := by
  by_contra differ
  obtain ⟨fault, removing | returned⟩ := fails.fault
  · rw [affects.binds ticket differ, fails.bound] at removing
    exact Binding.not_removing fails.pending (Option.some.inj removing)
  · cases affects.journal.logged returned with
    | quiet _ quiet => cases quiet
    | returned => exact differ rfl

theorem Fails.irrefl : ¬ Fails k k ticket b := by
  intro fails
  have nothing : Affects (ticket + 1) none none k k := .of_apart (.refl k)
  exact Nat.succ_ne_self ticket (nothing.fails_own fails).symm

theorem Affects.not_fails {removed? : Option Secret} {answer? : Option KeeperAnswer}
    (affects : Affects ticket removed? answer? k k')
    (settled : ∀ (b : Binding) (fault : Fault),
      k'.binds.find? ticket ≠ some { b with stage := .removing fault })
    (fine : ∀ fault, answer? ≠ some (.bound (.error fault))) (b : Binding) :
    ¬ Fails k k' ticket b := by
  rintro ⟨_, _, fault, removing | returned⟩
  · exact settled b fault removing
  · cases affects.journal.logged returned with
    | quiet _ quiet => cases quiet
    | returned _ own => exact fine fault own

/-- What an operation that ends does to the registrations. -/
inductive Verdict (k : Keeper) (ticket : Nat) (k' : Keeper) : Prop where
  | passes (answer? : Option KeeperAnswer) (affects : Affects ticket none answer? k k')
      (fine : ∀ b, ¬ Fails k k' ticket b) : Verdict k ticket k'
  | fails (b : Binding) (answer? : Option KeeperAnswer)
      (affects : Affects ticket none answer? k k') (fails : Fails k k' ticket b)
      (failFast : b.failFast = true) (foreign : b.added = false) : Verdict k ticket k'
  | undoes (b : Binding) (answer? : Option KeeperAnswer)
      (affects : Affects ticket (some b.secret) answer? k k') (fails : Fails k k' ticket b)
      (failFast : b.failFast = true) (own : b.added = true)
      (gone : (k'.room b.secret).registered = false) : Verdict k ticket k'

theorem ended_settled (k : Keeper) (ticket : Nat) (answer : KeeperAnswer) (b : Binding) :
    (k.ended ticket answer).binds.find? ticket ≠ some b := by
  have erased : (k.ended ticket answer).binds.find? ticket = none :=
    Table.find?_erase_self ticket k.binds
  rw [erased]
  nofun

theorem Concludes.verdict (chores : Chores k k₁) (concludes : Concludes k₁ ticket b k')
    (bound : k.binds.find? ticket = some b) (pending : b.isPending = true) :
    Verdict k ticket k' := by
  have begun {removed? answer?} : Affects ticket removed? answer? k (k₁.release ticket).1 :=
    (Affects.of_apart chores.apart).trans (.release k₁ ticket)
  have undone {answer?} : Affects ticket (some b.secret) answer? k
      ((k₁.release ticket).1.remove ticket b.secret).1 := begun.trans (.remove _ ticket b.secret)
  cases concludes with
  | finished =>
    have finished : Affects ticket none _ k ((k₁.release ticket).1.finishBind ticket) :=
      begun.trans (.ended _ ticket _)
    exact .passes _ finished (finished.not_fails (fun _ _ => ended_settled _ ticket _ _) (by simp))
  | failed fault caught failFast foreign =>
    have dropped {answer?} : Affects ticket none answer? k
        ((k₁.release ticket).1.dropSource ticket) := begun.trans (.dropSource _ ticket)
    have returned : Logged k _ (.returned ticket (.bound (.error fault))) :=
      Logged.of_ended (Affects.journal (@dropped none)) ticket _
    exact .fails b _ (dropped.trans (.ended _ ticket _)) ⟨bound, pending, fault, Or.inr returned⟩
      failFast foreign
  | undone fault flag caught failFast own through =>
    have dropped {answer?} : Affects ticket (some b.secret) answer? k
        (((k₁.release ticket).1.remove ticket b.secret).1.dropSource ticket) :=
      undone.trans (.dropSource _ ticket)
    have returned : Logged k _ (.returned ticket (.bound (.error fault))) :=
      Logged.of_ended (Affects.journal (@dropped none)) ticket _
    have gone := remove_gone (k₁.release ticket).1 ticket b.secret
    have rooms :=
      (failBind_aside ((k₁.release ticket).1.remove ticket b.secret).1 ticket fault).rooms
    exact .undoes b _ (dropped.trans (.ended _ ticket _)) ⟨bound, pending, fault, Or.inr returned⟩
      failFast own (by rw [room_of_rooms rooms]; exact gone)
  | undoing fault caught failFast own waits =>
    exact .undoes b none (undone.trans (.setStage _ ticket _))
      ⟨bound, pending, fault, Or.inl (Table.find?_put_self ticket _ _)⟩ failFast own
      (remove_gone (k₁.release ticket).1 ticket b.secret)

theorem Proceeds.verdict (proceeds : Proceeds k ticket k') : Verdict k ticket k' := by
  cases proceeds with
  | unbound answer free =>
    have noted : Affects ticket none (some answer) k (k.note (.returned ticket answer)) :=
      ⟨fun _ => Or.inl, .of_entry (.returned answer rfl) rfl, fun _ _ => rfl⟩
    refine .passes _ noted fun b fails => ?_
    cases free.symm.trans fails.bound
  | joins b _ bound pending joins =>
    cases joins with
    | waits k₁ chores =>
      have waits : Affects ticket none none k
          (k₁.setStage ticket { b with stage := .fetching }) :=
        (Affects.of_apart chores.apart).trans (.setStage k₁ ticket _)
      refine .passes none waits (waits.not_fails (fun b' fault removing => ?_) (by simp))
      have fetching := Table.find?_put_self ticket { b with stage := .fetching } k₁.binds
      cases congrArg Binding.stage (Option.some.inj (fetching.symm.trans removing))
    | concludes k₁ _ chores concludes => exact concludes.verdict chores bound pending
  | failed b fault bound removing =>
    refine .passes _ ((Affects.dropSource k ticket).trans (.ended _ ticket _)) fun b' fails => ?_
    obtain rfl := Option.some.inj (bound.symm.trans fails.bound)
    have pending := fails.pending
    simp [Binding.isPending, removing] at pending
  | died =>
    have died : Affects ticket none (some .crashed) k
        (((k.release ticket).1.dropSource ticket).ended ticket .crashed) :=
      (Affects.release k ticket).trans ((Affects.dropSource _ ticket).trans (.ended _ ticket _))
    exact .passes _ died (died.not_fails (fun _ _ => ended_settled _ ticket _ _) (by simp))

theorem Alights.verdict (alights : Alights k ticket b k') : Verdict k ticket k' := by
  cases alights with
  | waits k₁ stage chores pending =>
    have waits : Affects ticket none none k (k₁.setStage ticket { b with stage }) :=
      (Affects.of_apart chores.apart).trans (.setStage k₁ ticket _)
    refine .passes none waits (waits.not_fails (fun b' fault removing => ?_) (by simp))
    have staged := Table.find?_put_self ticket { b with stage } k₁.binds
    have same : stage = .removing fault :=
      congrArg Binding.stage (Option.some.inj (staged.symm.trans removing))
    subst same
    rcases pending with ⟨adding, _⟩ | fetching
    · cases adding
    · cases fetching
  | finished k₁ chores =>
    have finished : Affects ticket none _ k ((k₁.release ticket).1.finishBind ticket) :=
      (Affects.of_apart chores.apart).trans ((Affects.release k₁ ticket).trans (.ended _ ticket _))
    exact .passes _ finished (finished.not_fails (fun _ _ => ended_settled _ ticket _ _) (by simp))

/-! ### Whole steps -/

structure Readies (k : Keeper) (event : KeeperEvent) (k₁ : Keeper) : Prop where
  binds : k₁.binds = k.binds
  registered : ∀ secret, (k.room secret).registered = true →
    (k₁.room secret).registered = true ∨ ∃ ticket, event = .request ticket (.remove secret)
  journal : Logs (fun entry => entry.isQuiet = true ∨ ∃ secret ticket errand,
    entry = .call secret (.remove ticket) errand ∧ event = .request ticket (.remove secret)) k k₁

theorem Readies.of_apart (apart : Apart k k') : Readies k event k' :=
  ⟨apart.binds, fun secret present => Or.inl ((apart.rooms secret).registered present),
    apart.journal.mono fun _ => Or.inl⟩

theorem Readies.of_telling (told : Telling k k') (journal : k'.journal = k.journal) :
    Readies k event k' :=
  ⟨told.binds, fun secret present => Or.inl (by rwa [room_of_rooms told.rooms]),
    .of_journal journal⟩

theorem Opens.readies (opens : Opens k event k') : Readies k event k' := by
  cases opens with
  | nothing => exact .of_apart (.refl k)
  | published secret purpose response =>
    refine ⟨emit_binds _ _, fun other present => Or.inl ?_, .of_entry (Or.inl rfl)
      (emit_journal _ (.created secret response.lease response.flattened))⟩
    have landed : ((k.landed secret purpose).room other).registered =
        (k.room other).registered := read_setRoom Room.registered (by rfl) other
    have stored : (((k.landed secret purpose).setRoom secret
        { (k.landed secret purpose).room secret with data := some response.flattened }).room
        other).registered = ((k.landed secret purpose).room other).registered :=
      read_setRoom Room.registered (by rfl) other
    rw [Keeper.published, emit_room]
    exact stored.trans (landed.trans present)
  | removed ticket secret =>
    have affects : Affects ticket (some secret) none k (k.remove ticket secret).1 :=
      .remove k ticket secret
    refine ⟨(Spares.remove k ticket secret).carries.binds, fun other present => ?_,
      affects.journal.mono fun entry tells => ?_⟩
    · exact (affects.registered other present).imp_right fun same =>
        ⟨ticket, by rw [Option.some.inj same]⟩
    · cases tells with
      | quiet _ quiet => exact Or.inl quiet
      | asked other errand own =>
        obtain rfl := Option.some.inj own
        exact Or.inr ⟨secret, ticket, errand, rfl, rfl⟩
      | returned _ own => cases own
  | closed id =>
    refine .of_telling (closeSource_telling k id) ?_
    unfold closeSource silence
    split <;> rfl
  | dropped id =>
    refine .of_telling (dropSource_telling k id) ?_
    unfold dropSource silence
    split <;> rfl

theorem Readies.trans_apart (readies : Readies k event k₁) (apart : Apart k₁ k') :
    Readies k event k' :=
  ⟨apart.binds.trans readies.binds,
    fun secret present => (readies.registered secret present).imp_left
      (apart.rooms secret).registered,
    readies.journal.trans (apart.journal.mono fun _ => Or.inl)⟩

theorem Readies.seeded (k : Keeper) (ticket : Nat) (secret : Secret) (failFast : Bool)
    (start : String) : Readies k event
      ((k.seated ticket secret start).seeded ticket (k.arriving secret failFast)) := by
  obtain ⟨_, frame⟩ :=
    seeded_frame (k.seated ticket secret start) ticket (k.arriving secret failFast)
  rw [frame]
  exact ⟨rfl, fun _ => Or.inl, .of_journal rfl⟩

theorem step_verdict (revokes : k.Revokes) (registers : k.Registers) (event : KeeperEvent) :
    ∃ k₁, Readies k event k₁ ∧ ∃ ticket, Verdict k₁ ticket (k.step event) := by
  rcases event.bind_or_unbinding with ⟨ticket, secret, failFast, start, rfl⟩ | unbinding
  · exact ⟨_, .seeded k ticket secret failFast start, ticket,
      (bind_alights k ticket secret failFast start).verdict⟩
  · obtain ⟨k₀, k₁, opens, chores, ended⟩ := step_proceeds revokes registers unbinding
    refine ⟨k₁, opens.readies.trans_apart chores.apart, ?_⟩
    rcases ended with rests | ⟨ticket, proceeds⟩
    · rw [rests]
      exact ⟨0, .passes none (.of_apart (.refl k₁)) fun b => Fails.irrefl⟩
    · exact ⟨ticket, proceeds.verdict⟩

/-- The secret is removed under this ticket: by request, or by a bind that fails and had registered
the secret itself. -/
def Withdraws (k : Keeper) (event : KeeperEvent) (ticket : Nat) (secret : Secret) : Prop :=
  event = .request ticket (.remove secret) ∨
    ∃ b, Fails k (k.step event) ticket b ∧ b.secret = secret ∧ b.added = true

theorem Readies.fails_iff (readies : Readies k event k₁) (later : Logs Q k₁ k') :
    Fails k k' ticket b ↔ Fails k₁ k' ticket b := by
  refine Fails.iff_later readies.binds (readies.journal.mono ?_) later
  rintro entry (quiet | ⟨_, _, _, rfl, _⟩) ticket answer same
  · subst same
    cases quiet
  · cases same

theorem Verdict.logs {own : Nat} (verdict : Verdict k own k') : ∃ P, Logs P k k' := by
  cases verdict with
  | passes _ affects => exact ⟨_, affects.journal⟩
  | fails _ _ affects => exact ⟨_, affects.journal⟩
  | undoes _ _ affects => exact ⟨_, affects.journal⟩

theorem Verdict.failing {own : Nat} (verdict : Verdict k own k') (fails : Fails k k' ticket b) :
    b.failFast = true ∧ (b.added = true → (k'.room b.secret).registered = false) := by
  -- only the bind of the operation that ends can fail, and a ticket has one bind
  have same {removed? : Option Secret} {answer? : Option KeeperAnswer} {b' : Binding}
      (affects : Affects own removed? answer? k k') (fails' : Fails k k' own b') : b' = b := by
    have bound := fails.bound
    rw [affects.fails_own fails, fails'.bound] at bound
    exact Option.some.inj bound
  cases verdict with
  | passes _ affects fine =>
    have here := affects.fails_own fails
    exact absurd (here ▸ fails) (fine b)
  | fails b' _ affects fails' failFast foreign =>
    obtain rfl := same affects fails'
    exact ⟨failFast, fun added => absurd (foreign.symm.trans added) Bool.false_ne_true⟩
  | undoes b' _ affects fails' failFast _ gone =>
    obtain rfl := same affects fails'
    exact ⟨failFast, fun _ => gone⟩

theorem Verdict.registered {own : Nat} (verdict : Verdict k own k')
    (present : (k.room secret).registered = true) (absent : (k'.room secret).registered = false) :
    ∃ b, Fails k k' own b ∧ b.secret = secret ∧ b.added = true := by
  have lost {removed? : Option Secret} {answer? : Option KeeperAnswer}
      (affects : Affects own removed? answer? k k') : removed? = some secret :=
    (affects.registered secret present).resolve_left (by simp [absent])
  cases verdict with
  | passes _ affects => cases lost affects
  | fails _ _ affects => cases lost affects
  | undoes b _ affects fails _ added => exact ⟨b, fails, Option.some.inj (lost affects), added⟩

theorem Verdict.asked {own : Nat} {errand : Errand} (verdict : Verdict k own k')
    (logged : Logged k k' (.call secret (.remove ticket) errand)) :
    ∃ b, Fails k k' ticket b ∧ b.secret = secret ∧ b.added = true := by
  have told {removed? : Option Secret} {answer? : Option KeeperAnswer}
      (affects : Affects own removed? answer? k k') : ticket = own ∧ removed? = some secret := by
    cases affects.journal.logged logged with
    | quiet _ quiet => cases quiet
    | asked _ _ mine => exact ⟨rfl, mine⟩
  cases verdict with
  | passes _ affects => cases (told affects).2
  | fails _ _ affects => cases (told affects).2
  | undoes b _ affects fails _ added =>
    obtain ⟨rfl, mine⟩ := told affects
    exact ⟨b, fails, Option.some.inj mine, added⟩

theorem step_remove (k : Keeper) (ticket : Nat) (secret : Secret) :
    ((k.step (.request ticket (.remove secret))).room secret).registered = false := by
  have gone := remove_gone k ticket secret
  simp only [step, request]
  generalize k.remove ticket secret = outcome at gone
  obtain ⟨k₁, _ | removed⟩ := outcome
  · exact gone
  · exact ((complete_settles k₁ ticket (.flag removed)).shuns secret gone).1

theorem step_registered_iff (revokes : k.Revokes) (registers : k.Registers)
    (present : (k.room secret).registered = true) :
    ((k.step event).room secret).registered = false ↔
      ∃ ticket, k.Withdraws event ticket secret := by
  obtain ⟨k₁, readies, own, verdict⟩ := step_verdict revokes registers event
  obtain ⟨P, later⟩ := verdict.logs
  constructor
  · intro absent
    rcases readies.registered secret present with still | ⟨ticket, request⟩
    · obtain ⟨b, fails, mine, added⟩ := verdict.registered still absent
      exact ⟨own, Or.inr ⟨b, (readies.fails_iff later).mpr fails, mine, added⟩⟩
    · exact ⟨ticket, Or.inl request⟩
  · rintro ⟨ticket, rfl | ⟨b, fails, rfl, added⟩⟩
    · exact step_remove k ticket secret
    · exact (verdict.failing ((readies.fails_iff later).mp fails)).2 added

theorem step_asked (revokes : k.Revokes) (registers : k.Registers) {errand : Errand}
    (logged : Logged k (k.step event) (.call secret (.remove ticket) errand)) :
    k.Withdraws event ticket secret := by
  obtain ⟨k₁, readies, own, verdict⟩ := step_verdict revokes registers event
  obtain ⟨P, later⟩ := verdict.logs
  rcases Logged.split readies.journal later logged with early | late
  · rcases readies.journal.logged early with quiet | ⟨_, _, _, same, request⟩
    · cases quiet
    · cases same
      exact Or.inl request
  · obtain ⟨b, fails, mine, added⟩ := verdict.asked late
    exact Or.inr ⟨b, (readies.fails_iff later).mpr fails, mine, added⟩

theorem step_failFast (revokes : k.Revokes) (registers : k.Registers)
    (fails : Fails k (k.step event) ticket b) : b.failFast = true := by
  obtain ⟨k₁, readies, own, verdict⟩ := step_verdict revokes registers event
  obtain ⟨P, later⟩ := verdict.logs
  exact (verdict.failing ((readies.fails_iff later).mp fails)).1

/-! ### Where a bind comes from -/

/-- The bind came with the last such request of the ticket, and is to register its secret if that
was not registered when it came. -/
def Came (policy : LeasePolicy) (events : List KeeperEvent) (ticket : Nat) (b : Binding) : Prop :=
  ∃ before start after,
    events = before ++ .request ticket (.bind b.secret b.failFast start) :: after ∧
    (∀ secret failFast start, .request ticket (.bind secret failFast start) ∉ after) ∧
    b.added = !(((new policy).run before).room b.secret).registered

theorem run_came (policy : LeasePolicy) (events : List KeeperEvent)
    (bound : ((new policy).run events).binds.find? ticket = some b) :
    Came policy events ticket b := by
  -- from the end of the run, for the last request of a ticket is the one that counts
  induction events using List.reverseRecOn generalizing b with
  | nil => cases bound
  | append_singleton earlier event ih =>
    have later {b' : Binding} (came : Came policy earlier ticket b') (continues : b'.Continues b)
        (foreign : ∀ secret failFast start,
          event ≠ .request ticket (.bind secret failFast start)) :
        Came policy (earlier ++ [event]) ticket b := by
      obtain ⟨before, start, after, rfl, last, added⟩ := came
      refine ⟨before, start, after ++ [event], ?_, fun secret failFast start member => ?_, ?_⟩
      · rw [continues.secret, continues.failFast, List.append_assoc, List.cons_append]
      · rcases List.mem_append.mp member with old | new
        · exact last secret failFast start old
        · exact foreign secret failFast start (List.mem_singleton.mp new).symm
      · rw [continues.added, continues.secret]
        exact added
    rw [run_append] at bound
    rcases event.bind_or_unbinding with ⟨own, secret, failFast, start, rfl⟩ | unbinding
    · rcases bind_continues _ own secret failFast start bound with
        ⟨differ, old⟩ | ⟨rfl, stage, rfl, _⟩
      · refine later (ih old) (.refl b) fun _ _ _ same => differ ?_
        cases same
        rfl
      · exact ⟨earlier, start, [], rfl, fun _ _ _ => List.not_mem_nil, rfl⟩
    · obtain ⟨b', bound', continues⟩ := step_continues (run_revokes policy earlier)
        (run_registers policy earlier) unbinding bound
      exact later (ih bound') continues (unbinding ticket)

theorem Registers.undoes (registers : k.Registers) (bound : k.binds.find? ticket = some b)
    (undoing : b.isPending = false) : b.added = true := by
  refine registers ticket b bound fun fetching => ?_
  simp [Binding.isPending, fetching] at undoing

/-- In every run, however binds and fetches are interleaved, a step unregisters a secret exactly if
its removal was requested or a bind fails that had registered the secret itself when it came, and
only these ask for the revocation of its lease. Only a fail-fast bind fails, and one that found its
secret registered returns its fault at once: it unregisters and revokes nothing. -/
theorem unregistered_iff_registrant_failed (policy : LeasePolicy) (events : List KeeperEvent)
    (event : KeeperEvent) :
    let k := (new policy).run events
    let k' := k.step event
    (∀ secret, (k.room secret).registered = true →
      ((k'.room secret).registered = false ↔ ∃ ticket, k.Withdraws event ticket secret)) ∧
    (∀ secret ticket errand, Logged k k' (.call secret (.remove ticket) errand) →
      k.Withdraws event ticket secret) ∧
    ∀ ticket b, k.binds.find? ticket = some b → Came policy events ticket b ∧
      (Fails k k' ticket b → b.failFast = true) ∧ (b.isPending = false → b.added = true) := by
  intro k k'
  have revokes : k.Revokes := run_revokes policy events
  have registers : k.Registers := run_registers policy events
  exact ⟨fun secret => step_registered_iff revokes registers,
    fun secret ticket errand => step_asked revokes registers,
    fun ticket b bound => ⟨run_came policy events bound, step_failFast revokes registers,
      registers.undoes bound⟩⟩

/-- A fail-fast bind of a secret whose first fetch failed asks for another one, which fails too. -/
theorem failed_bind_spares_secret :
    let secret : Secret := ⟨"database/creds/app", .rotate⟩
    let events : List KeeperEvent := [.request 1 (.add secret), .request 2 .start, .ask secret 2,
      .answer secret (.start 2) (.fetched (.error (.internal "down"))),
      .request 3 (.bind secret true "")]
    let event : KeeperEvent := .answer secret (.rotate 3) (.fetched (.error (.internal "down")))
    let b : Binding := ⟨secret, true, false, .fetching⟩
    let k := (new .default).run events
    let k' := k.step event
    (k.room secret).registered = true ∧ Fails k k' 3 b ∧ Came .default events 3 b ∧
      (k'.room secret).registered = true := by
  intro secret events event b k k'
  have present : (k.room secret).registered = true := by decide
  have only : k.binds = [(3, b)] := by decide
  have fails : Fails k k' 3 b := by
    obtain ⟨entry, refusal, logged⟩ : ∃ entry : Entry, entry.isRefusal 3 = true ∧
        Logged k k' entry := logged_of_fresh (step_moves k event).journal (by decide)
    obtain ⟨fault, rfl⟩ := Entry.isRefusal_iff.mp refusal
    exact ⟨by rw [only]; rfl, rfl, fault, Or.inr logged⟩
  obtain ⟨withdrawn, _, bound⟩ := unregistered_iff_registrant_failed .default events event
  refine ⟨present, fails, (bound 3 b fails.bound).1, Bool.of_not_eq_false fun absent => ?_⟩
  obtain ⟨ticket, request | ⟨b', fails', _, added⟩⟩ := (withdrawn secret present).mp absent
  · simp [event] at request
  · have bound' : Table.find? ticket k.binds = some b' := fails'.bound
    rw [only] at bound'
    have foreign : b'.added = b.added := by
      have listed := List.mem_singleton.mp (Table.mem_of_find? bound')
      rw [(Prod.mk.inj listed).2]
    exact absurd (added.symm.trans foreign) (by decide)

/-- A fail-fast bind registers a secret, and before its fetch is answered a lenient bind of the same
secret fetches it on its own and gives out a source. The first fetch fails, the fail-fast bind
undoes its registration, the lease of the source is revoked, and the fault is returned. -/
theorem bound_secret_unregistered :
    let secret : Secret := ⟨"database/creds/app", .rotate⟩
    let response : Response := ⟨"", "b", 300, true, some (.record [("k", .text "v")]), none, none⟩
    let k := (new .default).run [.request 1 .start, .request 2 (.bind secret true ""),
      .request 3 (.bind secret false ""), .answer secret (.rotate 3) (.fetched (.ok response))]
    let k' := k.run [.answer secret (.register 2) (.fetched (.error (.internal "down"))),
      .answer secret (.remove 2) (.revoked (.ok ()))]
    k.binds = [(2, ⟨secret, true, true, .adding⟩)] ∧
      k.sources.find? 3 = some ⟨secret, "", .dropOnError, [("k", "v")], .active, 1, 2⟩ ∧
      (k.room secret).registered = true ∧ k.current secret = some ⟨"b", 300, true⟩ ∧
      k'.binds = [] ∧ k'.journal.any (Entry.isRefusal 2 ·.2) = true ∧
      k'.sources.find? 3 = some ⟨secret, "", .dropOnError, [("k", "v")], .revoked, 1, 2⟩ ∧
      (k'.room secret).registered = false ∧ k'.data secret = none ∧
      k'.revocations = [⟨"b", 300, true⟩] := by
  decide

end Keeper
end LeaseKeeper
