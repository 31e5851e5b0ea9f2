import RecordLocks.Proofs.Determined
import RecordLocks.Proofs.Teardown
import RecordLocks.Proofs.Footprint
namespace RecordLocks

/-- Some sessions, the calls on them and the records that no other session works on. -/
structure Party where
  sessions : SessionId → Bool
  calls : CallId → Bool
  records : ResourceId → Bool

namespace Party

/-- The entry names a session of the party or one of its records. -/
def concerns (party : Party) : Notice → Bool
  | .lockAcquired resource holder | .lockReleased resource holder =>
    party.records resource || party.sessions holder
  | .lockContention resource holder blocked =>
    party.records resource || party.sessions holder || party.sessions blocked
  | .sessionStarted session _ => party.sessions session
  | .sessionRemoved session released => party.sessions session || released.any party.records
  | .committed session resource | .discarded session resource =>
    party.sessions session || party.records resource

/-- The act is about a call of the party. -/
def owns (party : Party) (act : Act) : Bool := act.call?.any party.calls

/-- A session of the party issues calls of the party about records of the party, and the other
sessions issue other calls about other records. Nothing happens but calls. -/
def admits (party : Party) : Act → Bool
  | .issue id session request =>
    party.calls id == party.sessions session &&
      request.target?.all fun resource => party.records resource == party.sessions session
  | .resume _ | .cancel _ => true
  | .enter _ | .enlist _ | .turnAway _ | .store _ => false

/-- Nothing of the party is different: the stored books and the owners of its records, the working
copies of its sessions, and what has been recorded about either. -/
structure Alike (party : Party) (first second : Manager) : Prop where
  books : ∀ resource, party.records resource = true →
    first.store.books.get? resource = second.store.books.get? resource
  owners : ∀ resource, party.records resource = true →
    first.locks.holder resource = second.locks.holder resource
  copies : ∀ session resource, party.sessions session = true →
    first.copy? session resource = second.copy? session resource
  trail : first.trail.filter party.concerns = second.trail.filter party.concerns

/-- The acts about calls of the party, each with its answer. -/
def replies (party : Party) (manager : Manager) (acts : List Act) :
    List (Act × Option (SessionId × Outcome)) :=
  along Manager.step
    (fun manager act => if party.owns act then [(act, manager.answered? act)] else []) manager acts

end Party

namespace Manager

/-- What a manager has for a party. -/
def part (manager : Manager) (party : Party) : Manager :=
  { manager with
    store := ⟨manager.store.books.restrict party.records⟩
    locks := ⟨manager.locks.owners.restrict party.records⟩
    trail := manager.trail.filter party.concerns
    seats := manager.seats.restrict party.sessions
    calls := manager.calls.restrict party.calls }

/-- The sessions of the party and the others have nothing in common: no call of either is about a
record of the other, or holds the lock of one. -/
structure Separated (manager : Manager) (party : Party) : Prop where
  sound : manager.Sound
  identified : manager.Identified
  calls : ∀ id call, manager.calls.get? id = some call →
    party.calls id = party.sessions call.session
  targets : ∀ id call resource, manager.calls.get? id = some call →
    call.request.target? = some resource →
    party.records resource = party.sessions call.session
  locks : ∀ resource owner, manager.locks.holder resource = some owner →
    party.records resource = party.sessions owner

variable {manager after : Manager} {party : Party} {id : CallId} {session : SessionId}
  {request : Request} {phase : Phase} {seat : Seat} {outcome : Option Outcome}
  {resource : ResourceId}

@[simp] theorem calls_part (manager : Manager) (party : Party) (id : CallId) :
    (manager.part party).calls.get? id =
      if party.calls id then manager.calls.get? id else none :=
  Index.get?_restrict _ _ _

@[simp] theorem seats_part (manager : Manager) (party : Party) (session : SessionId) :
    (manager.part party).seats.get? session =
      if party.sessions session then manager.seats.get? session else none :=
  Index.get?_restrict _ _ _

@[simp] theorem holder_part (manager : Manager) (party : Party) (resource : ResourceId) :
    (manager.part party).locks.holder resource =
      if party.records resource then manager.locks.holder resource else none :=
  Index.get?_restrict _ _ _

@[simp] theorem books_part (manager : Manager) (party : Party) (resource : ResourceId) :
    (manager.part party).store.books.get? resource =
      if party.records resource then manager.store.books.get? resource else none :=
  Index.get?_restrict _ _ _

@[simp] theorem copy?_part (manager : Manager) (party : Party) (session : SessionId)
    (resource : ResourceId) :
    (manager.part party).copy? session resource =
      if party.sessions session then manager.copy? session resource else none := by
  rw [copy?, seats_part]
  split <;> rfl

/-! What is done for a session of the party is done in its part. -/

theorem part_setSeat (own : party.sessions session = true) (seat : Seat) :
    (manager.setSeat session seat).part party = (manager.part party).setSeat session seat := by
  simp [part, setSeat, Index.restrict_insert, own]

theorem part_setSession (own : party.sessions session = true) (seat : Seat)
    (changed : Session) :
    (manager.setSession session seat changed).part party =
      (manager.part party).setSession session seat changed :=
  part_setSeat own _

theorem part_setCall (own : party.calls id = true) (call : Call) :
    (manager.setCall id call).part party = (manager.part party).setCall id call := by
  simp [part, setCall, Index.restrict_insert, own]

theorem part_forget (own : party.sessions session = true) :
    (manager.forget id session).part party = (manager.part party).forget id session := by
  simp only [forget, seats_part, own, if_true]
  cases manager.seats.get? session <;>
    simp [part, setSeat, Index.restrict_insert, Index.restrict_erase, own]

theorem part_record {notice : Notice} (own : party.concerns notice = true) :
    (manager.record notice).part party = (manager.part party).record notice := by
  simp [part, record, own]

theorem part_acquire (own : party.records resource = true) :
    (manager.acquire resource session).2.part party =
      ((manager.part party).acquire resource session).2 := by
  cases held : manager.locks.holder resource with
  | none =>
    have free : (manager.part party).locks.holder resource = none := by simp [held]
    simp only [acquire, applyLocks, LockTable.acquire_of_free held, LockTable.acquire_of_free free]
    simp [part, Index.restrict_insert, Party.concerns, own]
  | some holder =>
    have there : (manager.part party).locks.holder resource = some holder := by simp [held, own]
    by_cases same : holder = session
    · subst same
      rw [acquire_of_own held, acquire_of_own there]
    · simp only [acquire, applyLocks, LockTable.acquire_of_other held same,
        LockTable.acquire_of_other there same]
      simp [part, Party.concerns, own]

theorem part_release (own : party.records resource = true) :
    (manager.release resource session).2.part party =
      ((manager.part party).release resource session).2 := by
  by_cases held : manager.locks.holder resource = some session
  · have there : (manager.part party).locks.holder resource = some session := by simp [held, own]
    simp only [release, applyLocks, LockTable.release_of_own held, LockTable.release_of_own there]
    simp [part, Index.restrict_erase, Party.concerns, own]
  · have there : (manager.part party).locks.holder resource ≠ some session := by simp [held, own]
    simp only [release, applyLocks, LockTable.release_of_other held,
      LockTable.release_of_other there]
    simp [part]

theorem part_closeWindow (own : party.sessions session = true)
    (named : party.records resource = true) :
    (manager.closeWindow session resource).part party =
      (manager.part party).closeWindow session resource := by
  simp only [closeWindow, seats_part, own, if_true]
  cases manager.seats.get? session with
  | none => exact part_release named
  | some seat =>
    simp only
    rw [part_release named, part_setSession own]

theorem part_put {book : Book} (named : party.records book.id = true) :
    part { manager with store := manager.store.put book } party =
      { manager.part party with store := (manager.part party).store.put book } := by
  simp [part, RecordStore.put, Index.restrict_insert, named]

theorem heldBy_part (own : ∀ resource, manager.locks.holder resource = some session →
      party.records resource = true) :
    (manager.part party).locks.heldBy session = manager.locks.heldBy session := by
  apply Index.keys_eq
  intro resource
  rw [← LockTable.heldBy, ← LockTable.heldBy, LockTable.mem_heldBy, LockTable.mem_heldBy,
    holder_part]
  cases named : party.records resource with
  | true => simp
  | false =>
    simp only [Bool.false_eq_true, if_false, reduceCtorEq, false_iff]
    intro held
    rw [own resource held] at named
    cases named

theorem part_releaseAll (mine : party.sessions session = true)
    (own : ∀ resource, manager.locks.holder resource = some session →
      party.records resource = true) :
    (manager.releaseAll session).2.part party =
      ((manager.part party).releaseAll session).2 := by
  have notices : ∀ resource, party.concerns (.lockReleased resource session) = true := by
    intro resource
    simp [Party.concerns, mine]
  have locks : ((manager.releaseAll session).2.part party).locks =
      ((manager.part party).locks.releaseAll session).table := by
    apply LockTable.ext_holder
    intro resource
    rw [holder_part, LockTable.holder_releaseAll, holder_part]
    simp only [releaseAll, applyLocks, LockTable.holder_releaseAll]
    split <;> simp
  have trail : ((manager.releaseAll session).2.part party).trail =
      ((manager.part party).releaseAll session).2.trail := by
    rw [trail_releaseAll, heldBy_part own]
    simp [part, Party.concerns, mine]
  rw [part] at locks trail ⊢
  simp only at locks trail ⊢
  rw [locks, trail]
  rfl

theorem issue_part (own : party.sessions session = true) (mine : party.calls id = true) :
    (manager.part party).issue id session request =
      ((manager.issue id session request).1,
        (manager.issue id session request).2.part party) := by
  cases used : manager.calls.get? id with
  | some call =>
    rw [issue_of_used used, issue_of_used (by simpa [mine] using used)]
  | none =>
    have fresh : (manager.part party).calls.get? id = none := by simp [used]
    have seats : (manager.part party).seats.get? session = manager.seats.get? session := by
      simp [own]
    rcases issue_fresh used session request with ⟨seat, seated, listed, issued⟩ | ⟨unlisted, refused⟩
    · rw [issued, issue_of_listed fresh (seats.trans seated) listed, part_setCall mine,
        part_setSeat own]
    · rw [refused, issue_of_unlisted fresh (by rwa [seats])]

/-- A lock has been held before by its holder, or it is the one that the request asks for. -/
theorem Advance.holder_source
    (advanced : Advance manager id session seat request phase outcome after)
    {owner : SessionId} (held : after.locks.holder resource = some owner) :
    manager.locks.holder resource = some owner ∨
      session = owner ∧ request.target? = some resource := by
  cases advanced with
  | queued | behind | committing | worked | loadedToWrite | loadedToRead => exact .inl held
  | shut | contended | notCheckedOut | told | edited | checkedOut =>
    rw [locks_forget] at held
    exact .inl held
  | removed =>
    left
    simp only [locks_forget, locks_record, releaseAll, applyLocks,
      LockTable.holder_releaseAll] at held
    split at held
    · cases held
    · exact held
  | @opened request asked head live opens free =>
    simp only [setCall, acquire, applyLocks, LockTable.holder_acquire] at held
    split at held
    · rename_i same
      subst same
      cases before : manager.locks.holder asked with
      | none =>
        rw [before] at held
        exact .inr ⟨Option.some.inj held, Request.target?_of_opens opens⟩
      | some holder =>
        rw [before] at held
        exact .inl held
    · exact .inl held
  | discarded | nothingDiscarded | vanished | readDone | refused | stored =>
    left
    simp only [locks_forget, locks_record, locks_closeWindow, LockTable.holder_release] at held
    split at held
    · cases held
    · exact held

namespace Separated

/-- The lock window of a call is open for a record of its side. -/
theorem named (separated : manager.Separated party)
    (found : manager.calls.get? id = some ⟨session, request, phase⟩)
    (opened : phase.window? = some resource) :
    party.records resource = party.sessions session :=
  separated.targets id _ resource found ((separated.sound.fits id _ found).target? opened)

/-- A call of the party does in its part what it does in the whole. -/
theorem advance (separated : manager.Separated party)
    (found : manager.calls.get? id = some ⟨session, request, phase⟩)
    (own : party.sessions session = true)
    (advanced : Advance manager id session seat request phase outcome after) :
    Advance (manager.part party) id session seat request phase outcome (after.part party) := by
  have mine : party.calls id = true := (separated.calls id _ found).trans own
  have target : ∀ resource, request.target? = some resource → party.records resource = true :=
    fun resource named => (separated.targets id _ resource found named).trans own
  have window : ∀ resource, phase.window? = some resource → party.records resource = true :=
    fun resource opened => (separated.named found opened).trans own
  have held : ∀ resource, manager.locks.holder resource = some session →
      party.records resource = true :=
    fun resource held => (separated.locks resource session held).trans own
  cases advanced with
  | queued =>
    rw [part_setCall mine, part_setSeat own]
    exact .queued
  | behind blocked => exact .behind blocked
  | removed head =>
    have own_held : ∀ resource, (manager.setSeat session { seat with
        session := seat.session.clear.2, closed := true }).locks.holder resource = some session →
        party.records resource = true := held
    rw [part_forget own, part_record (by simp [Party.concerns, own]),
      part_releaseAll own own_held, part_setSeat own]
    have removed : Advance (manager.part party) id session seat _ _ _ _ := .removed head
    rw [heldBy_part held] at removed
    exact removed
  | shut head closed other =>
    rw [part_forget own]
    exact .shut head closed other
  | @contended request resource holder head live opens taken foreign =>
    have named := target resource (Request.target?_of_opens opens)
    rw [part_forget own, part_record (by simp [Party.concerns, own])]
    exact .contended head live opens (by simp [named, taken]) foreign
  | @opened request resource head live opens free =>
    have named := target resource (Request.target?_of_opens opens)
    rw [part_setCall mine, part_acquire named]
    refine .opened head live opens ?_
    intro holder taken
    rw [holder_part, if_pos named] at taken
    exact free holder taken
  | edited field value head live copied =>
    rw [part_forget own, part_setSession own]
    exact .edited field value head live copied
  | notCheckedOut head live missing needs =>
    rw [part_forget own]
    exact .notCheckedOut head live missing needs
  | committing head live copied =>
    rw [part_setCall mine]
    exact .committing head live copied
  | discarded head live copied =>
    rw [part_forget own, part_record (by simp [Party.concerns, own]),
      part_closeWindow own (target _ rfl)]
    exact .discarded head live copied
  | nothingDiscarded head live missing =>
    rw [part_forget own, part_closeWindow own (target _ rfl)]
    exact .nothingDiscarded head live missing
  | told head live =>
    rw [part_forget own]
    exact .told head live
  | vanished missing =>
    rw [part_forget own, part_closeWindow own (window _ rfl)]
    exact .vanished (by simp [missing])
  | loadedToWrite field value stored =>
    rw [part_setCall mine, part_setSession own]
    exact .loadedToWrite field value (by simp [target _ rfl, stored])
  | loadedToRead stored =>
    rw [part_setCall mine, part_setSession own]
    exact .loadedToRead (by simp [target _ rfl, stored])
  | checkedOut stored =>
    rw [part_forget own, part_setSession own]
    exact .checkedOut (by simp [target _ rfl, stored])
  | worked =>
    rw [part_setCall mine]
    exact .worked
  | readDone copied =>
    rw [part_forget own, part_closeWindow own (window _ rfl)]
    exact .readDone copied
  | refused missing =>
    rw [part_forget own, part_closeWindow own (window _ rfl)]
    exact .refused (by simp [missing])
  | @stored request resource edited old present =>
    have same : edited.id = resource := separated.identified.id_storing separated.sound found
    have named : party.records edited.id = true := by
      rw [same]
      exact window _ rfl
    rw [part_forget own, part_closeWindow own (window _ rfl),
      part_record (by simp [Party.concerns, own]), part_put named]
    have there : (manager.part party).store.books.get? edited.id = some old := by
      simp [named, present]
    exact .stored there

theorem holder_part_iff (separated : manager.Separated party)
    (own : party.sessions session = true) (resource : ResourceId) :
    (manager.part party).locks.holder resource = some session ↔
      manager.locks.holder resource = some session := by
  rw [holder_part]
  cases named : party.records resource with
  | true => simp
  | false =>
    simp only [Bool.false_eq_true, if_false, reduceCtorEq, false_iff]
    intro held
    have same := separated.locks resource session held
    rw [named, own] at same
    cases same

theorem calls_part_iff (separated : manager.Separated party) (id : CallId) {call : Call}
    (own : party.sessions call.session = true) :
    (manager.part party).calls.get? id = some call ↔ manager.calls.get? id = some call := by
  rw [calls_part]
  cases mine : party.calls id with
  | true => simp
  | false =>
    simp only [Bool.false_eq_true, if_false, reduceCtorEq, false_iff]
    intro found
    have same := separated.calls id call found
    rw [mine, own] at same
    cases same

theorem seat_part (separated : manager.Separated party) (own : party.sessions session = true)
    (here : manager.SoundSeat session seat) : (manager.part party).SoundSeat session seat := by
  have kept : ∀ id request phase,
      (manager.part party).calls.get? id = some ⟨session, request, phase⟩ ↔
        manager.calls.get? id = some ⟨session, request, phase⟩ :=
    fun id _ _ => separated.calls_part_iff id own
  have line : InLine (manager.part party).calls session seat.line := by
    refine ⟨here.line.nodup, ?_, ?_⟩
    · intro id
      rw [here.line.mem_iff id]
      constructor
      · rintro ⟨call, found, rfl, arrived⟩
        exact ⟨call, (separated.calls_part_iff id own).mpr found, rfl, arrived⟩
      · rintro ⟨call, found, rfl, arrived⟩
        exact ⟨call, (separated.calls_part_iff id own).mp found, rfl, arrived⟩
    · intro id member
      obtain ⟨request, waits⟩ := here.line.behind id member
      exact ⟨request, (kept id request .waiting).mpr waits⟩
  have phase : (manager.part party).phaseAt seat = manager.phaseAt seat := by
    cases served : seat.line with
    | nil => simp [phaseAt, served?, served]
    | cons first rest =>
      obtain ⟨call, found, rfl, -⟩ := (here.line.mem_iff first).mp (by simp [served])
      have head : seat.line.head? = some first := by rw [served]; rfl
      rw [phaseAt_head head found,
        phaseAt_head head ((separated.calls_part_iff first own).mpr found)]
  refine ⟨here.named, line, ?_, ?_, ?_⟩
  · simp only [phase, separated.holder_part_iff own]
    exact here.tally
  · intro id phase found
    exact here.leaving id phase ((kept id _ phase).mp found)
  · simp only [ne_eq, separated.holder_part_iff own]
    exact here.closed

/-- A part of a sound manager is sound. -/
theorem sound_part (separated : manager.Separated party) : (manager.part party).Sound := by
  have seated : ∀ session, party.sessions session = true →
      (manager.part party).seats.get? session = manager.seats.get? session := by
    intro session own
    rw [seats_part, if_pos own]
  constructor
  · intro id call found
    rw [calls_part] at found
    split at found
    · rename_i mine
      rw [seated _ ((separated.calls id call found).symm.trans mine)]
      exact separated.sound.seated id call found
    · cases found
  · intro resource owner held
    rw [holder_part] at held
    split at held
    · rename_i named
      rw [seated _ ((separated.locks resource owner held).symm.trans named)]
      exact separated.sound.owned resource owner held
    · cases held
  · intro id call found
    rw [calls_part] at found
    split at found
    · exact separated.sound.fits id call found
    · cases found
  · intro session seat found
    rw [seats_part] at found
    split at found
    · rename_i own
      exact separated.seat_part own (separated.sound.seats session seat found)
    · cases found

/-- What only a session outside the party takes part in leaves the part of the party as it is, if
it leaves its records alone and tells nothing that concerns it. -/
theorem part_of_apart (before : manager.Separated party) (later : after.Separated party)
    (apart : Apart session manager after) (foreign : party.sessions session = false)
    (books : ∀ resource, party.records resource = true →
      after.store.books.get? resource = manager.store.books.get? resource)
    (trail : after.trail.filter party.concerns = manager.trail.filter party.concerns) :
    after.part party = manager.part party := by
  have other : ∀ owner, party.sessions owner = true → owner ≠ session := by
    rintro owner own rfl
    rw [foreign] at own
    cases own
  have store : after.store.books.restrict party.records =
      manager.store.books.restrict party.records := by
    apply Index.ext_get?
    intro resource
    rw [Index.get?_restrict, Index.get?_restrict]
    cases named : party.records resource with
    | false => rfl
    | true => exact books resource named
  have seats : after.seats.restrict party.sessions = manager.seats.restrict party.sessions := by
    apply Index.ext_get?
    intro owner
    rw [Index.get?_restrict, Index.get?_restrict]
    cases own : party.sessions owner with
    | false => rfl
    | true => exact apart.seats owner (other owner own)
  have locks : after.locks.owners.restrict party.records =
      manager.locks.owners.restrict party.records := by
    apply Index.ext_get?
    intro resource
    rw [Index.get?_restrict, Index.get?_restrict]
    cases named : party.records resource with
    | false => rfl
    | true =>
      apply Option.ext
      intro owner
      constructor
      · intro held
        have own := (later.locks resource owner held).symm.trans named
        exact (apart.locks resource owner (other owner own)).mp held
      · intro held
        have own := (before.locks resource owner held).symm.trans named
        exact (apart.locks resource owner (other owner own)).mpr held
  have calls : after.calls.restrict party.calls = manager.calls.restrict party.calls := by
    apply Index.ext_get?
    intro id
    rw [Index.get?_restrict, Index.get?_restrict]
    cases mine : party.calls id with
    | false => rfl
    | true =>
      apply Option.ext
      intro call
      constructor
      · intro found
        have own := (later.calls id call found).symm.trans mine
        exact (apart.calls id call (other _ own)).mp found
      · intro found
        have own := (before.calls id call found).symm.trans mine
        exact (apart.calls id call (other _ own)).mpr found
  simp only [part, store, seats, locks, calls, trail, apart.nextSession, apart.entrants]

theorem step (separated : manager.Separated party) {act : Act}
    (admitted : party.admits act = true) : (manager.step act).Separated party := by
  have sound : (manager.step act).Sound := by
    cases act with
    | enter | enlist | turnAway | store => cases admitted
    | issue id session request => exact separated.sound.issue
    | cancel id => exact separated.sound.cancel
    | resume id =>
      cases found : manager.calls.get? id with
      | none =>
        rw [Manager.step, resume_of_none found]
        exact separated.sound
      | some call => exact separated.sound.resume found
  have called : ∀ id call, (manager.step act).calls.get? id = some call →
      party.calls id = party.sessions call.session ∧
        ∀ resource, call.request.target? = some resource →
          party.records resource = party.sessions call.session := by
    intro id call found
    rcases call_of_step separated.sound found with ⟨phase, before⟩ | ⟨rfl, -⟩
    · have side := separated.calls id _ before
      have sides := fun resource => separated.targets id _ resource before
      exact ⟨side, sides⟩
    · simp only [Party.admits, Bool.and_eq_true, beq_iff_eq, Option.all_eq_true] at admitted
      exact admitted
  refine ⟨sound, separated.identified.step separated.sound act, ?_, ?_, ?_⟩
  · intro id call found
    exact (called id call found).1
  · intro id call resource found
    exact (called id call found).2 resource
  · intro resource owner held
    have kept : manager.locks.holder resource = some owner →
        party.records resource = party.sessions owner := separated.locks resource owner
    cases act with
    | enter | enlist | turnAway | store => cases admitted
    | issue id session request =>
      rcases issue_cases manager id session request with same | ⟨seat, -, -, -, issued⟩
      · rw [Manager.step, same] at held
        exact kept held
      · rw [Manager.step, issued] at held
        exact kept held
    | resume id =>
      cases found : manager.calls.get? id with
      | none =>
        rw [Manager.step, resume_of_none found] at held
        exact kept held
      | some call =>
        obtain ⟨seat, seated⟩ := separated.sound.seated id call found
        have advanced := resume_advance separated.sound found seated
        rcases advanced.holder_source held with before | ⟨rfl, target⟩
        · exact kept before
        · exact separated.targets id call resource found target
    | cancel id =>
      cases found : manager.calls.get? id with
      | none =>
        rw [Manager.step, cancel_of_none found] at held
        exact kept held
      | some call =>
        cases opened : call.phase.window? with
        | none =>
          rw [Manager.step, cancel_of_outside found opened, locks_forget] at held
          exact kept held
        | some asked =>
          rw [Manager.step, cancel_of_window found opened, locks_forget, locks_closeWindow,
            LockTable.holder_release] at held
          split at held
          · cases held
          · exact kept held

theorem resume (separated : manager.Separated party) (id : CallId) :
    (manager.resume id).2.Separated party := by
  have stepped : (manager.step (.resume id)).Separated party := separated.step rfl
  exact stepped

theorem cancel (separated : manager.Separated party) (id : CallId) :
    (manager.cancel id).Separated party := by
  have stepped : (manager.step (.cancel id)).Separated party := separated.step rfl
  exact stepped

/-- Giving back a lock of a record outside the party does not concern it. -/
theorem quiet_release (foreign : party.sessions session = false)
    (unnamed : party.records resource = false) :
    (manager.locks.release resource session).notices.filter party.concerns = [] := by
  simp only [LockTable.release]
  split <;> simp [Party.concerns, foreign, unnamed]

/-- A call outside the party does nothing in its part. -/
theorem advance_other (separated : manager.Separated party)
    (found : manager.calls.get? id = some ⟨session, request, phase⟩)
    (foreign : party.sessions session = false) (later : after.Separated party)
    (advanced : Advance manager id session seat request phase outcome after) :
    after.part party = manager.part party := by
  have target : ∀ resource, request.target? = some resource → party.records resource = false :=
    fun resource named => (separated.targets id _ resource found named).trans foreign
  have window : ∀ resource, phase.window? = some resource → party.records resource = false :=
    fun resource opened => (separated.named found opened).trans foreign
  have held : ∀ resource, manager.locks.holder resource = some session →
      party.records resource = false :=
    fun resource held => (separated.locks resource session held).trans foreign
  apply separated.part_of_apart later (advanced.apart found) foreign
  -- A book is put under its own id, which is the one of the record that the call works on.
  · intro resource named
    rcases advanced.store_cases with same | ⟨asked, edited, rfl, -, put⟩
    · rw [same]
    · have same : edited.id = asked := separated.identified.id_storing separated.sound found
      have different : edited.id ≠ resource := by
        intro equal
        have unnamed := window asked rfl
        rw [← same, equal, named] at unnamed
        cases unnamed
      rw [put, RecordStore.get?_put, if_neg different]
  · cases advanced with
    | queued | behind | committing | worked | loadedToWrite | loadedToRead => rfl
    | shut | notCheckedOut | told | edited | checkedOut => simp
    | removed =>
      have released : ∀ resource ∈ manager.locks.heldBy session,
          ¬ party.records resource = true := by
        intro resource member
        simp [held resource (LockTable.mem_heldBy.mp member)]
      have quiet : ((manager.locks.heldBy session).map (.lockReleased · session)).filter
          party.concerns = [] := by
        rw [List.filter_eq_nil_iff]
        intro notice member
        obtain ⟨resource, inside, rfl⟩ := List.mem_map.mp member
        simpa [Party.concerns, foreign] using released resource inside
      simpa [quiet, Party.concerns, foreign] using released
    | @contended request resource holder head live opens taken other =>
      have unnamed := target resource (Request.target?_of_opens opens)
      have outside := (separated.locks resource holder taken).symm.trans unnamed
      simp [Party.concerns, unnamed, outside, foreign]
    | @opened request resource head live opens free =>
      have unnamed := target resource (Request.target?_of_opens opens)
      have quiet : (manager.locks.acquire resource session).notices.filter party.concerns = [] := by
        cases taken : manager.locks.holder resource with
        | none => simp [LockTable.acquire_of_free taken, Party.concerns, unnamed, foreign]
        | some holder =>
          rw [LockTable.acquire_of_own (free holder taken ▸ taken)]
          rfl
      simp [setCall, acquire, applyLocks, quiet]
    | @discarded resource =>
      have unnamed := target resource rfl
      simp [Party.concerns, unnamed, foreign, quiet_release foreign unnamed]
    | @nothingDiscarded resource => simp [quiet_release foreign (target resource rfl)]
    | @vanished request resource | @readDone request resource | @refused request resource =>
      simp [quiet_release foreign (window resource rfl)]
    | @stored request resource =>
      have unnamed := window resource rfl
      simp [Party.concerns, unnamed, foreign, quiet_release foreign unnamed]

theorem resume_own (separated : manager.Separated party) (mine : party.calls id = true) :
    (manager.part party).resume id =
      ((manager.resume id).1, (manager.resume id).2.part party) := by
  cases found : manager.calls.get? id with
  | none =>
    rw [resume_of_none found, resume_of_none (by simp [found])]
  | some call =>
    obtain ⟨session, request, phase⟩ := call
    have own : party.sessions session = true := (separated.calls id _ found).symm.trans mine
    obtain ⟨seat, seated⟩ := separated.sound.seated id _ found
    have advanced := resume_advance separated.sound found seated
    exact resume_of_advance separated.sound_part (by simp [mine, found]) (by simp [own, seated])
      (separated.advance found own advanced)

theorem part_resume_other (separated : manager.Separated party)
    (outside : party.calls id = false) :
    (manager.resume id).2.part party = manager.part party := by
  cases found : manager.calls.get? id with
  | none => rw [resume_of_none found]
  | some call =>
    have foreign := (separated.calls id call found).symm.trans outside
    obtain ⟨seat, seated⟩ := separated.sound.seated id call found
    have later := separated.resume id
    exact separated.advance_other found foreign later
      (resume_advance separated.sound found seated)

theorem cancel_own (separated : manager.Separated party) (mine : party.calls id = true) :
    (manager.part party).cancel id = (manager.cancel id).part party := by
  cases found : manager.calls.get? id with
  | none => rw [cancel_of_none found, cancel_of_none (by simp [found])]
  | some call =>
    have own := (separated.calls id call found).symm.trans mine
    have there : (manager.part party).calls.get? id = some call := by simp [mine, found]
    cases opened : call.phase.window? with
    | none =>
      rw [cancel_of_outside found opened, cancel_of_outside there opened, part_forget own]
    | some resource =>
      have named := (separated.named found opened).trans own
      rw [cancel_of_window found opened, cancel_of_window there opened, part_forget own,
        part_closeWindow own named]

theorem part_cancel_other (separated : manager.Separated party)
    (outside : party.calls id = false) :
    (manager.cancel id).part party = manager.part party := by
  have later := separated.cancel id
  cases found : manager.calls.get? id with
  | none => rw [cancel_of_none found]
  | some call =>
    have foreign := (separated.calls id call found).symm.trans outside
    apply separated.part_of_apart later (apart_cancel found) foreign
    · intro resource named
      rw [store_cancel]
    · cases opened : call.phase.window? with
      | none => simp [cancel_of_outside found opened]
      | some resource =>
        have unnamed := (separated.named found opened).trans foreign
        simp [cancel_of_window found opened, quiet_release foreign unnamed]

theorem part_issue_other (separated : manager.Separated party)
    (admitted : party.admits (.issue id session request) = true)
    (outside : party.calls id = false) :
    (manager.issue id session request).2.part party = manager.part party := by
  have later : (manager.issue id session request).2.Separated party := separated.step admitted
  have foreign : party.sessions session = false := by
    simp only [Party.admits, Bool.and_eq_true, beq_iff_eq] at admitted
    rw [← admitted.1, outside]
  apply separated.part_of_apart later apart_issue foreign
  · intro resource named
    rw [store_issue]
  · rw [trail_issue]

theorem part_step (separated : manager.Separated party) {act : Act}
    (admitted : party.admits act = true) :
    (manager.step act).part party =
      if party.owns act then (manager.part party).step act else manager.part party := by
  cases act with
  | enter | enlist | turnAway | store => cases admitted
  | issue id session request =>
    cases mine : party.calls id with
    | true =>
      have own : party.sessions session = true := by
        simp only [Party.admits, Bool.and_eq_true, beq_iff_eq] at admitted
        rw [← admitted.1, mine]
      simp [Party.owns, Act.call?, mine, Manager.step, issue_part own mine]
    | false =>
      simp [Party.owns, Act.call?, mine, Manager.step,
        separated.part_issue_other admitted mine]
  | resume id =>
    cases mine : party.calls id with
    | true => simp [Party.owns, Act.call?, mine, Manager.step, separated.resume_own mine]
    | false => simp [Party.owns, Act.call?, mine, Manager.step, separated.part_resume_other mine]
  | cancel id =>
    cases mine : party.calls id with
    | true => simp [Party.owns, Act.call?, mine, Manager.step, separated.cancel_own mine]
    | false => simp [Party.owns, Act.call?, mine, Manager.step, separated.part_cancel_other mine]

theorem answered?_part (separated : manager.Separated party) {act : Act}
    (admitted : party.admits act = true) (own : party.owns act = true) :
    (manager.part party).answered? act = manager.answered? act := by
  cases act with
  | enter | enlist | turnAway | store => cases admitted
  | cancel id => rfl
  | issue id session request =>
    have mine : party.calls id = true := own
    have own : party.sessions session = true := by
      simp only [Party.admits, Bool.and_eq_true, beq_iff_eq] at admitted
      rw [← admitted.1, mine]
    simp [answered?, issue_part own mine]
  | resume id =>
    have mine : party.calls id = true := own
    simp [answered?, separated.resume_own mine, mine]

/-- What the calls of the party do, and how they are answered, depends on their own acts alone. -/
theorem run (separated : manager.Separated party) (acts : List Act)
    (admitted : ∀ act ∈ acts, party.admits act = true) :
    (manager.run acts).part party = (manager.part party).run (acts.filter party.owns) ∧
      party.replies manager acts =
        party.replies (manager.part party) (acts.filter party.owns) := by
  induction acts generalizing manager with
  | nil => exact ⟨rfl, rfl⟩
  | cons act rest ih =>
    have first := admitted act (by simp)
    have stepped := separated.part_step first
    obtain ⟨same, told⟩ := ih (separated.step first)
      fun later member => admitted later (List.mem_cons_of_mem _ member)
    cases own : party.owns act with
    | true =>
      rw [own, if_pos rfl] at stepped
      rw [stepped] at same told
      have answer := separated.answered?_part first own
      rw [List.filter_cons_of_pos own]
      refine ⟨same, ?_⟩
      simp only [Party.replies, along, own, answer, if_true]
      exact congrArg _ told
    | false =>
      rw [own, if_neg (by simp)] at stepped
      rw [stepped] at same told
      rw [List.filter_cons_of_neg (by simp [own])]
      refine ⟨same, ?_⟩
      rw [← told]
      simp [Party.replies, along, own]

end Separated

theorem alike_of_part {first second : Manager} (same : first.part party = second.part party) :
    party.Alike first second := by
  constructor
  · intro resource named
    have both := books_part first party resource
    rw [same, books_part, if_pos named, if_pos named] at both
    exact both.symm
  · intro resource named
    have both := holder_part first party resource
    rw [same, holder_part, if_pos named, if_pos named] at both
    exact both.symm
  · intro session resource own
    have both := copy?_part first party session resource
    rw [same, copy?_part, if_pos own, if_pos own] at both
    exact both.symm
  · have trail : (first.part party).trail = first.trail.filter party.concerns := rfl
    rw [← trail, same]
    rfl

end Manager

end RecordLocks
