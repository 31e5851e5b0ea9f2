import Mathlib.Tactic.ByContra
import RecordLocks.Proofs.Soundness
namespace RecordLocks.Manager

/-- Everything that can happen when a call is resumed: from the call and its seat to the outcome,
if the call ends, and the manager afterwards. -/
inductive Advance (manager : Manager) (id : CallId) (session : SessionId) (seat : Seat) :
    Request → Phase → Option Outcome → Manager → Prop
  | queued {request} :
    Advance manager id session seat request .arriving none
      ((manager.setSeat session { seat with line := seat.line ++ [id] }).setCall id
        ⟨session, request, .waiting⟩)
  | behind {request} (blocked : seat.line.head? ≠ some id) :
    Advance manager id session seat request .waiting none manager
  | removed (head : seat.line.head? = some id) :
    Advance manager id session seat .removeSession .waiting
      (some (.ok (.resources (manager.locks.heldBy session))))
      (((((manager.setSeat session
        { seat with session := seat.session.clear.2, closed := true }).releaseAll session).2).record
        (.sessionRemoved session (manager.locks.heldBy session))).forget id session)
  | shut {request} (head : seat.line.head? = some id) (closed : seat.closed = true)
    (other : request ≠ .removeSession) :
    Advance manager id session seat request .waiting
      (some (.error (.sessionNotFound session))) (manager.forget id session)
  | contended {request resource holder} (head : seat.line.head? = some id)
    (live : seat.closed = false) (opens : request.opens? = some resource)
    (held : manager.locks.holder resource = some holder) (foreign : holder ≠ session) :
    Advance manager id session seat request .waiting
      (some (.error (.lockConflict resource holder)))
      ((manager.record (.lockContention resource holder session)).forget id session)
  | opened {request resource} (head : seat.line.head? = some id) (live : seat.closed = false)
    (opens : request.opens? = some resource)
    (free : ∀ holder, manager.locks.holder resource = some holder → holder = session) :
    Advance manager id session seat request .waiting none
      ((manager.acquire resource session).2.setCall id ⟨session, request, .loading resource⟩)
  | edited {resource book} (field : BookField) (value : String)
    (head : seat.line.head? = some id) (live : seat.closed = false)
    (copied : seat.session.copy? resource = some book) :
    Advance manager id session seat (.edit resource field value) .waiting
      (some (.ok (.book (book.set field value))))
      ((manager.setSession session seat (seat.session.edit resource field value).2).forget
        id session)
  | notCheckedOut {request resource} (head : seat.line.head? = some id)
    (live : seat.closed = false) (missing : seat.session.copy? resource = none)
    (needs : (∃ field value, request = .edit resource field value) ∨ request = .commit resource) :
    Advance manager id session seat request .waiting
      (some (.error (.notCheckedOut session resource))) (manager.forget id session)
  | committing {resource book} (head : seat.line.head? = some id) (live : seat.closed = false)
    (copied : seat.session.copy? resource = some book) :
    Advance manager id session seat (.commit resource) .waiting none
      (manager.setCall id ⟨session, .commit resource, .storing resource book⟩)
  | discarded {resource book} (head : seat.line.head? = some id) (live : seat.closed = false)
    (copied : seat.session.copy? resource = some book) :
    Advance manager id session seat (.discard resource) .waiting (some (.ok (.flag true)))
      (((manager.closeWindow session resource).record (.discarded session resource)).forget
        id session)
  | nothingDiscarded {resource} (head : seat.line.head? = some id) (live : seat.closed = false)
    (missing : seat.session.copy? resource = none) :
    Advance manager id session seat (.discard resource) .waiting (some (.ok (.flag false)))
      ((manager.closeWindow session resource).forget id session)
  | told (head : seat.line.head? = some id) (live : seat.closed = false) :
    Advance manager id session seat .locksHeld .waiting
      (some (.ok (.resources seat.session.checkedOut))) (manager.forget id session)
  | vanished {request resource} (missing : manager.store.books.get? resource = none) :
    Advance manager id session seat request (.loading resource)
      (some (.error (.recordNotFound resource)))
      ((manager.closeWindow session resource).forget id session)
  | loadedToWrite {resource book} (field : BookField) (value : String)
    (stored : manager.store.books.get? resource = some book) :
    Advance manager id session seat (.write resource field value) (.loading resource) none
      ((manager.setSession session seat
        ((seat.session.checkout resource book).2.edit resource field value).2).setCall id
        ⟨session, .write resource field value,
          .writing resource (((seat.session.copy? resource).getD book).set field value)⟩)
  | loadedToRead {resource field book} (stored : manager.store.books.get? resource = some book) :
    Advance manager id session seat (.read resource field) (.loading resource) none
      ((manager.setSession session seat (seat.session.checkout resource book).2).setCall id
        ⟨session, .read resource field, .reading resource field⟩)
  | checkedOut {resource book} (stored : manager.store.books.get? resource = some book) :
    Advance manager id session seat (.checkout resource) (.loading resource)
      (some (.ok (.book ((seat.session.copy? resource).getD book))))
      ((manager.setSession session seat (seat.session.checkout resource book).2).forget id session)
  | worked {request resource edited} :
    Advance manager id session seat request (.writing resource edited) none
      (manager.setCall id ⟨session, request, .storing resource edited⟩)
  | readDone {request resource field book} (copied : seat.session.copy? resource = some book) :
    Advance manager id session seat request (.reading resource field)
      (some (.ok (.text (book.get field))))
      ((manager.closeWindow session resource).forget id session)
  | refused {request resource edited} (missing : manager.store.books.get? edited.id = none) :
    Advance manager id session seat request (.storing resource edited)
      (some (.error (.recordNotFound edited.id)))
      ((manager.closeWindow session resource).forget id session)
  | stored {request resource edited old} (present : manager.store.books.get? edited.id = some old) :
    Advance manager id session seat request (.storing resource edited)
      (some (.ok (.book edited)))
      (((({ manager with store := manager.store.put edited }).record
        (.committed session resource)).closeWindow session resource).forget id session)

variable {manager : Manager} {id : CallId} {session : SessionId} {seat : Seat}
  {resource : ResourceId}

theorem acquire_of_own (held : manager.locks.holder resource = some session) :
    manager.acquire resource session = (.ok (), manager) := by
  simp [acquire, applyLocks, LockTable.acquire_of_own held]

theorem acquire_of_granted
    (free : ∀ holder, manager.locks.holder resource = some holder → holder = session) :
    manager.acquire resource session = (.ok (), (manager.acquire resource session).2) := by
  cases held : manager.locks.holder resource with
  | none => simp [acquire, applyLocks, LockTable.acquire_of_free held]
  | some holder =>
    have own := free holder held
    subst own
    simp [acquire_of_own held]

theorem setSession_same (seated : manager.seats.get? session = some seat) :
    manager.setSession session seat seat.session = manager := by
  simp only [setSession, setSeat]
  rw [Index.insert_of_get? seated]

theorem closeWindow_of_seat (seated : manager.seats.get? session = some seat) :
    manager.closeWindow session resource =
      ((manager.setSession session seat (seat.session.release resource).2).release
        resource session).2 := by
  simp [closeWindow, seated]

theorem openWindow_advance {request : Request} (head : seat.line.head? = some id)
    (live : seat.closed = false) (opens : request.opens? = some resource) :
    Advance manager id session seat request .waiting
      (manager.openWindow id ⟨session, request, .waiting⟩ resource).1
      (manager.openWindow id ⟨session, request, .waiting⟩ resource).2 := by
  by_cases contended : ∃ holder, manager.locks.holder resource = some holder ∧ holder ≠ session
  · obtain ⟨holder, held, foreign⟩ := contended
    simp only [openWindow, acquire, applyLocks, LockTable.acquire_of_other held foreign]
    exact .contended head live opens held foreign
  · have free : ∀ holder, manager.locks.holder resource = some holder → holder = session := by
      intro holder held
      by_contra foreign
      exact contended ⟨holder, held, foreign⟩
    simp only [openWindow]
    rw [acquire_of_granted free]
    exact .opened head live opens free

theorem serve_closed {request : Request} (closed : seat.closed = true)
    (other : request ≠ .removeSession) :
    manager.serve id ⟨session, request, .waiting⟩ seat =
      manager.answer id session (.error (.sessionNotFound session)) := by
  cases request with
  | removeSession => exact absurd rfl other
  | write | read | checkout | edit | commit | discard | locksHeld => simp [serve, closed]

theorem serve_advance (sound : manager.SoundSeat session seat) {request : Request}
    (found : manager.calls.get? id = some ⟨session, request, .waiting⟩)
    (seated : manager.seats.get? session = some seat) (head : seat.line.head? = some id) :
    Advance manager id session seat request .waiting
      (manager.serve id ⟨session, request, .waiting⟩ seat).1
      (manager.serve id ⟨session, request, .waiting⟩ seat).2 := by
  have tally := sound.tally
  rw [phaseAt_head head found] at tally
  by_cases removal : request = .removeSession
  · subst removal
    exact .removed head
  by_cases closed : seat.closed = true
  · rw [serve_closed closed removal]
    exact .shut head closed removal
  have live : seat.closed = false := by simpa using closed
  cases request with
  | write resource field value =>
    simp only [serve, live]
    exact openWindow_advance head live rfl
  | read resource field =>
    simp only [serve, live]
    exact openWindow_advance head live rfl
  | checkout resource =>
    simp only [serve, live]
    exact openWindow_advance head live rfl
  | edit resource field value =>
    cases copied : seat.session.copy? resource with
    | none =>
      simp only [serve, live, serveEdit, Session.edit_of_none copied, setSession_same seated,
        Session.notCheckedOut, sound.named]
      exact .notCheckedOut head live copied (.inl ⟨field, value, rfl⟩)
    | some book =>
      have edited : Advance manager id session seat _ _ _ _ :=
        .edited field value head live copied
      simp only [serve, live, serveEdit]
      rw [Session.edit_of_copy copied] at edited ⊢
      exact edited
  | commit resource =>
    cases copied : seat.session.copy? resource with
    | none =>
      simp only [serve, live, serveCommit, copied, Session.notCheckedOut, sound.named]
      exact .notCheckedOut head live copied (.inr rfl)
    | some book =>
      have held : manager.locks.holder resource = some session :=
        tally.held_of_copy (by rw [copied]; rfl)
      simp only [serve, live, serveCommit, copied, acquire_of_own held]
      exact .committing head live copied
  | discard resource =>
    have dropped : (seat.session.release resource).1 = seat.session.copy? resource := rfl
    simp only [serve, live, serveDiscard, dropped]
    rw [← closeWindow_of_seat seated]
    cases copied : seat.session.copy? resource with
    | none => exact .nothingDiscarded head live copied
    | some book => exact .discarded head live copied
  | locksHeld =>
    simp only [serve, live]
    exact .told head live
  | removeSession => exact absurd rfl removal

theorem load_advance {request : Request} (fits : request.opens? = some resource) :
    Advance manager id session seat request (.loading resource)
      (manager.load id ⟨session, request, .loading resource⟩ seat resource).1
      (manager.load id ⟨session, request, .loading resource⟩ seat resource).2 := by
  cases stored : manager.store.books.get? resource with
  | none =>
    simp only [load, RecordStore.get, stored]
    exact .vanished stored
  | some book =>
    have copied : (seat.session.checkout resource book).2.copy? resource =
        some ((seat.session.copy? resource).getD book) := by
      simp
    simp only [load, RecordStore.get, stored]
    cases request with
    | write asked field value =>
      cases fits
      have written : Advance manager id session seat _ _ _ _ :=
        .loadedToWrite field value stored
      simp only [proceed]
      rw [Session.edit_of_copy copied] at written ⊢
      exact written
    | read asked field =>
      cases fits
      exact .loadedToRead stored
    | checkout asked =>
      cases fits
      simp only [proceed, copied]
      exact .checkedOut stored
    | edit | commit | discard | locksHeld | removeSession => cases fits

theorem finishRead_advance {request : Request} {field : BookField} {book : Book}
    (copied : seat.session.copy? resource = some book) :
    Advance manager id session seat request (.reading resource field)
      (manager.finishRead id ⟨session, request, .reading resource field⟩ seat resource field).1
      (manager.finishRead id ⟨session, request, .reading resource field⟩ seat resource
        field).2 := by
  simp only [finishRead, Session.readField, copied]
  exact .readDone copied

theorem finishWrite_advance {request : Request} {edited : Book} :
    Advance manager id session seat request (.storing resource edited)
      (manager.finishWrite id ⟨session, request, .storing resource edited⟩ resource edited).1
      (manager.finishWrite id ⟨session, request, .storing resource edited⟩ resource edited).2 := by
  cases present : manager.store.books.get? edited.id with
  | none =>
    simp only [finishWrite, RecordStore.update, RecordStore.contains, Index.contains, present]
    exact .refused present
  | some old =>
    simp only [finishWrite, RecordStore.update, RecordStore.contains, Index.contains, present]
    exact .stored present

/-- What resuming a call does to a sound manager. -/
theorem resume_advance (sound : manager.Sound) {request : Request} {phase : Phase}
    (found : manager.calls.get? id = some ⟨session, request, phase⟩)
    (seated : manager.seats.get? session = some seat) :
    Advance manager id session seat request phase (manager.resume id).1 (manager.resume id).2 := by
  have here := sound.seats session seat seated
  have fits := sound.fits id _ found
  cases phase with
  | arriving =>
    simp only [resume, found, seated]
    exact .queued
  | waiting =>
    simp only [resume, found, seated]
    split
    · rename_i served
      exact serve_advance here found seated (by simpa [isServed] using served)
    · rename_i waits
      exact .behind (by simpa [isServed] using waits)
  | loading resource =>
    simp only [resume, found, seated]
    exact load_advance fits
  | writing resource edited =>
    simp only [resume, found, seated]
    exact .worked
  | reading resource field =>
    have head := here.line.head_of_phase found rfl (by simp) (by simp)
    have tally := here.tally
    rw [phaseAt_head head found] at tally
    obtain ⟨book, copied⟩ := Option.isSome_iff_exists.mp tally.2
    simp only [resume, found, seated]
    exact finishRead_advance copied
  | storing resource edited =>
    simp only [resume, found, seated]
    exact finishWrite_advance

/-- Resuming a call changes nothing that belongs to another session. -/
theorem Advance.apart {request : Request} {phase : Phase} {outcome : Option Outcome}
    {after : Manager} (advanced : Advance manager id session seat request phase outcome after)
    (found : manager.calls.get? id = some ⟨session, request, phase⟩) :
    Apart session manager after := by
  cases advanced with
  | queued => exact .setCall (.setSeat _) rfl found rfl rfl
  | behind => exact .refl
  | removed =>
    exact .forget (.record (.trans (.setSeat _) .releaseAll) _) rfl found rfl
  | shut | notCheckedOut | told => exact .forget .refl rfl found rfl
  | contended => exact .forget (.record .refl _) rfl found rfl
  | opened => exact .setCall .acquire rfl found rfl rfl
  | edited | checkedOut => exact .forget (.setSeat _) rfl found rfl
  | committing | worked => exact .setCall .refl rfl found rfl rfl
  | discarded => exact .forget (.record .closeWindow _) (calls_closeWindow _ _ _) found rfl
  | nothingDiscarded | vanished | readDone | refused =>
    exact .forget .closeWindow (calls_closeWindow _ _ _) found rfl
  | loadedToWrite | loadedToRead => exact .setCall (.setSeat _) rfl found rfl rfl
  | @stored request resource edited old present =>
    have stored : Apart session manager { manager with store := manager.store.put edited } :=
      .of_eq rfl rfl rfl rfl rfl
    exact .forget (.trans (.record stored _) .closeWindow) (calls_closeWindow _ _ _) found rfl

/-- Serving a call never lists its session and never opens it again. -/
theorem Advance.reseated {request : Request} {phase : Phase} {outcome : Option Outcome}
    {after : Manager} (advanced : Advance manager id session seat request phase outcome after)
    (seated : manager.seats.get? session = some seat) :
    ∃ changed, after.seats.get? session = some changed ∧ changed.listed = seat.listed ∧
      changed.session.user = seat.session.user ∧
      (seat.closed = true → changed.closed = true) := by
  cases advanced with
  | behind => exact ⟨seat, seated, rfl, rfl, fun closed => closed⟩
  | queued | removed | shut | contended | opened | edited | notCheckedOut | committing | told
  | loadedToWrite | loadedToRead | checkedOut | worked =>
    simp [setSeat, setSession, setCall, record, acquire, releaseAll, applyLocks,
      Index.get?_insert, seated, Session.clear]
  | discarded | nothingDiscarded | vanished | readDone | refused =>
    simp [record, seated, Session.release]
  | stored => simp [record, seated, Session.release]

theorem Advance.calls_other {request : Request} {phase : Phase} {outcome : Option Outcome}
    {after : Manager} (advanced : Advance manager id session seat request phase outcome after)
    {other : CallId} (different : other ≠ id) :
    after.calls.get? other = manager.calls.get? other := by
  cases advanced with
  | behind => rfl
  | queued | opened | committing | loadedToWrite | loadedToRead | worked =>
    simp [setCall, setSeat, setSession, acquire, applyLocks, Index.get?_insert, different.symm]
  | removed | shut | contended | edited | notCheckedOut | told | checkedOut | discarded
  | nothingDiscarded | vanished | readDone | refused =>
    simp [record, setSeat, setSession, releaseAll, applyLocks, Index.get?_erase, different.symm]
  | stored => simp [record, Index.get?_erase, different.symm]

/-- The store stays as it is unless it takes the book that the call waits to store. -/
theorem Advance.store_cases {request : Request} {phase : Phase} {outcome : Option Outcome}
    {after : Manager} (advanced : Advance manager id session seat request phase outcome after) :
    after.store = manager.store ∨ ∃ resource edited, phase = .storing resource edited ∧
      outcome = some (.ok (.book edited)) ∧ after.store = manager.store.put edited := by
  cases advanced with
  | queued | behind | opened | committing | loadedToWrite | loadedToRead | worked => exact .inl rfl
  | removed | shut | contended | edited | notCheckedOut | told | checkedOut | discarded
  | nothingDiscarded | vanished | readDone | refused =>
    left
    simp
  | @stored request resource edited old present =>
    right
    exact ⟨resource, edited, rfl, rfl, by simp⟩

end RecordLocks.Manager
