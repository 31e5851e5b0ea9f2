import RecordLocks.Proofs.Reachable
namespace RecordLocks.Manager

variable {manager after : Manager} {id : CallId} {session : SessionId} {request : Request}
  {phase : Phase} {seat : Seat} {outcome : Option Outcome} {resource : ResourceId}

theorem resume_served (found : manager.calls.get? id = some ⟨session, request, .waiting⟩)
    (seated : manager.seats.get? session = some seat) (head : seat.line.head? = some id) :
    manager.resume id = manager.serve id ⟨session, request, .waiting⟩ seat := by
  simp [resume, found, seated, isServed, head]

theorem serve_opens (opens : request.opens? = some resource) (live : seat.closed = false) :
    manager.serve id ⟨session, request, .waiting⟩ seat =
      manager.openWindow id ⟨session, request, .waiting⟩ resource := by
  cases request with
  | write | read | checkout =>
    cases opens
    simp [serve, live]
  | edit | commit | discard | locksHeld | removeSession => cases opens

/-- What can happen when a call is resumed does happen: the step is determined by what it finds. -/
theorem resume_of_advance (sound : manager.Sound)
    (found : manager.calls.get? id = some ⟨session, request, phase⟩)
    (seated : manager.seats.get? session = some seat)
    (advanced : Advance manager id session seat request phase outcome after) :
    manager.resume id = (outcome, after) := by
  have here := sound.seats session seat seated
  cases advanced with
  | queued => simp [resume, found, seated, await]
  | behind blocked => simp [resume, found, seated, isServed, blocked]
  | removed head =>
    rw [resume_served found seated head]
    rfl
  | shut head closed other =>
    rw [resume_served found seated head, serve_closed closed other]
    rfl
  | contended head live opens held foreign =>
    rw [resume_served found seated head, serve_opens opens live]
    simp only [openWindow, acquire, applyLocks, LockTable.acquire_of_other held foreign]
    rfl
  | opened head live opens free =>
    rw [resume_served found seated head, serve_opens opens live]
    rw [openWindow, acquire_of_granted free]
    rfl
  | edited field value head live copied =>
    rw [resume_served found seated head]
    simp only [serve, live, serveEdit, Session.edit_of_copy copied]
    rfl
  | notCheckedOut head live missing needs =>
    rw [resume_served found seated head]
    rcases needs with ⟨field, value, rfl⟩ | rfl
    · simp only [serve, live, serveEdit, Session.edit_of_none missing, setSession_same seated,
        Session.notCheckedOut, here.named]
      rfl
    · simp only [serve, live, serveCommit, missing, Session.notCheckedOut, here.named]
      rfl
  | committing head live copied =>
    have held := here.held_of_copy (by rw [copied]; rfl)
    rw [resume_served found seated head]
    simp only [serve, live, serveCommit, copied, acquire_of_own held]
    rfl
  | @discarded resource book head live copied =>
    have dropped : (seat.session.release resource).1 = seat.session.copy? resource := rfl
    rw [resume_served found seated head, closeWindow_of_seat seated]
    simp only [serve, live, serveDiscard, dropped, copied]
    rfl
  | @nothingDiscarded resource head live missing =>
    have dropped : (seat.session.release resource).1 = seat.session.copy? resource := rfl
    rw [resume_served found seated head, closeWindow_of_seat seated]
    simp only [serve, live, serveDiscard, dropped, missing]
    rfl
  | told head live =>
    rw [resume_served found seated head]
    simp only [serve, live]
    rfl
  | vanished missing =>
    simp only [resume, found, seated, load, RecordStore.get, missing]
    rfl
  | @loadedToWrite resource book field value stored =>
    have copied : (seat.session.checkout resource book).2.copy? resource =
        some ((seat.session.copy? resource).getD book) := by
      simp
    simp only [resume, found, seated, load, RecordStore.get, stored, proceed,
      Session.edit_of_copy copied]
    rfl
  | loadedToRead stored =>
    simp only [resume, found, seated, load, RecordStore.get, stored, proceed]
    rfl
  | @checkedOut resource book stored =>
    have copied : (seat.session.checkout resource book).2.copy? resource =
        some ((seat.session.copy? resource).getD book) := by
      simp
    simp only [resume, found, seated, load, RecordStore.get, stored, proceed, copied]
    rfl
  | worked =>
    simp only [resume, found, seated]
    rfl
  | readDone copied =>
    simp only [resume, found, seated, finishRead, Session.readField, copied]
    rfl
  | refused missing =>
    simp only [resume, found, seated, finishWrite, RecordStore.update, RecordStore.contains,
      Index.contains, missing]
    rfl
  | stored present =>
    simp only [resume, found, seated, finishWrite, RecordStore.update, RecordStore.contains,
      Index.contains, present]
    rfl

end RecordLocks.Manager
