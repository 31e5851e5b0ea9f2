import RecordLocks.Proofs.Determined
namespace RecordLocks

/-- What a session's seat has of a call that comes to it: a call that has just been issued may
unlist the session, and afterwards the call stands in the line behind the others. -/
def Seat.receive (seat : Seat) (id : CallId) (call : Call) : Seat :=
  match call.phase with
  | .arriving => { seat with listed := seat.listed && call.request ≠ .removeSession }
  | _ => { seat with line := seat.line ++ [id] }

namespace Seat

variable (seat : Seat) (id : CallId) (call : Call)

@[simp] theorem session_receive : (seat.receive id call).session = seat.session := by
  simp only [receive]
  split <;> rfl

@[simp] theorem closed_receive : (seat.receive id call).closed = seat.closed := by
  simp only [receive]
  split <;> rfl

theorem receive_turnTo (session : Session) :
    { seat with session := session }.receive id call =
      { seat.receive id call with session := session } := by
  simp only [receive]
  split <;> rfl

theorem receive_shut (session : Session) :
    { seat with session := session, closed := true }.receive id call =
      { seat.receive id call with session := session, closed := true } := by
  simp only [receive]
  split <;> rfl

/-- Nobody who stands in the line notices who comes behind. -/
theorem head_receive {other : CallId} (different : id ≠ other) :
    (seat.receive id call).line.head? = some other ↔ seat.line.head? = some other := by
  simp only [receive]
  split
  · rfl
  · cases seat.line with
    | nil => simp [different]
    | cons first rest => rfl

theorem receive_leave {other : CallId} (different : id ≠ other) :
    { seat with line := seat.line.erase other }.receive id call =
      { seat.receive id call with line := (seat.receive id call).line.erase other } := by
  simp only [receive]
  split
  · rfl
  · have last : [id].erase other = [id] := List.erase_of_not_mem (by simpa using different.symm)
    by_cases inside : other ∈ seat.line
    · rw [List.erase_append_left _ inside]
    · rw [List.erase_append_right _ inside, List.erase_of_not_mem inside, last]

end Seat

namespace Manager

/-- A call comes to its session. -/
def receive (manager : Manager) (id : CallId) (call : Call) : Manager :=
  match manager.seats.get? call.session with
  | none => manager
  | some seat => (manager.setSeat call.session (seat.receive id call)).setCall id call

variable {manager after : Manager} {id other : CallId} {call : Call} {seat : Seat}
  {session : SessionId} {request : Request} {phase : Phase} {outcome : Option Outcome}
  {resource : ResourceId}

theorem receive_of_seat (seated : manager.seats.get? call.session = some seat) (id : CallId) :
    manager.receive id call =
      (manager.setSeat call.session (seat.receive id call)).setCall id call := by
  simp [receive, seated]

theorem seats_receive (seated : manager.seats.get? call.session = some seat) (id : CallId) :
    (manager.receive id call).seats.get? call.session = some (seat.receive id call) := by
  simp [receive_of_seat seated, setCall, setSeat, Index.get?_insert]

theorem calls_receive_other (different : id ≠ other) :
    (manager.receive id call).calls.get? other = manager.calls.get? other := by
  simp only [receive]
  split
  · rfl
  · simp [setCall, setSeat, Index.get?_insert, different]

/-! What is done for a call that is being served does not depend on who comes behind it. -/

theorem receive_record (notice : Notice) :
    (manager.record notice).receive id call = (manager.receive id call).record notice := by
  simp only [receive, record]
  split <;> rfl

theorem receive_acquire (owner : SessionId) :
    (manager.acquire resource owner).2.receive id call =
      ((manager.receive id call).acquire resource owner).2 := by
  simp only [receive, acquire, applyLocks]
  split <;> rfl

theorem receive_release (owner : SessionId) :
    (manager.release resource owner).2.receive id call =
      ((manager.receive id call).release resource owner).2 := by
  simp only [receive, release, applyLocks]
  split <;> rfl

theorem receive_releaseAll (owner : SessionId) :
    (manager.releaseAll owner).2.receive id call =
      ((manager.receive id call).releaseAll owner).2 := by
  simp only [receive, releaseAll, applyLocks]
  split <;> rfl

theorem receive_put (book : Book) :
    { manager with store := manager.store.put book }.receive id call =
      { manager.receive id call with store := (manager.receive id call).store.put book } := by
  simp only [receive]
  split <;> rfl

@[simp] theorem locks_receive : (manager.receive id call).locks = manager.locks := by
  simp only [receive]
  split <;> rfl

@[simp] theorem store_receive : (manager.receive id call).store = manager.store := by
  simp only [receive]
  split <;> rfl

theorem receive_setCall (different : id ≠ other) (served : Call) :
    (manager.setCall other served).receive id call =
      (manager.receive id call).setCall other served := by
  simp only [receive, setCall]
  split
  · rfl
  · simp [setSeat, Index.insert_comm _ different]

theorem receive_setSeat (seated : manager.seats.get? call.session = some seat) (changed : Seat) :
    (manager.setSeat call.session changed).receive id call =
      (manager.receive id call).setSeat call.session (changed.receive id call) := by
  simp [receive, seated, setSeat, setCall, Index.get?_insert]

theorem receive_setSession (seated : manager.seats.get? call.session = some seat)
    (session : Session) :
    (manager.setSession call.session seat session).receive id call =
      (manager.receive id call).setSession call.session (seat.receive id call) session := by
  rw [setSession, setSession, receive_setSeat seated, Seat.receive_turnTo]

theorem receive_forget (different : id ≠ other) :
    (manager.forget other call.session).receive id call =
      (manager.receive id call).forget other call.session := by
  cases seated : manager.seats.get? call.session with
  | none => simp [receive, forget, seated]
  | some seat =>
    simp [receive, forget, seated, setSeat, setCall, Index.get?_insert,
      Index.erase_insert_comm _ different, Seat.receive_leave _ _ _ different]

theorem receive_closeWindow :
    (manager.closeWindow call.session resource).receive id call =
      (manager.receive id call).closeWindow call.session resource := by
  cases seated : manager.seats.get? call.session with
  | none =>
    simp only [receive_release, closeWindow, seated]
    simp [receive, seated]
  | some seat =>
    rw [closeWindow_of_seat seated, receive_release, receive_setSession seated,
      closeWindow_of_seat (seats_receive seated id), Seat.session_receive]

/-- Whatever a call does next, it does as well when another one comes behind it. -/
theorem Advance.receive
    (advanced : Advance manager other call.session seat request phase outcome after)
    (seated : manager.seats.get? call.session = some seat) (different : id ≠ other)
    (apart : call.phase = .arriving ∨ phase ≠ .arriving) :
    Advance (manager.receive id call) other call.session (seat.receive id call) request phase
      outcome (after.receive id call) := by
  have head : seat.line.head? = some other → (seat.receive id call).line.head? = some other :=
    (seat.head_receive id call different).mpr
  cases advanced with
  | queued =>
    have issued : call.phase = .arriving := apart.resolve_right (fun other => other rfl)
    rw [receive_setCall different, receive_setSeat seated]
    have line : ({ seat with line := seat.line ++ [other] } : Seat).receive id call =
        { seat.receive id call with line := (seat.receive id call).line ++ [other] } := by
      simp [Seat.receive, issued]
    rw [line]
    exact .queued
  | behind blocked =>
    exact .behind (fun first => blocked ((seat.head_receive id call different).mp first))
  | removed first =>
    have locks : (manager.receive id call).locks = manager.locks := locks_receive
    rw [receive_forget different, receive_record, receive_releaseAll, receive_setSeat seated,
      Seat.receive_shut, ← locks, ← seat.session_receive id call]
    exact .removed (head first)
  | shut first closed foreign =>
    rw [receive_forget different]
    exact .shut (head first) (by simpa using closed) foreign
  | contended first live opens held foreign =>
    rw [receive_forget different, receive_record]
    rw [← locks_receive] at held
    exact .contended (head first) (by simpa using live) opens held foreign
  | opened first live opens free =>
    rw [receive_setCall different, receive_acquire]
    rw [← locks_receive] at free
    exact .opened (head first) (by simpa using live) opens free
  | edited field value first live copied =>
    rw [receive_forget different, receive_setSession seated]
    rw [← seat.session_receive id call] at copied ⊢
    exact .edited field value (head first) (by simpa using live) copied
  | notCheckedOut first live missing needs =>
    rw [receive_forget different]
    exact .notCheckedOut (head first) (by simpa using live) (by simpa using missing) needs
  | committing first live copied =>
    rw [receive_setCall different]
    exact .committing (head first) (by simpa using live) (by simpa using copied)
  | discarded first live copied =>
    rw [receive_forget different, receive_record, receive_closeWindow]
    exact .discarded (head first) (by simpa using live) (by simpa using copied)
  | nothingDiscarded first live missing =>
    rw [receive_forget different, receive_closeWindow]
    exact .nothingDiscarded (head first) (by simpa using live) (by simpa using missing)
  | told first live =>
    rw [receive_forget different, ← seat.session_receive id call]
    exact .told (head first) (by simpa using live)
  | vanished missing =>
    rw [receive_forget different, receive_closeWindow]
    exact .vanished (by simpa using missing)
  | loadedToWrite field value stored =>
    rw [receive_setCall different, receive_setSession seated, ← seat.session_receive id call]
    exact .loadedToWrite field value (by simpa using stored)
  | loadedToRead stored =>
    rw [receive_setCall different, receive_setSession seated, ← seat.session_receive id call]
    exact .loadedToRead (by simpa using stored)
  | checkedOut stored =>
    rw [receive_forget different, receive_setSession seated, ← seat.session_receive id call]
    exact .checkedOut (by simpa using stored)
  | worked =>
    rw [receive_setCall different]
    exact .worked
  | readDone copied =>
    rw [receive_forget different, receive_closeWindow]
    exact .readDone (by simpa using copied)
  | refused missing =>
    rw [receive_forget different, receive_closeWindow]
    exact .refused (by simpa using missing)
  | stored present =>
    rw [receive_forget different, receive_closeWindow, receive_record, receive_put]
    exact .stored (by simpa using present)

theorem Sound.resumed (sound : manager.Sound) (id : CallId) : (manager.resume id).2.Sound := by
  cases found : manager.calls.get? id with
  | none =>
    rw [resume_of_none found]
    exact sound
  | some call => exact sound.resume found

/-- A call that goes on does so alike, whether another one has come behind it before or comes
afterwards. -/
theorem resume_receive (sound : manager.Sound) (later : (manager.receive id call).Sound)
    (different : id ≠ other)
    (ours : ∀ there, manager.calls.get? other = some there →
      there.session = call.session ∧ (call.phase = .arriving ∨ there.phase ≠ .arriving)) :
    (manager.receive id call).resume other =
      ((manager.resume other).1, (manager.resume other).2.receive id call) := by
  cases found : manager.calls.get? other with
  | none =>
    have missing : (manager.receive id call).calls.get? other = none :=
      (calls_receive_other different).trans found
    rw [resume_of_none found, resume_of_none missing]
  | some there =>
    obtain ⟨session, request, phase⟩ := there
    obtain ⟨rfl, apart⟩ := ours _ found
    obtain ⟨seat, seated⟩ := sound.seated other _ found
    have placed : manager.seats.get? call.session = some seat := seated
    have advanced := resume_advance sound found placed
    exact resume_of_advance later ((calls_receive_other different).trans found)
      (seats_receive placed id) (advanced.receive placed different apart)

theorem issue_receives (fresh : manager.calls.get? id = none)
    (seated : manager.seats.get? session = some seat) (listed : seat.listed = true)
    (request : Request) :
    manager.issue id session request =
      (none, manager.receive id ⟨session, request, .arriving⟩) := by
  rw [issue_of_listed fresh seated listed, receive_of_seat seated]
  simp [Seat.receive, listed]

theorem resume_arriving
    (found : manager.calls.get? id = some ⟨session, request, .arriving⟩)
    (seated : manager.seats.get? session = some seat) :
    manager.resume id = (none, manager.receive id ⟨session, request, .waiting⟩) := by
  simp [resume, found, seated, receive, Seat.receive, Manager.await]

end Manager

end RecordLocks
