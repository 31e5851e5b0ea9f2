import RecordLocks.Proofs.Run
namespace RecordLocks.Manager

variable (manager : Manager) (id : CallId) (session other : SessionId) (resource : ResourceId)

@[simp] theorem calls_forget : (manager.forget id session).calls = manager.calls.erase id := by
  simp only [forget]
  split <;> rfl

@[simp] theorem locks_forget : (manager.forget id session).locks = manager.locks := by
  simp only [forget]
  split <;> rfl

@[simp] theorem store_forget : (manager.forget id session).store = manager.store := by
  simp only [forget]
  split <;> rfl

@[simp] theorem trail_forget : (manager.forget id session).trail = manager.trail := by
  simp only [forget]
  split <;> rfl

@[simp] theorem nextSession_forget :
    (manager.forget id session).nextSession = manager.nextSession := by
  simp only [forget]
  split <;> rfl

@[simp] theorem entrants_forget : (manager.forget id session).entrants = manager.entrants := by
  simp only [forget]
  split <;> rfl

@[simp] theorem seats_forget :
    (manager.forget id session).seats.get? other =
      if session = other then
        (manager.seats.get? other).map fun seat => { seat with line := seat.line.erase id }
      else manager.seats.get? other := by
  simp only [forget]
  cases seated : manager.seats.get? session with
  | none =>
    by_cases same : session = other
    · simp [← same, seated]
    · simp [same]
  | some seat =>
    by_cases same : session = other
    · simp [← same, seated, setSeat, Index.get?_insert]
    · simp [same, setSeat, Index.get?_insert]

@[simp] theorem calls_closeWindow :
    (manager.closeWindow session resource).calls = manager.calls := by
  simp only [closeWindow]
  split <;> rfl

@[simp] theorem store_closeWindow :
    (manager.closeWindow session resource).store = manager.store := by
  simp only [closeWindow]
  split <;> rfl

@[simp] theorem nextSession_closeWindow :
    (manager.closeWindow session resource).nextSession = manager.nextSession := by
  simp only [closeWindow]
  split <;> rfl

@[simp] theorem entrants_closeWindow :
    (manager.closeWindow session resource).entrants = manager.entrants := by
  simp only [closeWindow]
  split <;> rfl

@[simp] theorem locks_closeWindow :
    (manager.closeWindow session resource).locks =
      (manager.locks.release resource session).table := by
  simp only [closeWindow]
  split <;> rfl

@[simp] theorem trail_closeWindow :
    (manager.closeWindow session resource).trail =
      manager.trail ++ (manager.locks.release resource session).notices := by
  simp only [closeWindow]
  split <;> rfl

@[simp] theorem seats_closeWindow :
    (manager.closeWindow session resource).seats.get? other =
      if session = other then
        (manager.seats.get? other).map fun seat =>
          { seat with session := (seat.session.release resource).2 }
      else manager.seats.get? other := by
  simp only [closeWindow, release, applyLocks]
  cases seated : manager.seats.get? session with
  | none =>
    by_cases same : session = other
    · simp [← same, seated]
    · simp [same]
  | some seat =>
    by_cases same : session = other
    · simp [← same, seated, setSession, setSeat, Index.get?_insert]
    · simp [same, setSession, setSeat, Index.get?_insert]

@[simp] theorem trail_record (manager : Manager) (notice : Notice) :
    (manager.record notice).trail = manager.trail ++ [notice] := rfl

@[simp] theorem store_record (manager : Manager) (notice : Notice) :
    (manager.record notice).store = manager.store := rfl

@[simp] theorem locks_record (manager : Manager) (notice : Notice) :
    (manager.record notice).locks = manager.locks := rfl

@[simp] theorem trail_releaseAll (manager : Manager) (session : SessionId) :
    (manager.releaseAll session).2.trail =
      manager.trail ++ (manager.locks.heldBy session).map (.lockReleased · session) := rfl

@[simp] theorem store_releaseAll (manager : Manager) (session : SessionId) :
    (manager.releaseAll session).2.store = manager.store := rfl

@[simp] theorem trail_setSeat (manager : Manager) (session : SessionId) (seat : Seat) :
    (manager.setSeat session seat).trail = manager.trail := rfl

@[simp] theorem store_setSeat (manager : Manager) (session : SessionId) (seat : Seat) :
    (manager.setSeat session seat).store = manager.store := rfl

@[simp] theorem locks_setSeat (manager : Manager) (session : SessionId) (seat : Seat) :
    (manager.setSeat session seat).locks = manager.locks := rfl

@[simp] theorem trail_setSession (manager : Manager) (session : SessionId) (seat : Seat)
    (changed : Session) : (manager.setSession session seat changed).trail = manager.trail := rfl

@[simp] theorem store_setSession (manager : Manager) (session : SessionId) (seat : Seat)
    (changed : Session) : (manager.setSession session seat changed).store = manager.store := rfl

@[simp] theorem trail_setCall (manager : Manager) (id : CallId) (call : Call) :
    (manager.setCall id call).trail = manager.trail := rfl

@[simp] theorem store_setCall (manager : Manager) (id : CallId) (call : Call) :
    (manager.setCall id call).store = manager.store := rfl

/-- The working copy that a session has of a record. -/
def copy? (manager : Manager) (session : SessionId) (resource : ResourceId) : Option Book :=
  (manager.seats.get? session).bind (·.session.copy? resource)

@[simp] theorem copy?_forget (manager : Manager) (id : CallId) (session other : SessionId)
    (resource : ResourceId) :
    (manager.forget id session).copy? other resource = manager.copy? other resource := by
  by_cases same : session = other
  · simp only [copy?, seats_forget, same, if_true]
    cases manager.seats.get? other <;> rfl
  · simp [copy?, same]

@[simp] theorem copy?_closeWindow (manager : Manager) (session other : SessionId)
    (resource asked : ResourceId) :
    (manager.closeWindow session resource).copy? other asked =
      if session = other ∧ resource = asked then none else manager.copy? other asked := by
  by_cases same : session = other
  · simp only [copy?, seats_closeWindow, same, if_true, true_and]
    cases manager.seats.get? other with
    | none => simp
    | some seat => simp
  · simp [copy?, same]

@[simp] theorem copy?_setCall (manager : Manager) (id : CallId) (call : Call)
    (session : SessionId) (resource : ResourceId) :
    (manager.setCall id call).copy? session resource = manager.copy? session resource := rfl

@[simp] theorem copy?_record (manager : Manager) (notice : Notice) (session : SessionId)
    (resource : ResourceId) :
    (manager.record notice).copy? session resource = manager.copy? session resource := rfl

@[simp] theorem copy?_acquire (manager : Manager) (locked asked : ResourceId)
    (owner session : SessionId) :
    (manager.acquire locked owner).2.copy? session asked = manager.copy? session asked := rfl

@[simp] theorem copy?_releaseAll (manager : Manager) (owner session : SessionId)
    (resource : ResourceId) :
    (manager.releaseAll owner).2.copy? session resource = manager.copy? session resource := rfl

@[simp] theorem copy?_setSeat (manager : Manager) (session other : SessionId) (seat : Seat)
    (resource : ResourceId) :
    (manager.setSeat session seat).copy? other resource =
      if session = other then seat.session.copy? resource else manager.copy? other resource := by
  by_cases same : session = other
  · simp [copy?, setSeat, Index.get?_insert, same]
  · simp [copy?, setSeat, Index.get?_insert, same]

@[simp] theorem copy?_setSession (manager : Manager) (session : SessionId) (seat : Seat)
    (changed : Session) (resource : ResourceId) :
    (manager.setSession session seat changed).copy? session resource =
      changed.copy? resource := by
  simp [setSession]

/-- Working on one copy leaves the others alone. -/
theorem copy?_setSession_other {manager : Manager} {session other : SessionId} {seat : Seat}
    {changed : Session} {resource asked : ResourceId}
    (seated : manager.seats.get? session = some seat)
    (same : ∀ asked, resource ≠ asked → changed.copy? asked = seat.session.copy? asked)
    (apart : ¬ (session = other ∧ resource = asked)) :
    (manager.setSession session seat changed).copy? other asked = manager.copy? other asked := by
  by_cases own : session = other
  · subst own
    rw [copy?_setSession, same asked fun here => apart ⟨rfl, here⟩]
    simp [copy?, seated]
  · simp [setSession, own]

theorem copy?_edit_other {manager : Manager} {session other : SessionId} {seat : Seat}
    {resource asked : ResourceId} (seated : manager.seats.get? session = some seat)
    (apart : ¬ (session = other ∧ resource = asked)) (field : BookField) (value : String) :
    (manager.setSession session seat
      (seat.session.edit resource field value).2).copy? other asked =
        manager.copy? other asked := by
  apply copy?_setSession_other seated _ apart
  intro asked different
  simp [different]

theorem copy?_checkout_other {manager : Manager} {session other : SessionId} {seat : Seat}
    {resource asked : ResourceId} (seated : manager.seats.get? session = some seat)
    (apart : ¬ (session = other ∧ resource = asked)) (book : Book) :
    (manager.setSession session seat (seat.session.checkout resource book).2).copy? other asked =
      manager.copy? other asked := by
  apply copy?_setSession_other seated _ apart
  intro asked different
  simp [different]

theorem copy?_write_other {manager : Manager} {session other : SessionId} {seat : Seat}
    {resource asked : ResourceId} (seated : manager.seats.get? session = some seat)
    (apart : ¬ (session = other ∧ resource = asked)) (book : Book) (field : BookField)
    (value : String) :
    (manager.setSession session seat
      ((seat.session.checkout resource book).2.edit resource field value).2).copy? other asked =
        manager.copy? other asked := by
  apply copy?_setSession_other seated _ apart
  intro asked different
  simp [different]

/-- Nothing differs but what belongs to the session: its seat, its calls and its locks. -/
structure Apart (session : SessionId) (before after : Manager) : Prop where
  seats : ∀ other, other ≠ session → after.seats.get? other = before.seats.get? other
  locks : ∀ resource other, other ≠ session →
    (after.locks.holder resource = some other ↔ before.locks.holder resource = some other)
  calls : ∀ id call, call.session ≠ session →
    (after.calls.get? id = some call ↔ before.calls.get? id = some call)
  nextSession : after.nextSession = before.nextSession
  entrants : after.entrants = before.entrants

namespace Apart

variable {manager id session other resource}

theorem refl : Apart session manager manager :=
  ⟨fun _ _ => rfl, fun _ _ _ => Iff.rfl, fun _ _ _ => Iff.rfl, rfl, rfl⟩

theorem trans {first second third : Manager} (early : Apart session first second)
    (late : Apart session second third) : Apart session first third where
  seats other apart := (late.seats other apart).trans (early.seats other apart)
  locks resource other apart :=
    (late.locks resource other apart).trans (early.locks resource other apart)
  calls id call apart := (late.calls id call apart).trans (early.calls id call apart)
  nextSession := late.nextSession.trans early.nextSession
  entrants := late.entrants.trans early.entrants

/-- What is recorded and what is stored belongs to no session. -/
theorem of_eq {after : Manager} (seats : after.seats = manager.seats)
    (locks : after.locks = manager.locks) (calls : after.calls = manager.calls)
    (nextSession : after.nextSession = manager.nextSession)
    (entrants : after.entrants = manager.entrants) : Apart session manager after := by
  refine ⟨?_, ?_, ?_, nextSession, entrants⟩
  · intro other apart
    rw [seats]
  · intro resource other apart
    rw [locks]
  · intro id call apart
    rw [calls]

theorem record {after : Manager} (early : Apart session manager after) (notice : Notice) :
    Apart session manager (after.record notice) :=
  early.trans (of_eq rfl rfl rfl rfl rfl)

theorem setSeat (seat : Seat) : Apart session manager (manager.setSeat session seat) := by
  refine ⟨?_, fun _ _ _ => Iff.rfl, fun _ _ _ => Iff.rfl, rfl, rfl⟩
  intro other apart
  simp [Manager.setSeat, Index.get?_insert, apart.symm]

theorem acquire : Apart session manager (manager.acquire resource session).2 := by
  refine ⟨fun _ _ => rfl, ?_, fun _ _ _ => Iff.rfl, rfl, rfl⟩
  intro asked other apart
  simp only [Manager.acquire, applyLocks, LockTable.holder_acquire]
  by_cases same : resource = asked
  · subst same
    cases manager.locks.holder resource <;> simp [apart.symm]
  · simp [same]

theorem release : Apart session manager (manager.release resource session).2 := by
  refine ⟨fun _ _ => rfl, ?_, fun _ _ _ => Iff.rfl, rfl, rfl⟩
  intro asked other apart
  simp only [Manager.release, applyLocks, LockTable.holder_release]
  split
  · rename_i held
    simp [held.2, apart.symm]
  · rfl

theorem releaseAll : Apart session manager (manager.releaseAll session).2 := by
  refine ⟨fun _ _ => rfl, ?_, fun _ _ _ => Iff.rfl, rfl, rfl⟩
  intro asked other apart
  simp only [Manager.releaseAll, applyLocks, LockTable.holder_releaseAll]
  split
  · rename_i held
    simp [held, apart.symm]
  · rfl

theorem closeWindow : Apart session manager (manager.closeWindow session resource) := by
  refine ⟨?_, ?_, ?_, by simp, by simp⟩
  · intro other apart
    simp [apart.symm]
  · intro asked other apart
    simp only [locks_closeWindow]
    exact release.locks asked other apart
  · intro asked call apart
    simp

theorem newCall {after : Manager} {call : Call} (early : Apart session manager after)
    (calls : after.calls = manager.calls) (fresh : manager.calls.get? id = none)
    (own : call.session = session) : Apart session manager (after.setCall id call) := by
  refine ⟨early.seats, early.locks, ?_, early.nextSession, early.entrants⟩
  intro asked other apart
  simp only [Manager.setCall, calls, Index.get?_insert]
  by_cases same : id = asked
  · subst same
    have new : call ≠ other := fun equal => apart (equal ▸ own)
    simp [fresh, new]
  · simp [same]

/-- The call goes on, after what its session has done for it. -/
theorem setCall {after : Manager} {old call : Call} (early : Apart session manager after)
    (calls : after.calls = manager.calls) (found : manager.calls.get? id = some old)
    (before : old.session = session) (own : call.session = session) :
    Apart session manager (after.setCall id call) := by
  refine ⟨early.seats, early.locks, ?_, early.nextSession, early.entrants⟩
  intro asked other apart
  simp only [Manager.setCall, calls, Index.get?_insert]
  by_cases same : id = asked
  · subst same
    have new : call ≠ other := fun equal => apart (equal ▸ own)
    have different : old ≠ other := fun equal => apart (equal ▸ before)
    simp [found, new, different]
  · simp [same]

/-- The call ends, after what its session has done for it. -/
theorem forget {after : Manager} {old : Call} (early : Apart session manager after)
    (calls : after.calls = manager.calls) (found : manager.calls.get? id = some old)
    (before : old.session = session) : Apart session manager (after.forget id session) := by
  refine ⟨?_, ?_, ?_, by simpa using early.nextSession, by simpa using early.entrants⟩
  · intro other apart
    simpa [apart.symm] using early.seats other apart
  · intro asked other apart
    simpa using early.locks asked other apart
  · intro asked call apart
    simp only [calls_forget, calls, Index.get?_erase]
    by_cases same : id = asked
    · subst same
      have different : old ≠ call := fun equal => apart (equal ▸ before)
      simp [found, different]
    · simp [same]

end Apart

end RecordLocks.Manager
