import RecordLocks.Proofs.Identity
namespace RecordLocks

/-- The record that a request is about. -/
def Request.target? : Request → Option ResourceId
  | .write resource _ _ | .read resource _ | .checkout resource | .edit resource _ _
  | .commit resource | .discard resource => some resource
  | .locksHeld | .removeSession => none

namespace Manager

/-- Nothing changes but the place of the call in its session's line. -/
def Idle (id : CallId) (session : SessionId) (before after : Manager) : Prop :=
  after.forget id session = before.forget id session

/-- Nothing changes with the locks, the copies and the stored books of other records, nor with
those that other sessions have of this record. -/
structure Within (session : SessionId) (resource : ResourceId) (before after : Manager) :
    Prop where
  locks : ∀ owner other, ¬ (session = owner ∧ resource = other) →
    (after.locks.holder other = some owner ↔ before.locks.holder other = some owner)
  copies : ∀ owner other, ¬ (session = owner ∧ resource = other) →
    after.copy? owner other = before.copy? owner other
  books : ∀ other, resource ≠ other →
    after.store.books.get? other = before.store.books.get? other

variable {manager after : Manager} {id : CallId} {session : SessionId} {request : Request}
  {phase : Phase} {seat : Seat} {resource : ResourceId}

namespace Within

variable {before : Manager}

theorem refl : Within session resource manager manager :=
  ⟨fun _ _ _ => Iff.rfl, fun _ _ _ => rfl, fun _ _ => rfl⟩

theorem trans {third : Manager} (early : Within session resource manager after)
    (late : Within session resource after third) : Within session resource manager third where
  locks owner other apart := (late.locks owner other apart).trans (early.locks owner other apart)
  copies owner other apart :=
    (late.copies owner other apart).trans (early.copies owner other apart)
  books other apart := (late.books other apart).trans (early.books other apart)

/-- Lines, calls and what is recorded do not count. -/
theorem of_eq (locks : after.locks = manager.locks) (store : after.store = manager.store)
    (copies : ∀ owner other, after.copy? owner other = manager.copy? owner other) :
    Within session resource manager after := by
  constructor
  · intro owner other apart
    rw [locks]
  · intro owner other apart
    exact copies owner other
  · intro other apart
    rw [store]

theorem setCall (within : Within session resource before manager) (call : Call) :
    Within session resource before (manager.setCall id call) :=
  within.trans (of_eq rfl rfl fun _ _ => rfl)

theorem record (within : Within session resource before manager) (notice : Notice) :
    Within session resource before (manager.record notice) :=
  within.trans (of_eq rfl rfl fun _ _ => rfl)

theorem forget (within : Within session resource before manager) :
    Within session resource before (manager.forget id session) :=
  within.trans (of_eq (by simp) (by simp) (by simp))

theorem acquire : Within session resource manager (manager.acquire resource session).2 := by
  constructor
  · intro owner other apart
    simp only [Manager.acquire, applyLocks, LockTable.holder_acquire]
    split
    · rename_i here
      subst here
      have different : session ≠ owner := fun own => apart ⟨own, rfl⟩
      cases manager.locks.holder resource <;> simp [different]
    · rfl
  · intro owner other apart
    rfl
  · intro other apart
    rfl

theorem closeWindow : Within session resource manager (manager.closeWindow session resource) := by
  constructor
  · intro owner other apart
    simp only [locks_closeWindow, LockTable.holder_release]
    split
    · rename_i held
      have different : session ≠ owner := fun own => apart ⟨own, held.1⟩
      simp [held.2, different]
    · rfl
  · intro owner other apart
    rw [copy?_closeWindow, if_neg apart]
  · intro other apart
    simp

theorem setSession {changed : Session} (seated : manager.seats.get? session = some seat)
    (same : ∀ asked, resource ≠ asked → changed.copy? asked = seat.session.copy? asked) :
    Within session resource manager (manager.setSession session seat changed) := by
  constructor
  · intro owner other apart
    rfl
  · intro owner other apart
    exact copy?_setSession_other seated same apart
  · intro other apart
    rfl

theorem put {edited : Book} (named : edited.id = resource) :
    Within session resource manager { manager with store := manager.store.put edited } := by
  constructor
  · intro owner other apart
    rfl
  · intro owner other apart
    rfl
  · intro other apart
    rw [RecordStore.get?_put, named, if_neg apart]

end Within

/-- A call that has left its session's line can leave it no second time. -/
theorem idle_forget (sound : manager.Sound) :
    Idle id session manager (manager.forget id session) := by
  rw [Idle]
  cases seated : manager.seats.get? session with
  | none => simp [forget, seated, Index.erase_of_none, Index.get?_erase]
  | some seat =>
    have gone : (seat.line.erase id).erase id = seat.line.erase id :=
      List.erase_of_not_mem (sound.seats session seat seated).line.nodup.not_mem_erase
    simp [forget, seated, setSeat, Index.get?_insert, Index.erase_of_none, Index.get?_erase, gone]

theorem idle_queue (sound : manager.Sound) (seated : manager.seats.get? session = some seat)
    (found : manager.calls.get? id = some ⟨session, request, .arriving⟩) (call : Call) :
    Idle id session manager
      ((manager.setSeat session { seat with line := seat.line ++ [id] }).setCall id call) := by
  have outside : id ∉ seat.line := by
    intro member
    obtain ⟨there, same, -, arrived⟩ :=
      ((sound.seats session seat seated).line.mem_iff id).mp member
    rw [found] at same
    cases same
    exact arrived rfl
  have line : (seat.line ++ [id]).erase id = seat.line.erase id := by
    rw [List.erase_append_right _ outside, List.erase_of_not_mem outside]
    simp
  simp [Idle, forget, seated, setSeat, setCall, Index.get?_insert, line]

theorem idle_setCall (call : Call) : Idle id session manager (manager.setCall id call) := by
  simp only [Idle, forget, setCall, Index.erase_insert]
  cases manager.seats.get? session <;> rfl

theorem copy?_setSeat_same (seated : manager.seats.get? session = some seat) {changed : Seat}
    (same : changed.session = seat.session) (owner : SessionId) (asked : ResourceId) :
    (manager.setSeat session changed).copy? owner asked = manager.copy? owner asked := by
  rw [copy?_setSeat]
  split
  · rename_i own
    rw [← own, copy?_of_seat seated, same]
  · rfl

end Manager

theorem Request.target?_of_opens {request : Request} {resource : ResourceId}
    (opens : request.opens? = some resource) : request.target? = some resource := by
  cases request with
  | write | read | checkout => exact opens
  | edit | commit | discard | locksHeld | removeSession => cases opens

/-- A lock window is open for the record that the request is about. -/
theorem Call.Fits.target? {session : SessionId} {request : Request} {phase : Phase}
    (fits : Call.Fits ⟨session, request, phase⟩) {resource : ResourceId}
    (opened : phase.window? = some resource) : request.target? = some resource := by
  cases phase with
  | arriving | waiting => cases opened
  | loading loaded =>
    cases opened
    exact Request.target?_of_opens fits
  | writing written edited =>
    cases opened
    obtain ⟨field, value, rfl⟩ := fits
    rfl
  | reading read field =>
    cases opened
    cases fits
    rfl
  | storing stored edited =>
    cases opened
    rcases fits with ⟨field, value, rfl⟩ | rfl <;> rfl

namespace Manager

variable {manager after : Manager} {id : CallId} {session : SessionId} {request : Request}
  {phase : Phase} {seat : Seat} {resource : ResourceId}

theorem calls_setCall (manager : Manager) (id : CallId) (call : Call) :
    (manager.setCall id call).calls.get? id = some call := by
  simp [setCall, Index.get?_insert]

/-- A call goes on: the store is left alone, and before it is served nothing but its session's
line is touched. -/
theorem Advance.goes_on (sound : manager.Sound)
    (found : manager.calls.get? id = some ⟨session, request, phase⟩)
    (seated : manager.seats.get? session = some seat)
    (target : request.target? = some resource)
    (advanced : Advance manager id session seat request phase none after) :
    ∃ next, after.calls.get? id = some ⟨session, request, next⟩ ∧ after.store = manager.store ∧
      Within session resource manager after ∧
      (next.window? = none → phase.window? = none ∧ Idle id session manager after) := by
  cases advanced with
  | queued =>
    refine ⟨.waiting, calls_setCall _ _ _, rfl, ?_, ?_⟩
    · apply Within.setCall
      exact .of_eq rfl rfl (copy?_setSeat_same seated rfl)
    · intro outside
      exact ⟨rfl, idle_queue sound seated found _⟩
  | behind => exact ⟨.waiting, found, rfl, .refl, fun _ => ⟨rfl, rfl⟩⟩
  | opened head live opens free =>
    have same := Request.target?_of_opens opens
    rw [target] at same
    cases same
    exact ⟨_, calls_setCall _ _ _, rfl, Within.acquire.setCall _, fun outside => by cases outside⟩
  | committing | worked =>
    exact ⟨_, calls_setCall _ _ _, rfl, Within.refl.setCall _, fun outside => by cases outside⟩
  | loadedToWrite | loadedToRead =>
    cases target
    refine ⟨_, calls_setCall _ _ _, rfl, ?_, fun outside => by cases outside⟩
    apply Within.setCall
    apply Within.setSession seated
    intro asked different
    simp [different]

end Manager

end RecordLocks
