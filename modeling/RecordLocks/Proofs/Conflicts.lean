import RecordLocks.Proofs.AuditTrail
import RecordLocks.Proofs.Identity
import RecordLocks.Proofs.Orphans
import RecordLocks.Proofs.WorkingSets
namespace RecordLocks.Manager

/-- The session is listed, or one of its calls has not ended. -/
def Present (manager : Manager) (session : SessionId) : Prop :=
  (manager.listed? session).isSome ∨ manager.Pending session

/-- A write, a read, a checkout or a commit of the session has taken the lock of the record and
has not ended. -/
def AtWork (manager : Manager) (session : SessionId) (resource : ResourceId) : Prop :=
  ∃ id request phase, manager.calls.get? id = some ⟨session, request, phase⟩ ∧
    (request.opens? = some resource ∨ request = .commit resource) ∧
    phase.window? = some resource

/-- The session has the record in its working set, or it is at work on it. -/
def Uses (manager : Manager) (session : SessionId) (resource : ResourceId) : Prop :=
  manager.Present session ∧
    ((manager.copy? session resource).isSome ∨ manager.AtWork session resource)

/-- The request has its session for itself, and the session has not been removed. -/
structure Admitted (manager : Manager) (id : CallId) (session : SessionId) (request : Request) :
    Prop where
  found : manager.calls.get? id = some ⟨session, request, .waiting⟩
  served : ∃ seat, manager.seats.get? session = some seat ∧ seat.line.head? = some id ∧
    seat.closed = false

variable {manager : Manager} {id : CallId} {session : SessionId} {request : Request}
  {phase : Phase} {seat : Seat} {resource : ResourceId}

theorem Sound.held_of_window (sound : manager.Sound)
    (found : manager.calls.get? id = some ⟨session, request, phase⟩)
    (opened : phase.window? = some resource) :
    manager.locks.holder resource = some session := by
  obtain ⟨seat, seated⟩ := sound.seated id _ found
  have here := sound.seats session seat seated
  have head : seat.line.head? = some id := by
    apply here.line.head_of_phase found rfl
    · rintro rfl
      cases opened
    · rintro rfl
      cases opened
  exact (here.tally_served head found).held_of_window opened

theorem IsLoading.atWork (loading : manager.IsLoading session seat resource) :
    manager.AtWork session resource := by
  obtain ⟨id, request, -, opens, found⟩ := loading
  exact ⟨id, request, _, found, .inl opens, rfl⟩

/-- The holder of a lock is there to give it back, if no removal of it has been given up. -/
theorem present_of_holder {abandoned : SessionId → Prop} (sound : manager.Sound)
    (departed : manager.Departed abandoned) (kept : ¬ abandoned session)
    (held : manager.locks.holder resource = some session) : manager.Present session := by
  obtain ⟨seat, seated⟩ := sound.owned resource session held
  cases listed : seat.listed with
  | true =>
    left
    simp [listed?, seated, Option.filter, listed]
  | false =>
    right
    rcases departed.gone session seat seated listed with closed | ⟨id, phase, found⟩ | given
    · exact absurd held (((sound.seats session seat seated).closed closed).2 resource)
    · exact ⟨id, _, found, rfl⟩
    · exact absurd given kept

/-- A lock is held by the session that uses the record, and by no other. -/
theorem uses_iff_holder {abandoned : SessionId → Prop} (sound : manager.Sound)
    (departed : manager.Departed abandoned) (kept : ∀ session, ¬ abandoned session) :
    manager.Uses session resource ↔ manager.locks.holder resource = some session := by
  constructor
  · rintro ⟨-, copied | ⟨id, request, phase, found, -, opened⟩⟩
    · obtain ⟨book, copied⟩ := Option.isSome_iff_exists.mp copied
      exact sound.held_of_copy copied
    · exact sound.held_of_window found opened
  · intro held
    refine ⟨present_of_holder sound departed (kept session) held, ?_⟩
    obtain ⟨seat, seated⟩ := sound.owned resource session held
    rw [copy?_of_seat seated]
    rcases (sound.seats session seat seated).copy_or_loading sound.fits held with
      copied | loading
    · exact .inl copied
    · exact .inr loading.atWork

/-- An admitted request for a record is refused it exactly if another session holds the lock.
Otherwise it gets the lock. -/
theorem Admitted.resume (admitted : manager.Admitted id session request) (sound : manager.Sound)
    (opens : request.opens? = some resource) :
    (∀ asked holder, (manager.resume id).1 = some (.error (.lockConflict asked holder)) ↔
      asked = resource ∧ holder ≠ session ∧ manager.locks.holder resource = some holder) ∧
    ((∀ holder, manager.locks.holder resource = some holder → holder = session) →
      (manager.resume id).1 = none ∧
        (manager.resume id).2.locks.holder resource = some session) := by
  obtain ⟨seat, seated, head, live⟩ := admitted.served
  have advanced := resume_advance sound admitted.found seated
  generalize (manager.resume id).1 = outcome at advanced ⊢
  generalize (manager.resume id).2 = after at advanced ⊢
  cases advanced with
  | behind blocked => exact absurd head blocked
  | removed | edited | committing | discarded | nothingDiscarded | told => cases opens
  | shut head closed =>
    rw [live] at closed
    cases closed
  | notCheckedOut head live missing needs =>
    rcases needs with ⟨field, value, rfl⟩ | rfl <;> cases opens
  | @contended request there holder head live wants held foreign =>
    rw [opens] at wants
    cases wants
    constructor
    · intro asked other
      constructor
      · rintro ⟨⟩
        exact ⟨rfl, foreign, held⟩
      · rintro ⟨rfl, -, same⟩
        rw [held] at same
        cases same
        rfl
    · intro free
      exact absurd (free holder held) foreign
  | @opened request there head live wants free =>
    rw [opens] at wants
    cases wants
    constructor
    · intro asked other
      constructor
      · rintro ⟨⟩
      · rintro ⟨-, foreign, held⟩
        exact absurd (free other held) foreign
    · intro only
      refine ⟨rfl, ?_⟩
      simp only [setCall, acquire, applyLocks, LockTable.holder_acquire, if_true]
      cases held : manager.locks.holder resource with
      | none => rfl
      | some holder => rw [free holder held]; rfl

/-- Nothing but a request that has just been admitted is answered with a conflict. -/
theorem admitted_of_conflict (sound : manager.Sound) {act : Act} {holder : SessionId}
    (answers : manager.answered? act =
      some (session, .error (.lockConflict resource holder))) :
    ∃ id request, act = .resume id ∧ request.opens? = some resource ∧
      manager.Admitted id session request := by
  cases act with
  | enter | enlist | turnAway | store | cancel => cases answers
  | issue id caller request =>
    obtain ⟨outcome, answered, same⟩ := Option.map_eq_some_iff.mp answers
    cases same
    simp only [issue] at answered
    split at answered
    · cases answered
    · split at answered
      · cases answered
      · cases answered
  | resume id =>
    obtain ⟨⟨caller, request, phase⟩, found, resumed⟩ := Option.bind_eq_some_iff.mp answers
    obtain ⟨outcome, answered, same⟩ := Option.map_eq_some_iff.mp resumed
    cases same
    obtain ⟨seat, seated⟩ := sound.seated id _ found
    have advanced := resume_advance sound found seated
    rw [answered] at advanced
    generalize (manager.resume id).2 = after at advanced
    cases advanced with
    | contended head live opens held foreign =>
      exact ⟨id, request, rfl, opens, found, seat, seated, head, live⟩

/-- Where no removal has been given up, a request for a record that has its session for itself is
refused exactly if another session uses the record then, which is the one that it is told; and
otherwise it gets the lock at once. No record is used by two sessions, nothing else is ever
answered with a conflict, and a commit never is. -/
theorem conflicts_are_exact (store : RecordStore) (acts : List Act)
    (few : Act.openings acts ≤ 2 ^ 64)
    (kept : ∀ session, ¬ (start store).Abandoned acts session) :
    let manager := (start store).run acts
    (∀ id session request resource, request.opens? = some resource →
      manager.Admitted id session request →
      (∀ asked holder, (manager.resume id).1 = some (.error (.lockConflict asked holder)) ↔
        asked = resource ∧ holder ≠ session ∧ manager.Uses holder resource) ∧
      ((∀ holder, manager.Uses holder resource → holder = session) →
        (manager.resume id).1 = none ∧
          (manager.resume id).2.locks.holder resource = some session)) ∧
    (∀ first second resource, manager.Uses first resource → manager.Uses second resource →
      first = second) ∧
    (∀ act session resource holder,
      manager.answered? act = some (session, .error (.lockConflict resource holder)) →
      ∃ id request, act = .resume id ∧ request.opens? = some resource ∧
        manager.Admitted id session request) ∧
    (∀ id session resource phase asked holder,
      manager.calls.get? id = some ⟨session, .commit resource, phase⟩ →
      (manager.resume id).1 ≠ some (.error (.lockConflict asked holder))) := by
  intro manager
  have sound : manager.Sound := (sound_run store acts few).1
  have departed : manager.Departed ((start store).Abandoned acts) := departed_run store acts few
  have used : ∀ session resource,
      manager.Uses session resource ↔ manager.locks.holder resource = some session :=
    fun session resource => uses_iff_holder sound departed kept
  refine ⟨?_, ?_, ?_, ?_⟩
  · intro id session request resource opens admitted
    simp only [used]
    exact admitted.resume sound opens
  · intro first second resource one two
    have held := (used first resource).mp one
    rw [(used second resource).mp two] at held
    exact (Option.some.inj held).symm
  · intro act session resource holder answers
    exact admitted_of_conflict sound answers
  · intro id session resource phase asked holder found conflict
    have answers : manager.answered? (.resume id) =
        some (session, .error (.lockConflict asked holder)) := by
      simp [answered?, found, conflict]
    obtain ⟨other, request, same, opens, admitted⟩ := admitted_of_conflict sound answers
    cases same
    have both := admitted.found
    rw [found] at both
    cases both
    cases opens

/-- A session is removed while it commits a record, and another one asks for that record. -/
def requestDuringCommit : List Act :=
  [.enter "ann", .enlist ⟨0⟩, .enter "bob", .enlist ⟨1⟩, .issue 0 ⟨0⟩ (.checkout 7), .resume 0,
    .resume 0, .resume 0, .issue 1 ⟨0⟩ (.commit 7), .resume 1, .resume 1,
    .issue 2 ⟨0⟩ .removeSession, .resume 2, .issue 3 ⟨1⟩ (.read 7 .title), .resume 3]

theorem conflict_of_requestDuringCommit :
    Act.openings requestDuringCommit ≤ 2 ^ 64 ∧
      (∀ session, ¬ (start (.ofBooks [.titled 7 "old"])).Abandoned requestDuringCommit session) ∧
      (Request.read 7 .title).opens? = some 7 ∧
      ((start (.ofBooks [.titled 7 "old"])).run requestDuringCommit).Admitted 3 ⟨1⟩
        (.read 7 .title) ∧
      ((start (.ofBooks [.titled 7 "old"])).run requestDuringCommit).Uses ⟨0⟩ 7 := by
  have few : Act.openings requestDuringCommit ≤ 2 ^ 64 := by decide
  have kept : ∀ session,
      ¬ (start (.ofBooks [.titled 7 "old"])).Abandoned requestDuringCommit session := by
    rintro session ⟨earlier, act, later, split, id, phase, rfl, -⟩
    have member : .cancel id ∈ requestDuringCommit := by
      rw [split]
      simp
    simp [requestDuringCommit] at member
  have admitted : ((start (.ofBooks [.titled 7 "old"])).run requestDuringCommit).Admitted 3 ⟨1⟩
      (.read 7 .title) := ⟨by decide, _, rfl, by decide, by decide⟩
  have decided := conflicts_are_exact (.ofBooks [.titled 7 "old"]) requestDuringCommit few kept
  have conflict := (decided.1 3 ⟨1⟩ (.read 7 .title) 7 rfl admitted).1 7 ⟨0⟩
  exact ⟨few, kept, rfl, admitted, (conflict.mp (by decide)).2.2⟩

end RecordLocks.Manager
