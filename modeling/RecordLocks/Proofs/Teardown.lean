import Mathlib.Data.List.Nodup
import RecordLocks.Proofs.AuditTrail
import RecordLocks.Proofs.Orphans
namespace RecordLocks

/-- The entry names the session, be it as a holder of a lock or as one who was refused it. -/
def Notice.Mentions (session : SessionId) : Notice → Prop
  | .lockAcquired _ holder | .lockReleased _ holder => holder = session
  | .lockContention _ holder blocked => holder = session ∨ blocked = session
  | .sessionStarted owner _ | .sessionRemoved owner _ | .committed owner _
  | .discarded owner _ => owner = session

namespace Manager

/-- The number that a new session takes. It is the one that its user is told. -/
def taken (manager : Manager) : Act → List SessionId
  | .enter user => [(manager.enter user).1]
  | _ => []

/-- The session that an act is a call of. -/
def caller? (manager : Manager) : Act → Option SessionId
  | .issue _ session _ => some session
  | .resume id | .cancel id => (manager.calls.get? id).map (·.session)
  | _ => none

/-- A removal of the session is served in the act and succeeds. -/
def Removes (manager : Manager) (act : Act) (session : SessionId) (released : List ResourceId) :
    Prop :=
  ∃ id phase, act = .resume id ∧
    manager.calls.get? id = some ⟨session, .removeSession, phase⟩ ∧
    (manager.resume id).1 = some (.ok (.resources released))

/-- What a removal that succeeds has done: all locks of the session are given back, with an entry
for each, and nothing is stored. -/
structure TornDown (session : SessionId) (released : List ResourceId) (before after : Manager) :
    Prop where
  owned : ∀ resource, resource ∈ released ↔ before.locks.holder resource = some session
  ascending : released.Pairwise (· < ·)
  copies : ∃ seat, before.seats.get? session = some seat ∧ seat.session.checkedOut = released
  trail : after.trail = before.trail ++ released.map (.lockReleased · session) ++
    [.sessionRemoved session released]
  store : after.store = before.store

/-- What is left of a session that has been removed, from then on. Its calls may still be pending,
and each of them is answered as soon as those ahead of it have been. -/
structure Finished (session : SessionId) (removed after : Manager) : Prop where
  lockless : ∀ resource, after.locks.holder resource ≠ some session
  copyless : ∀ resource, after.copy? session resource = none
  silent : ∃ newer, after.trail = removed.trail ++ newer ∧
    ∀ notice ∈ newer, ¬ notice.Mentions session
  spares : ∀ act, after.caller? act = some session → (after.step act).store = after.store
  refuses : ∀ act outcome, after.answered? act = some (session, outcome) →
    outcome = .error (.sessionNotFound session)
  unknown : ∀ id request, after.calls.get? id = none →
    after.answered? (.issue id session request) = some (session, .error (.sessionNotFound session))
  served : ∀ id call, after.calls.get? id = some call → call.session = session →
    ∃ ahead : List CallId, (∀ first ∈ ahead, ∃ request phase,
        after.calls.get? first = some ⟨session, request, phase⟩) ∧
      (after.run (ahead.map .resume)).answered? (.resume id) =
        some (session, .error (.sessionNotFound session))
  once : ∀ act released, ¬ after.Removes act session released

variable {manager after : Manager} {id other : CallId} {session : SessionId} {request : Request}
  {phase : Phase} {seat : Seat} {outcome : Option Outcome} {call : Call} {count : Nat} {act : Act}

/-- A call stays the call of its session with its request. -/
theorem Advance.call_kept (found : manager.calls.get? id = some ⟨session, request, phase⟩)
    (advanced : Advance manager id session seat request phase outcome after)
    (stays : after.calls.get? id = some call) : ∃ next, call = ⟨session, request, next⟩ := by
  cases advanced with
  | behind =>
    rw [found] at stays
    exact ⟨_, (Option.some.inj stays).symm⟩
  | queued | opened | committing | loadedToWrite | loadedToRead | worked =>
    simp only [setCall, Index.get?_insert, if_true, Option.some.injEq] at stays
    exact ⟨_, stays.symm⟩
  | removed | shut | contended | edited | notCheckedOut | told | checkedOut | discarded
  | nothingDiscarded | vanished | readDone | refused =>
    simp [Index.get?_erase] at stays
  | stored => simp [Index.get?_erase] at stays

/-- A pending call was pending before, or a listed session has just issued it. -/
theorem call_of_step (sound : manager.Sound)
    (found : (manager.step act).calls.get? id = some call) :
    (∃ phase, manager.calls.get? id = some ⟨call.session, call.request, phase⟩) ∨
      act = .issue id call.session call.request ∧
        ∃ seat, manager.seats.get? call.session = some seat ∧ seat.listed = true := by
  have kept : manager.calls.get? id = some call →
      ∃ phase, manager.calls.get? id = some ⟨call.session, call.request, phase⟩ :=
    fun before => ⟨call.phase, before⟩
  cases act with
  | enter | turnAway | store => exact .inl (kept found)
  | enlist entrant =>
    left
    apply kept
    simp only [step, enlist] at found
    split at found
    · exact found
    · exact found
  | issue asked caller request =>
    rcases issue_cases manager asked caller request with same | ⟨seat, -, seated, listed, issued⟩
    · rw [step, same] at found
      exact .inl (kept found)
    · simp only [step, issued, setCall, setSeat, Index.get?_insert] at found
      split at found
      · rename_i same
        cases found
        exact .inr ⟨by rw [same], seat, seated, listed⟩
      · exact .inl (kept found)
  | resume asked =>
    left
    by_cases same : id = asked
    · subst same
      cases before : manager.calls.get? id with
      | none =>
        rw [step, resume_of_none before, before] at found
        cases found
      | some old =>
        obtain ⟨seat, seated⟩ := sound.seated id old before
        obtain ⟨next, rfl⟩ := (resume_advance sound before seated).call_kept before found
        exact ⟨old.phase, rfl⟩
    · exact kept ((calls_resume_other sound same).symm.trans found)
  | cancel asked =>
    left
    by_cases same : id = asked
    · subst same
      cases before : manager.calls.get? id with
      | none =>
        rw [step, cancel_of_none before, before] at found
        cases found
      | some old =>
        cases opened : old.phase.window? with
        | none => simp [step, cancel_of_outside before opened, Index.get?_erase] at found
        | some resource => simp [step, cancel_of_window before opened, Index.get?_erase] at found
    · exact kept ((calls_cancel_other same).symm.trans found)

/-- No session has two removals pending, for the first unlists it. -/
def LoneRemovals (manager : Manager) : Prop :=
  ∀ session first second one two,
    manager.calls.get? first = some ⟨session, .removeSession, one⟩ →
    manager.calls.get? second = some ⟨session, .removeSession, two⟩ → first = second

theorem unlisted_of_leaving (sound : manager.Sound) (leaving : manager.Leaving session)
    (seated : manager.seats.get? session = some seat) : seat.listed = false := by
  obtain ⟨id, phase, found⟩ := leaving
  exact (sound.seats session seat seated).leaving id phase found

theorem LoneRemovals.step (lone : manager.LoneRemovals) (sound : manager.Sound) (act : Act) :
    (manager.step act).LoneRemovals := by
  have early : ∀ {session first phase}, manager.calls.get? first =
      some ⟨session, .removeSession, phase⟩ → ∀ seat, manager.seats.get? session = some seat →
        seat.listed = true → False := by
    intro session first phase found seat seated listed
    rw [unlisted_of_leaving sound ⟨first, phase, found⟩ seated] at listed
    cases listed
  intro session first second one two removes also
  rcases call_of_step sound removes with ⟨old, before⟩ | ⟨issue, seat, seated, listed⟩
  · rcases call_of_step sound also with ⟨past, earlier⟩ | ⟨-, seat, seated, listed⟩
    · exact lone session first second old past before earlier
    · exact (early before seat seated listed).elim
  · rcases call_of_step sound also with ⟨past, earlier⟩ | ⟨same, -⟩
    · exact (early earlier seat seated listed).elim
    · rw [issue] at same
      exact (Act.issue.inj same).1

theorem lone_removals_run (store : RecordStore) (acts : List Act)
    (few : Act.openings acts ≤ 2 ^ 64) : ((start store).run acts).LoneRemovals := by
  apply run_induction store _ _ acts few
  · intro session first second one two removes
    cases removes
  · intro earlier act before sound lone
    rw [run_append, run_singleton]
    exact lone.step sound act

/-- The session is closed, and no removal of it is pending. -/
structure Gone (manager : Manager) (session : SessionId) : Prop where
  closed : ∃ seat, manager.seats.get? session = some seat ∧ seat.closed = true
  left : ¬ manager.Leaving session

namespace Gone

theorem closed_of_seat (gone : manager.Gone session)
    (seated : manager.seats.get? session = some seat) : seat.closed = true := by
  obtain ⟨there, found, closed⟩ := gone.closed
  rw [seated] at found
  cases found
  exact closed

theorem unlisted (gone : manager.Gone session) (sound : manager.Sound)
    (seated : manager.seats.get? session = some seat) : seat.listed = false :=
  ((sound.seats session seat seated).closed (gone.closed_of_seat seated)).1

theorem lockless (gone : manager.Gone session) (sound : manager.Sound) (resource : ResourceId) :
    manager.locks.holder resource ≠ some session := by
  obtain ⟨seat, seated, closed⟩ := gone.closed
  exact ((sound.seats session seat seated).closed closed).2 resource

theorem copyless (gone : manager.Gone session) (sound : manager.Sound) (resource : ResourceId) :
    manager.copy? session resource = none := by
  cases copied : manager.copy? session resource with
  | none => rfl
  | some book => exact absurd (sound.held_of_copy copied) (gone.lockless sound resource)

theorem not_removal (gone : manager.Gone session)
    (found : manager.calls.get? id = some ⟨session, request, phase⟩) :
    request ≠ .removeSession := by
  rintro rfl
  exact gone.left ⟨id, phase, found⟩

/-- The calls that are still pending have not been served. -/
theorem outside (gone : manager.Gone session) (sound : manager.Sound)
    (found : manager.calls.get? id = some ⟨session, request, phase⟩) : phase.window? = none := by
  cases opened : phase.window? with
  | none => rfl
  | some resource =>
    obtain ⟨seat, seated, closed⟩ := gone.closed
    have here := sound.seats session seat seated
    have head : seat.line.head? = some id := by
      apply here.line.head_of_phase found rfl
      · rintro rfl
        cases opened
      · rintro rfl
        cases opened
    rw [here.live_of_window head found opened] at closed
    cases closed

/-- A call that is resumed moves up in its line or is turned away. -/
theorem resume_cases (gone : manager.Gone session) (sound : manager.Sound)
    (found : manager.calls.get? id = some ⟨session, request, phase⟩) :
    (manager.resume id).2.store = manager.store ∧ (manager.resume id).2.trail = manager.trail ∧
      ∀ outcome, (manager.resume id).1 = some outcome →
        outcome = .error (.sessionNotFound session) := by
  obtain ⟨seat, seated, closed⟩ := gone.closed
  have outside := gone.outside sound found
  have stays := gone.not_removal found
  have advanced := resume_advance sound found seated
  generalize (manager.resume id).1 = answer at advanced ⊢
  generalize (manager.resume id).2 = after at advanced ⊢
  cases advanced with
  | queued | behind => exact ⟨rfl, rfl, fun _ none => by cases none⟩
  | shut => exact ⟨by simp, by simp, fun _ answer => (Option.some.inj answer).symm⟩
  | removed => exact absurd rfl stays
  | contended head live | opened head live | edited _ _ head live | notCheckedOut head live
  | committing head live | discarded head live | nothingDiscarded head live | told head live =>
    rw [live] at closed
    cases closed
  | vanished | loadedToWrite | loadedToRead | checkedOut | worked | readDone | refused | stored =>
    cases outside

/-- The call at the head of the line is turned away. -/
theorem resume_head (gone : manager.Gone session)
    (found : manager.calls.get? id = some ⟨session, request, .waiting⟩)
    (seated : manager.seats.get? session = some seat) (head : seat.line.head? = some id) :
    manager.resume id =
      (some (.error (.sessionNotFound session)), manager.forget id session) := by
  have served : isServed seat id = true := by simpa [isServed] using head
  have closed := gone.closed_of_seat seated
  simp only [resume, found, seated, served, if_true]
  exact serve_closed closed (gone.not_removal found)

/-- An act of a call of the session neither stores nor records anything. -/
theorem spares (gone : manager.Gone session) (sound : manager.Sound)
    (own : manager.caller? act = some session) :
    (manager.step act).store = manager.store ∧ (manager.step act).trail = manager.trail := by
  cases act with
  | enter | enlist | turnAway | store => cases own
  | issue id caller request =>
    cases own
    rcases issue_cases manager id session request with same | ⟨seat, -, seated, listed, -⟩
    · rw [step, same]
      exact ⟨rfl, rfl⟩
    · rw [gone.unlisted sound seated] at listed
      cases listed
  | resume id =>
    obtain ⟨call, found, rfl⟩ := Option.map_eq_some_iff.mp own
    obtain ⟨store, trail, -⟩ := gone.resume_cases sound found
    exact ⟨store, trail⟩
  | cancel id =>
    obtain ⟨call, found, rfl⟩ := Option.map_eq_some_iff.mp own
    simp [step, cancel_of_outside found (gone.outside sound found)]

theorem refuses (gone : manager.Gone session) (sound : manager.Sound) {outcome : Outcome}
    (answers : manager.answered? act = some (session, outcome)) :
    outcome = .error (.sessionNotFound session) := by
  cases act with
  | enter | enlist | turnAway | store | cancel => cases answers
  | issue id caller request =>
    obtain ⟨there, answered, same⟩ := Option.map_eq_some_iff.mp answers
    cases same
    cases used : manager.calls.get? id with
    | some call =>
      rw [issue_of_used used] at answered
      cases answered
    | none =>
      rw [issue_of_unlisted used fun seat seated => gone.unlisted sound seated] at answered
      exact (Option.some.inj answered).symm
  | resume id =>
    obtain ⟨call, found, resumed⟩ := Option.bind_eq_some_iff.mp answers
    obtain ⟨there, answered, same⟩ := Option.map_eq_some_iff.mp resumed
    cases same
    exact (gone.resume_cases sound found).2.2 outcome answered

/-- A session that is gone stays so: it does not open again, and no removal of it is issued. -/
theorem step (gone : manager.Gone session) (sound : manager.Sound)
    (numbered : manager.Numbered count) (act : Act) : (manager.step act).Gone session := by
  obtain ⟨seat, seated, closed⟩ := gone.closed
  obtain ⟨changed, reseated, stays, -⟩ := seat_step sound numbered act seated
  refine ⟨⟨changed, reseated, stays closed⟩, ?_⟩
  rintro ⟨id, phase, found⟩
  rcases call_of_step sound found with ⟨earlier, before⟩ | ⟨-, there, placed, listed⟩
  · exact gone.left ⟨id, earlier, before⟩
  · rw [gone.unlisted sound placed] at listed
    cases listed

end Gone

/-- Giving a lock back names its owner. -/
theorem owner_of_release {table : LockTable} {resource : ResourceId} {owner named : SessionId}
    {notice : Notice} (member : notice ∈ (table.release resource owner).notices)
    (mentions : notice.Mentions named) : owner = named := by
  simp only [LockTable.release] at member
  split at member
  · rw [List.mem_singleton.mp member] at mentions
    exact mentions
  · cases member

/-- Only the caller and the holders of locks are named when a call is resumed. -/
theorem Advance.mentions (advanced : Advance manager id session seat request phase outcome after) :
    ∃ notices, after.trail = manager.trail ++ notices ∧
      ∀ notice ∈ notices, ∀ named, notice.Mentions named →
        session = named ∨ ∃ resource, manager.locks.holder resource = some named := by
  cases advanced with
  | queued | behind | committing | worked | loadedToWrite | loadedToRead =>
    exact ⟨[], by simp, by simp⟩
  | shut | notCheckedOut | told | edited | checkedOut =>
    exact ⟨[], by simp, by simp⟩
  | removed =>
    refine ⟨(manager.locks.heldBy session).map (.lockReleased · session) ++
      [.sessionRemoved session (manager.locks.heldBy session)], ?_, ?_⟩
    · simp
    · intro notice member named mentions
      rcases List.mem_append.mp member with early | last
      · obtain ⟨resource, -, rfl⟩ := List.mem_map.mp early
        exact .inl mentions
      · rw [List.mem_singleton.mp last] at mentions
        exact .inl mentions
  | @contended request resource holder head live opens held foreign =>
    refine ⟨[.lockContention resource holder session], by simp, ?_⟩
    intro notice member named mentions
    rw [List.mem_singleton.mp member] at mentions
    rcases mentions with rfl | own
    · exact .inr ⟨resource, held⟩
    · exact .inl own
  | @opened request resource head live opens free =>
    refine ⟨(manager.locks.acquire resource session).notices, rfl, ?_⟩
    intro notice member named mentions
    cases held : manager.locks.holder resource with
    | none =>
      rw [LockTable.acquire_of_free held] at member
      rw [List.mem_singleton.mp member] at mentions
      exact .inl mentions
    | some holder =>
      rw [LockTable.acquire_of_own (free holder held ▸ held)] at member
      cases member
  | @discarded resource =>
    refine ⟨(manager.locks.release resource session).notices ++ [.discarded session resource],
      by simp, ?_⟩
    intro notice member named mentions
    rcases List.mem_append.mp member with early | last
    · exact .inl (owner_of_release early mentions)
    · rw [List.mem_singleton.mp last] at mentions
      exact .inl mentions
  | @nothingDiscarded resource | @vanished _ resource | @readDone _ resource
  | @refused _ resource =>
    refine ⟨(manager.locks.release resource session).notices, by simp, ?_⟩
    intro notice member named mentions
    exact .inl (owner_of_release member mentions)
  | @stored request resource edited old present =>
    refine ⟨.committed session resource :: (manager.locks.release resource session).notices,
      by simp, ?_⟩
    intro notice member named mentions
    rcases List.mem_cons.mp member with rfl | later
    · exact .inl mentions
    · exact .inl (owner_of_release later mentions)

theorem cancel_mentions (found : manager.calls.get? id = some call) :
    ∃ notices, (manager.cancel id).trail = manager.trail ++ notices ∧
      ∀ notice ∈ notices, ∀ named, notice.Mentions named → call.session = named := by
  cases opened : call.phase.window? with
  | none => exact ⟨[], by simp [cancel_of_outside found opened], by simp⟩
  | some resource =>
    refine ⟨(manager.locks.release resource call.session).notices,
      by simp [cancel_of_window found opened], ?_⟩
    intro notice member named mentions
    exact owner_of_release member mentions

/-- A session is named in the trail for its own calls, its locks and its being listed. -/
theorem step_mentions (sound : manager.Sound) (act : Act) :
    ∃ notices, (manager.step act).trail = manager.trail ++ notices ∧
      ∀ notice ∈ notices, ∀ named, notice.Mentions named →
        manager.caller? act = some named ∨
          (∃ resource, manager.locks.holder resource = some named) ∨
          ∃ user, manager.entrants.get? named = some user := by
  cases act with
  | enter | turnAway | store => exact ⟨[], (List.append_nil _).symm, by simp⟩
  | enlist entrant =>
    cases entered : manager.entrants.get? entrant with
    | none => exact ⟨[], by rw [step, enlist, entered, List.append_nil], by simp⟩
    | some user =>
      refine ⟨[.sessionStarted entrant user], by rw [step, enlist_of_entrant entered]; rfl, ?_⟩
      intro notice member named mentions
      rw [List.mem_singleton.mp member] at mentions
      cases mentions
      exact .inr (.inr ⟨user, entered⟩)
  | issue id caller request =>
    exact ⟨[], by rw [step, trail_issue, List.append_nil], by simp⟩
  | resume id =>
    cases found : manager.calls.get? id with
    | none => exact ⟨[], by rw [step, resume_of_none found, List.append_nil], by simp⟩
    | some call =>
      obtain ⟨seat, seated⟩ := sound.seated id call found
      obtain ⟨notices, trail, named⟩ := (resume_advance sound found seated).mentions
      refine ⟨notices, trail, ?_⟩
      intro notice member other mentions
      rcases named notice member other mentions with own | held
      · exact .inl (by rw [caller?, found, Option.map_some, own])
      · exact .inr (.inl held)
  | cancel id =>
    cases found : manager.calls.get? id with
    | none => exact ⟨[], by rw [step, cancel_of_none found, List.append_nil], by simp⟩
    | some call =>
      obtain ⟨notices, trail, named⟩ := cancel_mentions found
      refine ⟨notices, trail, ?_⟩
      intro notice member other mentions
      exact .inl (by rw [caller?, found, Option.map_some, named notice member other mentions])

namespace Gone

/-- Nothing is recorded about a session that is gone. -/
theorem silent (gone : manager.Gone session) (sound : manager.Sound)
    (numbered : manager.Numbered count) (act : Act) :
    ∃ notices, (manager.step act).trail = manager.trail ++ notices ∧
      ∀ notice ∈ notices, ¬ notice.Mentions session := by
  by_cases own : manager.caller? act = some session
  · exact ⟨[], by rw [(gone.spares sound own).2, List.append_nil], by simp⟩
  · obtain ⟨notices, trail, named⟩ := step_mentions sound act
    refine ⟨notices, trail, ?_⟩
    intro notice member mentions
    rcases named notice member session mentions with caller | ⟨resource, held⟩ | ⟨user, entered⟩
    · exact own caller
    · exact gone.lockless sound resource held
    · obtain ⟨seat, seated, -⟩ := gone.closed
      rw [(numbered.entrants session user entered).2] at seated
      cases seated

theorem waits_in_line (gone : manager.Gone session) (sound : manager.Sound)
    (seated : manager.seats.get? session = some seat) (member : id ∈ seat.line) :
    ∃ request, manager.calls.get? id = some ⟨session, request, .waiting⟩ := by
  obtain ⟨⟨owner, request, phase⟩, found, rfl, arrived⟩ :=
    ((sound.seats session seat seated).line.mem_iff id).mp member
  have outside := gone.outside sound found
  cases phase with
  | arriving => exact absurd rfl arrived
  | waiting => exact ⟨request, found⟩
  | loading | writing | reading | storing => cases outside

/-- The calls of a session that is gone are answered in turn. -/
theorem served_in_turn (gone : manager.Gone session) (sound : manager.Sound)
    (numbered : manager.Numbered count) (few : count ≤ 2 ^ 64)
    (seated : manager.seats.get? session = some seat) {ahead behind : List CallId}
    (line : seat.line = ahead ++ id :: behind) :
    (manager.run (ahead.map .resume)).answered? (.resume id) =
      some (session, .error (.sessionNotFound session)) := by
  induction ahead generalizing manager seat with
  | nil =>
    obtain ⟨request, found⟩ := gone.waits_in_line sound seated (show id ∈ seat.line by simp [line])
    have turned := gone.resume_head found seated (by simp [line])
    simp [answered?, found, turned]
  | cons first rest ih =>
    obtain ⟨request, found⟩ :=
      gone.waits_in_line sound seated (show first ∈ seat.line by simp [line])
    have turned : manager.step (.resume first) = manager.forget first session := by
      rw [Manager.step, gone.resume_head found seated (by simp [line])]
    have counted : (manager.step (.resume first)).Numbered (count + Act.openings [.resume first]) :=
      numbered.step sound few
    have reseated : (manager.step (.resume first)).seats.get? session =
        some { seat with line := seat.line.erase first } := by
      rw [turned]
      simp [seated]
    exact ih (gone.step sound numbered (.resume first)) (sound.step numbered (.resume first))
      counted reseated (by simp [line])

end Gone

theorem Removes.tears_down {released : List ResourceId} (sound : manager.Sound)
    (lone : manager.LoneRemovals)
    (removes : manager.Removes act session released) :
    TornDown session released manager (manager.step act) ∧ (manager.step act).Gone session := by
  obtain ⟨id, phase, rfl, found, succeeds⟩ := removes
  obtain ⟨seat, seated⟩ := sound.seated id _ found
  have here := sound.seats session seat seated
  have fits := sound.fits id _ found
  have advanced := resume_advance sound found seated
  rw [succeeds] at advanced
  have only : ∀ other phase, (manager.step (.resume id)).calls.get? other =
      some ⟨session, .removeSession, phase⟩ → other = id := by
    intro other phase pending
    rcases call_of_step sound pending with ⟨earlier, before⟩ | ⟨issued, -⟩
    · exact lone session other id _ _ before found
    · cases issued
  simp only [Manager.step] at only ⊢
  generalize (manager.resume id).2 = after at advanced only ⊢
  cases advanced with
  | removed head =>
    have tally := here.tally_served head found
    constructor
    · constructor
      · intro resource
        exact LockTable.mem_heldBy
      · exact Index.keys_ascending _
      · exact ⟨seat, seated, checkedOut_eq_heldBy tally⟩
      · simp
      · simp
    · constructor
      · simp [record, releaseAll, applyLocks, setSeat, Index.get?_insert]
      · rintro ⟨other, phase, pending⟩
        cases only other phase pending
        simp [Index.get?_erase] at pending

/-- What a session that is gone leaves behind stays so. -/
theorem Gone.run (gone : manager.Gone session) (sound : manager.Sound)
    (numbered : manager.Numbered count) (later : List Act)
    (few : count + Act.openings later ≤ 2 ^ 64) :
    (manager.run later).Gone session ∧
      ∃ newer, (manager.run later).trail = manager.trail ++ newer ∧
        ∀ notice ∈ newer, ¬ notice.Mentions session := by
  induction later generalizing manager count with
  | nil => exact ⟨gone, [], (List.append_nil _).symm, by simp⟩
  | cons act rest ih =>
    rw [Act.openings_cons, ← Nat.add_assoc] at few
    have counted : (manager.step act).Numbered (count + Act.openings [act]) :=
      numbered.step sound (by omega)
    obtain ⟨notices, trail, silent⟩ := gone.silent sound numbered act
    obtain ⟨stays, newer, told, quiet⟩ :=
      ih (gone.step sound numbered act) (sound.step numbered act) counted few
    refine ⟨stays, notices ++ newer, ?_, ?_⟩
    · calc (manager.run (act :: rest)).trail
        _ = (manager.step act).trail ++ newer := told
        _ = manager.trail ++ (notices ++ newer) := by rw [trail, List.append_assoc]
    · intro notice member
      rcases List.mem_append.mp member with early | late
      · exact silent notice early
      · exact quiet notice late

theorem Gone.finished {removed : Manager} (gone : manager.Gone session) (sound : manager.Sound)
    (numbered : manager.Numbered count) (few : count ≤ 2 ^ 64)
    (silent : ∃ newer, manager.trail = removed.trail ++ newer ∧
      ∀ notice ∈ newer, ¬ notice.Mentions session) :
    Finished session removed manager := by
  refine ⟨gone.lockless sound, gone.copyless sound, silent, ?_, ?_, ?_, ?_, ?_⟩
  · intro act own
    exact (gone.spares sound own).1
  · intro act outcome answers
    exact gone.refuses sound answers
  · intro id request fresh
    have unlisted : ∀ seat, manager.seats.get? session = some seat → seat.listed = false :=
      fun seat seated => gone.unlisted sound seated
    rw [answered?, issue_of_unlisted fresh unlisted]
    rfl
  · rintro id ⟨caller, request, phase⟩ found rfl
    obtain ⟨seat, seated, closed⟩ := gone.closed
    have outside := gone.outside sound found
    cases phase with
    | loading | writing | reading | storing => cases outside
    | waiting =>
      have member : id ∈ seat.line :=
        ((sound.seats _ seat seated).line.mem_iff id).mpr ⟨_, found, rfl, by simp⟩
      obtain ⟨ahead, behind, line⟩ := List.append_of_mem member
      refine ⟨ahead, ?_, gone.served_in_turn sound numbered few seated line⟩
      intro first before
      obtain ⟨request, waits⟩ := gone.waits_in_line sound seated
        (show first ∈ seat.line by rw [line]; exact List.mem_append_left _ before)
      exact ⟨request, .waiting, waits⟩
    | arriving =>
      have reseated : (manager.step (.resume id)).seats.get? caller =
          some { seat with line := seat.line ++ [id] } := by
        simp [Manager.step, resume, found, seated, await, setCall, setSeat, Index.get?_insert]
      have counted : (manager.step (.resume id)).Numbered (count + Act.openings [.resume id]) :=
        numbered.step sound few
      have answered := (gone.step sound numbered (.resume id)).served_in_turn
        (sound.step numbered (.resume id)) counted few reseated rfl
      refine ⟨id :: seat.line, ?_, answered⟩
      intro first before
      rcases List.mem_cons.mp before with rfl | early
      · exact ⟨request, .arriving, found⟩
      · obtain ⟨request, waits⟩ := gone.waits_in_line sound seated early
        exact ⟨request, .waiting, waits⟩
  · rintro act released ⟨id, phase, -, found, -⟩
    exact gone.left ⟨id, phase, found⟩

/-- New sessions take the numbers from zero on. -/
theorem taken_run (store : RecordStore) (acts : List Act) (few : Act.openings acts ≤ 2 ^ 64) :
    along step taken (start store) acts =
      (List.range (Act.openings acts)).map fun count => ⟨UInt64.ofNat count⟩ := by
  induction acts using List.reverseRecOn with
  | nil => rfl
  | append_singleton earlier act ih =>
    rw [Act.openings_append] at few
    have numbered := (sound_run store earlier (by omega)).2
    rw [along_append_singleton, ih (by omega), Act.openings_append]
    cases act with
    | enter user =>
      have next : taken (earlier.foldl step (start store)) (.enter user) =
          [⟨UInt64.ofNat (Act.openings earlier)⟩] := by
        rw [← numbered.next]
        rfl
      have one : Act.openings [.enter user] = 1 := rfl
      rw [next, one, List.range_succ, List.map_append]
      rfl
    | enlist | turnAway | issue | resume | cancel | store => exact List.append_nil _

theorem nodup_taken (store : RecordStore) (acts : List Act) (few : Act.openings acts ≤ 2 ^ 64) :
    (along step taken (start store) acts).Nodup := by
  rw [taken_run store acts few]
  apply List.Nodup.map_on _ List.nodup_range
  intro first one second two same
  have early : first < UInt64.size := Nat.lt_of_lt_of_le (List.mem_range.mp one) few
  have late : second < UInt64.size := Nat.lt_of_lt_of_le (List.mem_range.mp two) few
  calc first
    _ = (UInt64.ofNat first).toNat := (UInt64.toNat_ofNat_of_lt early).symm
    _ = (UInt64.ofNat second).toNat := congrArg UInt64.toNat (SessionId.mk.inj same)
    _ = second := UInt64.toNat_ofNat_of_lt late

/-- Each new session has a number of its own. A removal that succeeds gives back just what its
session holds, and from then on, whatever is done, the session has no locks, is not named in the
trail, changes nothing, and all its calls, other removals among them, are answered that there is no
such session. -/
theorem removal_is_complete_and_final (store : RecordStore) (acts : List Act)
    (few : Act.openings acts ≤ 2 ^ 64) :
    (along step taken (start store) acts).Nodup ∧
    ∀ earlier act later session released, acts = earlier ++ act :: later →
      ((start store).run earlier).Removes act session released →
      let removed := ((start store).run earlier).step act
      TornDown session released ((start store).run earlier) removed ∧
        Finished session removed ((start store).run acts) := by
  constructor
  · exact nodup_taken store acts few
  · rintro earlier act later session released rfl removes
    have upTo : Act.openings (earlier ++ [act]) + Act.openings later ≤ 2 ^ 64 := by
      rw [← Act.openings_append]
      simpa using few
    have before : Act.openings earlier ≤ 2 ^ 64 := by
      rw [Act.openings_append] at upTo
      omega
    obtain ⟨sound, numbered⟩ := sound_run store earlier before
    obtain ⟨torn, gone⟩ :=
      removes.tears_down sound (lone_removals_run store earlier before)
    obtain ⟨soundly, counted⟩ := sound_run store (earlier ++ [act]) (by omega)
    rw [run_append, run_singleton] at soundly counted
    obtain ⟨stays, silent⟩ := gone.run soundly counted later upTo
    obtain ⟨last, final⟩ := sound_run store (earlier ++ act :: later) few
    have whole : (start store).run (earlier ++ act :: later) =
        (((start store).run earlier).step act).run later := by
      rw [run_append]
      rfl
    rw [whole] at last final ⊢
    exact ⟨torn, stays.finished last final few silent⟩

/-- A session has a record checked out. A commit of it and a removal are issued, and the removal
comes first in line. -/
def removalBeforeCommit : List Act :=
  [.enter "ann", .enlist ⟨0⟩, .issue 0 ⟨0⟩ (.checkout 7), .resume 0, .resume 0, .resume 0,
    .issue 1 ⟨0⟩ (.commit 7), .issue 2 ⟨0⟩ .removeSession, .resume 2, .resume 1]

theorem removal_is_final_of_removalBeforeCommit :
    Act.openings (removalBeforeCommit ++ [.resume 2, .issue 3 ⟨0⟩ .removeSession]) ≤ 2 ^ 64 ∧
      ((start (.ofBooks [.titled 7 "old"])).run removalBeforeCommit).Removes (.resume 2) ⟨0⟩ [7] ∧
      Finished ⟨0⟩ (((start (.ofBooks [.titled 7 "old"])).run removalBeforeCommit).step (.resume 2))
        ((start (.ofBooks [.titled 7 "old"])).run
          (removalBeforeCommit ++ [.resume 2, .issue 3 ⟨0⟩ .removeSession])) := by
  have few : Act.openings (removalBeforeCommit ++
      [.resume 2, .issue 3 ⟨0⟩ .removeSession]) ≤ 2 ^ 64 := by decide
  have removes : ((start (.ofBooks [.titled 7 "old"])).run removalBeforeCommit).Removes
      (.resume 2) ⟨0⟩ [7] := ⟨2, .waiting, rfl, by decide, by decide⟩
  have final := (removal_is_complete_and_final (.ofBooks [.titled 7 "old"]) _ few).2
    removalBeforeCommit _ _ _ _ rfl removes
  exact ⟨few, removes, final.2⟩

end Manager

end RecordLocks
