import RecordLocks.Proofs.Frame
import RecordLocks.Proofs.Replay
namespace RecordLocks

/-- What can be done at once to a table and its guards. A guard ends by being dropped or
released. -/
inductive Deed where
  | acquire (resource : ResourceId) (owner : SessionId)
  | lock (resource : ResourceId) (owner : SessionId)
  | release (resource : ResourceId) (owner : SessionId)
  | releaseAll (owner : SessionId)
  | endGuard (number : Nat)
  | persist (number : Nat)
  deriving DecidableEq, Repr

namespace GuardedTable

def step (desk : GuardedTable) : Deed → GuardedTable
  | .acquire resource owner => (desk.acquire resource owner).2
  | .lock resource owner => (desk.lock resource owner).2
  | .release resource owner => (desk.release resource owner).2
  | .releaseAll owner => (desk.releaseAll owner).2
  | .endGuard number => (desk.endGuard number).2
  | .persist number => (desk.persist number).2

def run (desk : GuardedTable) (deeds : List Deed) : GuardedTable := deeds.foldl step desk

/-- The refusal that a deed is answered with, if it is. -/
def refusals (desk : GuardedTable) : Deed → List Refusal
  | .acquire resource owner => (refusalOf owner (desk.acquire resource owner).1).toList
  | .lock resource owner => (refusalOf owner (desk.lock resource owner).1).toList
  | _ => []

/-- The deed takes a lock that its owner has, or there is no lock that it gives back. -/
def Idle (desk : GuardedTable) : Deed → Prop
  | .acquire resource owner | .lock resource owner => desk.table.holder resource = some owner
  | .release resource owner => desk.table.holder resource ≠ some owner
  | .releaseAll owner => desk.table.heldBy owner = []
  | .endGuard number => ∀ guard, desk.guard? number = some guard →
    desk.table.holder guard.resource ≠ some guard.owner
  | .persist _ => True

variable (desk : GuardedTable) (resource : ResourceId) (owner : SessionId)

/-- To lock is to acquire and to get a guard. -/
theorem lock_eq :
    (desk.lock resource owner).2.table = (desk.table.acquire resource owner).table ∧
      (desk.lock resource owner).2.trail =
        desk.trail ++ (desk.table.acquire resource owner).notices ∧
      refusalOf owner (desk.lock resource owner).1 =
        refusalOf owner (desk.table.acquire resource owner).answer := by
  simp only [lock, acquire, apply]
  cases (desk.table.acquire resource owner).answer with
  | error conflict => exact ⟨rfl, rfl, rfl⟩
  | ok => exact ⟨rfl, rfl, rfl⟩

theorem endGuard_of_guard {number : Nat} {guard : LockGuard}
    (found : desk.guard? number = some guard) :
    (desk.endGuard number).2 =
      ((desk.release guard.resource guard.owner).2).forget number := by
  simp [endGuard, found]

theorem step_told (deed : Deed) :
    ∃ notices, (desk.step deed).trail = desk.trail ++ notices ∧
      Told desk.table notices (desk.step deed).table (desk.refusals deed) := by
  cases deed with
  | acquire resource owner => exact ⟨_, rfl, .acquire desk.table resource owner⟩
  | lock resource owner =>
    obtain ⟨table, trail, refusal⟩ := desk.lock_eq resource owner
    refine ⟨_, trail, ?_⟩
    simp only [step, refusals, table, refusal]
    exact .acquire desk.table resource owner
  | release resource owner => exact ⟨_, rfl, .release desk.table resource owner⟩
  | releaseAll owner => exact ⟨_, rfl, .releaseAll desk.table owner⟩
  | endGuard number =>
    cases found : desk.guard? number with
    | none =>
      simp only [step, endGuard, found]
      exact ⟨[], by simp, Told.nothing⟩
    | some guard =>
      simp only [step, desk.endGuard_of_guard found]
      exact ⟨_, rfl, .release desk.table guard.resource guard.owner⟩
  | persist number =>
    refine ⟨[], ?_, ?_⟩
    · simp only [step, persist]
      cases desk.guard? number <;> simp [forget]
    · simp only [step, persist]
      cases desk.guard? number <;> exact Told.nothing

theorem idle_step {deed : Deed} (idle : desk.Idle deed) :
    (desk.step deed).table = desk.table ∧ (desk.step deed).trail = desk.trail := by
  cases deed with
  | acquire resource owner =>
    simp [step, GuardedTable.acquire, apply, LockTable.acquire_of_own idle]
  | lock resource owner =>
    obtain ⟨table, trail, -⟩ := desk.lock_eq resource owner
    rw [LockTable.acquire_of_own idle] at table trail
    exact ⟨table, by simpa [step] using trail⟩
  | release resource owner =>
    simp [step, GuardedTable.release, apply, LockTable.release_of_other idle]
  | releaseAll owner =>
    have none : desk.table.heldBy owner = [] := idle
    refine ⟨?_, by simp [step, GuardedTable.releaseAll, apply, LockTable.releaseAll, none]⟩
    apply LockTable.ext_holder
    intro resource
    refine (LockTable.holder_releaseAll desk.table resource owner).trans (if_neg ?_)
    intro held
    have member := LockTable.mem_heldBy.mpr held
    rw [none] at member
    cases member
  | endGuard number =>
    cases found : desk.guard? number with
    | none => simp [step, endGuard, found]
    | some guard =>
      simp [step, desk.endGuard_of_guard found, GuardedTable.release, apply, forget,
        LockTable.release_of_other (idle guard found)]
  | persist number =>
    simp only [step, persist]
    cases desk.guard? number <;> exact ⟨rfl, rfl⟩

theorem audited_run (deeds : List Deed) :
    Audited (empty.run deeds).table (empty.run deeds).trail (along step refusals empty deeds) := by
  induction deeds using List.reverseRecOn with
  | nil => exact Audited.empty
  | append_singleton earlier deed ih =>
    obtain ⟨notices, trail, told⟩ := (empty.run earlier).step_told deed
    have last : empty.run (earlier ++ [deed]) = (empty.run earlier).step deed := by simp [run]
    rw [last, along_append_singleton, trail]
    exact told.audited ih

end GuardedTable

namespace Manager

/-- The session that an act answers, and the answer. -/
def answered? (manager : Manager) : Act → Option (SessionId × Outcome)
  | .issue id session request => (manager.issue id session request).1.map (session, ·)
  | .resume id =>
    (manager.calls.get? id).bind fun call => (manager.resume id).1.map (call.session, ·)
  | _ => none

/-- The refusal that an answer gives to a session. -/
def refusalsOf (session : SessionId) : Option Outcome → List Refusal
  | some (.error (.lockConflict resource holder)) => [⟨resource, holder, session⟩]
  | _ => []

/-- The refusal that a session is answered with in an act, if one is. -/
def refusals (manager : Manager) (act : Act) : List Refusal :=
  match manager.answered? act with
  | some (session, outcome) => refusalsOf session (some outcome)
  | none => []

/-- The trail is carried on by what happened to the locks, with the refusals given. -/
def Continues (before after : Manager) (refusals : List Refusal) : Prop :=
  ∃ notices, after.trail = before.trail ++ notices ∧ Told before.locks notices after.locks refusals

namespace Continues

variable {before after : Manager} {refusals : List Refusal} {resource : ResourceId}
  {session : SessionId} {notice : Notice}

theorem of_eq (locks : after.locks = before.locks) (trail : after.trail = before.trail) :
    Continues before after [] := by
  refine ⟨[], by simp [trail], ?_⟩
  rw [locks]
  exact Told.nothing

theorem congr (continues : Continues before after refusals) {other : Manager}
    (locks : other.locks = after.locks) (trail : other.trail = after.trail) :
    Continues before other refusals := by
  simp only [Continues, locks, trail]
  exact continues

theorem record (continues : Continues before after refusals) (aside : notice.isAside = true) :
    Continues before (after.record notice) refusals := by
  obtain ⟨notices, trail, told⟩ := continues
  exact ⟨notices ++ [notice], by simp [Manager.record, trail], told.followed aside⟩

theorem closeWindow (manager : Manager) (session : SessionId) (resource : ResourceId) :
    Continues manager (manager.closeWindow session resource) [] := by
  refine ⟨_, trail_closeWindow manager session resource, ?_⟩
  rw [locks_closeWindow]
  exact Told.release _ _ _

theorem answer (continues : Continues before after refusals) (id : CallId) (session : SessionId)
    (outcome : Outcome) : Continues before (after.answer id session outcome).2 refusals :=
  continues.congr (locks_forget _ _ _) (trail_forget _ _ _)

end Continues

variable (manager : Manager) (id : CallId) (call : Call) (seat : Seat) (resource : ResourceId)

/-- What an answered or waiting call did to the locks is told, and so is its refusal. -/
def Reports (before : Manager) (session : SessionId) (result : Option Outcome × Manager) : Prop :=
  Continues before result.2 (refusalsOf session result.1)

theorem openWindow_reports :
    manager.Reports call.session (manager.openWindow id call resource) := by
  have told := Told.acquire manager.locks resource call.session
  simp only [openWindow, acquire, applyLocks]
  cases answered : (manager.locks.acquire resource call.session).answer with
  | error conflict =>
    rw [answered] at told
    exact Continues.answer ⟨_, rfl, told⟩ _ _ _
  | ok =>
    rw [answered] at told
    exact ⟨_, rfl, told⟩

theorem serveCommit_reports :
    manager.Reports call.session (manager.serveCommit id call seat resource) := by
  have told := Told.acquire manager.locks resource call.session
  simp only [serveCommit]
  cases seat.session.copy? resource with
  | none => exact Continues.answer (.of_eq rfl rfl) _ _ _
  | some book =>
    simp only [acquire, applyLocks]
    cases answered : (manager.locks.acquire resource call.session).answer with
    | error conflict =>
      rw [answered] at told
      exact Continues.answer ⟨_, rfl, told⟩ _ _ _
    | ok =>
      rw [answered] at told
      exact ⟨_, rfl, told⟩

theorem serveEdit_reports (field : BookField) (value : String) :
    manager.Reports call.session (manager.serveEdit id call seat resource field value) := by
  simp only [serveEdit, Session.edit]
  cases seat.session.copy? resource with
  | none => exact Continues.answer (.of_eq rfl rfl) _ _ _
  | some book => exact Continues.answer (.of_eq rfl rfl) _ _ _

theorem serveDiscard_reports :
    manager.Reports call.session (manager.serveDiscard id call seat resource) := by
  have released : Continues manager ((manager.setSession call.session seat
      (seat.session.release resource).2).release resource call.session).2 [] :=
    ⟨_, rfl, Told.release manager.locks resource call.session⟩
  simp only [serveDiscard]
  cases (seat.session.release resource).1 with
  | none => exact released.answer _ _ _
  | some book => exact (released.record rfl).answer _ _ _

theorem serveRemoval_reports :
    manager.Reports call.session (manager.serveRemoval id call seat) := by
  have released : Continues manager ((manager.setSeat call.session
      { seat with session := seat.session.clear.2, closed := true }).releaseAll
        call.session).2 [] :=
    ⟨_, rfl, Told.releaseAll manager.locks call.session⟩
  exact (released.record rfl).answer _ _ _

theorem serve_reports : manager.Reports call.session (manager.serve id call seat) := by
  obtain ⟨session, request, phase⟩ := call
  cases request with
  | removeSession => exact manager.serveRemoval_reports id _ seat
  | write resource | read resource | checkout resource =>
    simp only [serve]
    split
    · exact Continues.answer (.of_eq rfl rfl) _ _ _
    · exact manager.openWindow_reports id _ resource
  | edit resource field value =>
    simp only [serve]
    split
    · exact Continues.answer (.of_eq rfl rfl) _ _ _
    · exact manager.serveEdit_reports id _ seat resource field value
  | commit resource =>
    simp only [serve]
    split
    · exact Continues.answer (.of_eq rfl rfl) _ _ _
    · exact manager.serveCommit_reports id _ seat resource
  | discard resource =>
    simp only [serve]
    split
    · exact Continues.answer (.of_eq rfl rfl) _ _ _
    · exact manager.serveDiscard_reports id _ seat resource
  | locksHeld =>
    simp only [serve]
    split
    · exact Continues.answer (.of_eq rfl rfl) _ _ _
    · exact Continues.answer (.of_eq rfl rfl) _ _ _

theorem proceed_reports (book : Book) :
    manager.Reports call.session (manager.proceed id call seat resource book) := by
  obtain ⟨session, request, phase⟩ := call
  cases request with
  | write asked field value =>
    simp only [proceed, Session.edit]
    cases (seat.session.checkout resource book).2.copy? resource with
    | none =>
      exact ((Continues.closeWindow _ session resource).congr rfl rfl).answer _ _ _
    | some copy => exact .of_eq rfl rfl
  | read asked field => exact .of_eq rfl rfl
  | checkout | edit | commit | discard | locksHeld | removeSession =>
    simp only [proceed]
    cases (seat.session.checkout resource book).2.copy? resource with
    | none => exact Continues.answer (.of_eq rfl rfl) _ _ _
    | some copy => exact Continues.answer (.of_eq rfl rfl) _ _ _

theorem load_reports : manager.Reports call.session (manager.load id call seat resource) := by
  simp only [load, RecordStore.get]
  cases manager.store.books.get? resource with
  | none => exact (Continues.closeWindow manager call.session resource).answer _ _ _
  | some book => exact manager.proceed_reports id call seat resource book

theorem finishRead_reports (field : BookField) :
    manager.Reports call.session (manager.finishRead id call seat resource field) := by
  have closed := Continues.closeWindow manager call.session resource
  simp only [finishRead, Session.readField]
  cases seat.session.copy? resource with
  | none => exact closed.answer _ _ _
  | some book => exact closed.answer _ _ _

theorem finishWrite_reports (edited : Book) :
    manager.Reports call.session (manager.finishWrite id call resource edited) := by
  simp only [finishWrite, RecordStore.update]
  cases manager.store.contains edited.id with
  | false => exact (Continues.closeWindow manager call.session resource).answer _ _ _
  | true =>
    obtain ⟨notices, trail, told⟩ := Continues.closeWindow
      ({ manager with store := manager.store.put edited }.record
        (.committed call.session resource)) call.session resource
    refine Continues.answer ⟨.committed call.session resource :: notices, ?_, ?_⟩ _ _ _
    · simpa [record] using trail
    · exact told.preceded rfl

theorem resume_reports (found : manager.calls.get? id = some call) :
    manager.Reports call.session (manager.resume id) := by
  simp only [resume, found]
  cases manager.seats.get? call.session with
  | none => exact .of_eq rfl rfl
  | some seat =>
    obtain ⟨session, request, phase⟩ := call
    cases phase with
    | arriving | writing => exact .of_eq rfl rfl
    | waiting =>
      simp only
      split
      · exact manager.serve_reports id _ seat
      · exact .of_eq rfl rfl
    | loading resource => exact manager.load_reports id _ seat resource
    | reading resource field => exact manager.finishRead_reports id _ seat resource field
    | storing resource edited => exact manager.finishWrite_reports id _ resource edited

theorem step_continues (act : Act) :
    Continues manager (manager.step act) (manager.refusals act) := by
  cases act with
  | enter | turnAway | store => exact .of_eq rfl rfl
  | enlist session =>
    simp only [step, enlist]
    cases manager.entrants.get? session with
    | none => exact .of_eq rfl rfl
    | some user => exact Continues.record (.of_eq rfl rfl) rfl
  | issue id session request =>
    simp only [step, refusals, answered?, issue]
    split
    · exact .of_eq rfl rfl
    · cases manager.listed? session with
      | none => exact .of_eq rfl rfl
      | some seat =>
        by_cases removal : request = .removeSession
        · simp only [removal, if_true]
          exact .of_eq rfl rfl
        · simp only [removal, if_false]
          exact .of_eq rfl rfl
  | resume id =>
    cases found : manager.calls.get? id with
    | none => simpa [step, refusals, answered?, resume, found] using Continues.of_eq rfl rfl
    | some call =>
      have reports := manager.resume_reports id call found
      simp only [step, refusals, answered?, found, Option.bind_some]
      generalize manager.resume id = result at reports ⊢
      obtain ⟨outcome, after⟩ := result
      cases outcome with
      | none => exact reports
      | some outcome => exact reports
  | cancel id =>
    simp only [step, cancel]
    split
    · exact .of_eq rfl rfl
    · rename_i call found
      split
      · exact .of_eq (locks_forget _ _ _) (trail_forget _ _ _)
      · rename_i resource opened
        exact (Continues.closeWindow manager call.session resource).congr (locks_forget _ _ _)
          (trail_forget _ _ _)

theorem audited_run (store : RecordStore) (acts : List Act) :
    Audited ((start store).run acts).locks ((start store).run acts).trail
      (along step refusals (start store) acts) := by
  induction acts using List.reverseRecOn with
  | nil => exact Audited.empty
  | append_singleton earlier act ih =>
    obtain ⟨notices, trail, told⟩ := ((start store).run earlier).step_continues act
    rw [run_append, run_singleton, along_append_singleton, trail]
    exact told.audited ih

end Manager

/-- Whatever is done to a table with its guards, and whatever sessions do to the locks of a
manager, the trail read from its beginning leads to the locks as they are. Each entry tells of
something that could happen when it was made; the contentions are the refusals that were
answered, in this order; and what takes no lock and gives none back is not told as such. -/
theorem trail_replays_to_locks :
    (∀ deeds : List Deed,
      let desk := GuardedTable.empty.run deeds
      Audited desk.table desk.trail
        (along GuardedTable.step GuardedTable.refusals .empty deeds) ∧
      ∀ deed, desk.Idle deed →
        (desk.step deed).table = desk.table ∧ (desk.step deed).trail = desk.trail) ∧
    (∀ (store : RecordStore) (acts : List Act),
      let manager := (Manager.start store).run acts
      Audited manager.locks manager.trail
        (along Manager.step Manager.refusals (.start store) acts) ∧
      ∀ act, (manager.step act).locks = manager.locks →
        ∃ notices, (manager.step act).trail = manager.trail ++ notices ∧
          ∀ notice ∈ notices, notice.isMove = false) := by
  constructor
  · intro deeds desk
    constructor
    · exact GuardedTable.audited_run deeds
    · intro deed idle
      exact desk.idle_step idle
  · intro store acts manager
    constructor
    · exact Manager.audited_run store acts
    · intro act same
      obtain ⟨notices, trail, told⟩ := manager.step_continues act
      exact ⟨notices, trail, told.still same⟩

/-- A lock has gone to another owner while the first one's guard is still there. -/
def staleGuard : List Deed := [.lock 7 ⟨0⟩, .release 7 ⟨0⟩, .lock 7 ⟨1⟩]

/-- The guard ends without a trace. -/
theorem trail_replays_to_locks_of_staleGuard :
    (GuardedTable.empty.run staleGuard).Idle (.endGuard 0) ∧
      ((GuardedTable.empty.run staleGuard).step (.endGuard 0)).trail =
        [.lockAcquired 7 ⟨0⟩, .lockReleased 7 ⟨0⟩, .lockAcquired 7 ⟨1⟩] := by
  have idle : (GuardedTable.empty.run staleGuard).Idle (.endGuard 0) := by
    rintro guard ⟨⟩
    decide
  have same := ((trail_replays_to_locks.1 staleGuard).2 (.endGuard 0) idle).2
  exact ⟨idle, same⟩

end RecordLocks
