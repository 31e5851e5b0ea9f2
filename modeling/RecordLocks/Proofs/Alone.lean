import RecordLocks.Proofs.Reachable
namespace RecordLocks

/-- How often a call in this phase has to be resumed at most before it ends. -/
def Phase.stepsLeft : Phase → Nat
  | .arriving => 5
  | .waiting => 4
  | .loading _ => 3
  | .writing _ _ | .reading _ _ => 2
  | .storing _ _ => 1

theorem Phase.stepsLeft_pos (phase : Phase) : 0 < phase.stepsLeft := by
  cases phase <;> simp [stepsLeft]

namespace Manager

def finish : Nat → Manager → CallId → Option Outcome × Manager
  | 0, manager, _ => (none, manager)
  | steps + 1, manager, id =>
    match manager.resume id with
    | (some outcome, after) => (some outcome, after)
    | (none, after) => finish steps after id

def ask (manager : Manager) (id : CallId) (session : SessionId) (request : Request) :
    Option Outcome × Manager :=
  match manager.issue id session request with
  | (some outcome, after) => (some outcome, after)
  | (none, after) => after.finish (Phase.stepsLeft .arriving) id

variable {manager after : Manager} {id : CallId} {session : SessionId} {request : Request}
  {seat : Seat}

structure Alone (manager : Manager) (id : CallId) (call : Call) : Prop where
  found : manager.calls.get? id = some call
  only : ∀ other, other ≠ id → manager.calls.get? other = none

theorem Alone.head {phase : Phase} (alone : manager.Alone id ⟨session, request, phase⟩)
    (sound : manager.SoundSeat session seat) (arrived : phase ≠ .arriving) :
    seat.line.head? = some id := by
  have member : id ∈ seat.line := (sound.line.mem_iff id).mpr ⟨_, alone.found, rfl, arrived⟩
  cases split : seat.line with
  | nil =>
    rw [split] at member
    cases member
  | cons first rest =>
    by_cases same : first = id
    · rw [same]
      rfl
    · obtain ⟨call, found, -⟩ := (sound.line.mem_iff first).mp (by simp [split])
      rw [alone.only first same] at found
      cases found

theorem alone_setCall {call : Call}
    (only : ∀ other, other ≠ id → (after.setCall id call).calls.get? other = none) :
    (after.setCall id call).Alone id call :=
  ⟨by simp [setCall, Index.get?_insert], only⟩

/-- A session that the only call is not for has nothing to do. -/
theorem Alone.phaseAt {call : Call} (alone : manager.Alone id call)
    (sound : manager.SoundSeat session seat) (other : call.session ≠ session) :
    manager.phaseAt seat = .waiting := by
  cases split : seat.line with
  | nil => simp [Manager.phaseAt, served?, split]
  | cons first rest =>
    obtain ⟨there, found, own, -⟩ := (sound.line.mem_iff first).mp (by simp [split])
    have same : first = id := by
      by_contra different
      rw [alone.only first different] at found
      cases found
    rw [same, alone.found] at found
    cases found
    exact absurd own other

/-- The only call never waits for its session. -/
theorem Alone.isReady (alone : manager.Alone id ⟨session, request, .waiting⟩)
    (sound : manager.Sound) : manager.isReady id = true := by
  obtain ⟨seat, seated⟩ := sound.seated id _ alone.found
  have head := alone.head (sound.seats session seat seated) (by simp)
  simp [Manager.isReady, alone.found, seated, isServed, head]

/-- A call that works on its record waits for time to pass. -/
theorem unready_of_working {call : Call} (found : manager.calls.get? id = some call)
    (working : call.phase.window?.isSome) : manager.isReady id = false := by
  simp only [Manager.isReady, found]
  cases phase : call.phase with
  | arriving | waiting =>
    rw [phase] at working
    cases working
  | loading | writing | reading | storing => rfl

/-- Each step brings the only call nearer to its end. -/
theorem Alone.resume {phase : Phase} (alone : manager.Alone id ⟨session, request, phase⟩)
    (sound : manager.Sound) :
    (∃ outcome, (manager.resume id).1 = some outcome ∧ (manager.resume id).2.calls = ∅) ∨
      ∃ next, (manager.resume id).1 = none ∧
        (manager.resume id).2.Alone id ⟨session, request, next⟩ ∧
        next.stepsLeft < phase.stepsLeft := by
  obtain ⟨seat, seated⟩ := sound.seated id _ alone.found
  have here := sound.seats session seat seated
  have advanced := resume_advance sound alone.found seated
  have others : ∀ other, other ≠ id → (manager.resume id).2.calls.get? other = none := by
    intro other different
    rw [advanced.calls_other different]
    exact alone.only other different
  have ended : (manager.resume id).2.calls.get? id = none → (manager.resume id).2.calls = ∅ := by
    intro gone
    apply Index.ext_get?
    intro other
    by_cases same : other = id
    · rw [same]
      exact gone
    · exact others other same
  generalize (manager.resume id).1 = outcome at advanced ⊢
  generalize (manager.resume id).2 = after at advanced others ended ⊢
  cases advanced with
  | behind blocked => exact absurd (alone.head here (by simp)) blocked
  | queued | opened | committing | loadedToWrite | loadedToRead | worked =>
    right
    exact ⟨_, rfl, alone_setCall others, by simp [Phase.stepsLeft]⟩
  | removed | shut | contended | edited | notCheckedOut | discarded | nothingDiscarded | told
  | vanished | checkedOut | readDone | refused | stored =>
    left
    refine ⟨_, rfl, ended ?_⟩
    simp [record, setSeat, setSession, releaseAll, applyLocks, Index.get?_erase]

theorem finish_of_wait {steps : Nat} (waits : manager.resume id = (none, after)) :
    manager.finish (steps + 1) id = after.finish steps id := by
  simp [finish, waits]

theorem SoundSeat.line_of_not_pending (sound : manager.SoundSeat session seat)
    (quiet : ¬ manager.Pending session) : seat.line = [] := by
  apply List.eq_nil_iff_forall_not_mem.mpr
  intro id member
  obtain ⟨call, found, own, -⟩ := (sound.line.mem_iff id).mp member
  exact quiet ⟨id, call, found, own⟩

theorem phaseAt_of_empty (empty : seat.line = []) : manager.phaseAt seat = .waiting := by
  simp [phaseAt, served?, empty]

theorem ask_of_idle (seated : manager.seats.get? session = some seat) (listed : seat.listed = true)
    (idle : seat.line = []) (fresh : manager.calls.get? id = none) :
    manager.ask id session request =
      ((manager.setSeat session
        { seat with line := [id], listed := decide (request ≠ .removeSession) }).setCall id
          ⟨session, request, .waiting⟩).finish 4 id := by
  simp only [ask, issue_of_listed fresh seated listed, Phase.stepsLeft]
  apply finish_of_wait
  simp [resume, setSeat, setCall, Manager.await, Index.get?_insert, idle]

end Manager

end RecordLocks
