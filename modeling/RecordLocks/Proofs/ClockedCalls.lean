import RecordLocks.Proofs.SoloCalls
import RecordLocks.Proofs.TakingTurns
namespace RecordLocks.Timeline

variable {timeline after : Timeline} {manager next : Manager} {id : CallId}
  {session holder : SessionId} {seat : Seat} {copies : Session} {request : Request} {phase : Phase}
  {call : Call} {resource : ResourceId} {book : Book}
  {outcome : Outcome} {ending : Ending} {steps deadline target : Nat}

def atTime (timeline : Timeline) (now : Nat) : Timeline := { timeline with now := now }

theorem run_of_answer (answered : manager.resume id = (some outcome, next)) :
    (timeline.withManager manager).run (steps + 1) id =
      (timeline.withManager next).finish id (.answered outcome) := by
  have resumed : (timeline.withManager manager).manager.resume id = (some outcome, next) := answered
  rw [run, resumed]
  rfl

/-- A call goes on at once if what it does next takes no time. -/
theorem run_of_step (resumed : manager.resume id = (none, next))
    (found : next.calls.get? id = some call) (prompt : timeline.latency.ofPhase call.phase = 0)
    (ready : call.phase = .waiting → next.isReady id = true) :
    (timeline.withManager manager).run (steps + 1) id =
      (timeline.withManager next).run steps id := by
  have goesOn : ¬ (call.phase = .waiting ∧ (!next.isReady id) = true) := by
    intro ⟨waits, stuck⟩
    simp [ready waits] at stuck
  have resumed : (timeline.withManager manager).manager.resume id = (none, next) := resumed
  have prompt : (timeline.withManager manager).latency.ofPhase call.phase = 0 := prompt
  rw [run, resumed]
  simp only [found, prompt, Nat.lt_irrefl, if_neg goesOn]
  rfl

theorem run_of_delay (resumed : manager.resume id = (none, next))
    (found : next.calls.get? id = some call)
    (slow : 0 < timeline.latency.ofPhase call.phase) :
    (timeline.withManager manager).run (steps + 1) id =
      (timeline.withManager next).setTimer id (timeline.latency.ofPhase call.phase) := by
  have resumed : (timeline.withManager manager).manager.resume id = (none, next) := resumed
  have slow : 0 < (timeline.withManager manager).latency.ofPhase call.phase := slow
  rw [run, resumed]
  simp only [found, if_pos slow]
  rfl

/-- While the only call works on its record, nobody is ready. -/
theorem unready_serving (timeline : Timeline) (quiet : manager.calls = ∅)
    (working : phase.window?.isSome) :
    (timeline.withManager (manager.serving id session seat copies request phase)).ready? =
      none := by
  rw [ready?, List.find?_eq_none]
  intro other member ready
  have same : other = id := by
    rw [Index.mem_keys, Index.contains] at member
    simp only [withManager, Manager.serving, Manager.setCall, Manager.setSession, Manager.setSeat,
      quiet, Index.get?_insert, Index.get?_emptyCollection] at member
    by_contra different
    simp [Ne.symm different] at member
  have rests : (manager.serving id session seat copies request phase).isReady id = false :=
    Manager.unready_of_working Manager.calls_serving working
  rw [same] at ready
  exact absurd (rests.symm.trans ready) Bool.false_ne_true

theorem settle_asleep (quiet : manager.calls = ∅) (working : phase.window?.isSome) (delay : Nat) :
    ((timeline.withManager (manager.serving id session seat copies request phase)).setTimer id
        delay).settle =
      (timeline.withManager (manager.serving id session seat copies request phase)).setTimer id
        delay :=
  settle_of_not_ready (unready_serving timeline quiet working)

theorem hasEnded_finish : (timeline.finish id ending).hasEnded id = true := by
  simp [hasEnded, finish]

theorem awaitWithin_finish (rounds : Nat) :
    (timeline.finish id ending).awaitWithin rounds id = timeline.finish id ending := by
  cases rounds with
  | zero => rfl
  | succ rounds => rw [awaitWithin, if_pos hasEnded_finish]

/-- What has ended before and is still to be told stays so. -/
theorem claim_finish (untold : timeline.hasEnded id = false) :
    (timeline.finish id ending).claim id = (some ending, timeline) := by
  have others : ∀ told ∈ timeline.endings, told.1 ≠ id := by
    simpa [hasEnded] using untold
  have absent : timeline.endings.lookup id = none := by
    rw [List.lookup_eq_none_iff]
    intro told member
    simpa using (others told member).symm
  have kept : timeline.endings.filter (·.1 ≠ id) = timeline.endings :=
    List.filter_eq_self.mpr (by simpa using others)
  simp only [ne_eq, decide_not] at kept
  simp [claim, finish, List.lookup_append, absent, kept]

theorem ask_of_ending (ended : timeline.spawn id session request = after.finish id ending)
    (untold : after.hasEnded id = false) :
    timeline.ask id session request = (some ending, after) := by
  rw [ask, ended, await, awaitWithin_finish, claim_finish untold]

/-- A call that has slept ends when it is woken. -/
theorem moveTo_of_timer (timer : timeline.timers = [⟨id, deadline⟩])
    (idle : timeline.errands = ∅)
    (ends : (({ timeline with timers := [] }.atTime deadline).withManager
        timeline.manager).runCall id =
      (({ timeline with timers := [] }.atTime deadline).withManager next).finish id ending)
    (quiet : next.calls = ∅) :
    timeline.moveTo deadline =
      (({ timeline with timers := [] }.atTime deadline).withManager next).finish id ending := by
  have due : timeline.timers.partition (·.deadline ≤ deadline) = ([⟨id, deadline⟩], []) := by
    simp [timer]
  have awake : { timeline with now := deadline, timers := [] }.wake id =
      { timeline with now := deadline, timers := [] }.runCall id := by
    simp [wake, idle]
  have ends : { timeline with now := deadline, timers := [] }.runCall id = _ := ends
  rw [moveTo, due]
  simp only [List.foldl_cons, List.foldl_nil, awake, ends]
  exact settle_of_not_ready (ready?_of_quiet quiet)

theorem nextDeadline?_of_timer (timer : timeline.timers = [⟨id, deadline⟩]) :
    timeline.nextDeadline? = some deadline := by
  rw [nextDeadline?, timer]
  rfl

theorem await_of_timer (timer : timeline.timers = [⟨id, deadline⟩])
    (untold : timeline.hasEnded id = false)
    (woken : timeline.moveTo deadline = after.finish id ending) :
    timeline.await id = after.finish id ending := by
  have pending : ¬ timeline.hasEnded id = true := by simp [untold]
  rw [await, patience, awaitWithin, if_neg pending, nextDeadline?_of_timer timer]
  simp only [woken, awaitWithin_finish]

theorem advanceTo_of_timer (timer : timeline.timers = [⟨id, deadline⟩]) (due : deadline ≤ target)
    (woken : timeline.moveTo deadline = after) (last : after.timers = []) :
    timeline.advanceTo target = after.atTime (max target after.now) := by
  have rests : ∀ rounds, after.advanceWithin rounds target = after := by
    intro rounds
    cases rounds with
    | zero => rfl
    | succ rounds =>
      rw [advanceWithin, nextDeadline?, last]
      rfl
  rw [advanceTo, patience, advanceWithin, nextDeadline?_of_timer timer]
  simp only [if_pos due, woken, rests]
  rfl

theorem spawn_of_leisure (leisure : timeline.manager.AtLeisure id session seat)
    (request : Request) :
    timeline.spawn id session request =
      ((timeline.withManager (timeline.manager.serving id session
        { seat with listed := decide (request ≠ .removeSession) } seat.session request
          .waiting)).run 4 id).settle := by
  have joined : ((timeline.manager.setSeat session
      { seat with listed := decide (request ≠ .removeSession) }).setCall id
        ⟨session, request, .arriving⟩).resume id =
      (none, timeline.manager.serving id session
        { seat with listed := decide (request ≠ .removeSession) } seat.session request
          .waiting) := by
    simp [Manager.resume, Manager.serving, Manager.setSession, Manager.setSeat, Manager.setCall,
      Manager.await, Index.get?_insert, leisure.line]
  have ready : (timeline.manager.serving id session
      { seat with listed := decide (request ≠ .removeSession) } seat.session request
        .waiting).isReady id = true := by
    simp [Manager.isReady, Manager.calls_serving, Manager.seats_serving, Manager.isServed]
  rw [spawn, Manager.issue_of_listed leisure.fresh leisure.seated leisure.listed]
  simp only [runCall, callSteps]
  rw [run_of_step joined Manager.calls_serving rfl fun _ => ready]

theorem spawn_of_stays (leisure : timeline.manager.AtLeisure id session seat)
    (stays : request ≠ .removeSession) :
    timeline.spawn id session request =
      ((timeline.withManager (timeline.manager.serving id session seat seat.session request
        .waiting)).run 4 id).settle := by
  have same : { seat with listed := decide (request ≠ .removeSession) } = seat := by
    rw [decide_eq_true stays, ← leisure.listed]
  rw [spawn_of_leisure leisure, same]

/-- Who asks for a locked record is refused, and no time passes. -/
theorem spawn_contended (leisure : timeline.manager.AtLeisure id session seat)
    (opens : request.opens? = some resource)
    (held : timeline.manager.locks.holder resource = some holder) (foreign : holder ≠ session)
    (rest : timeline.ready? = none) :
    timeline.spawn id session request =
      (timeline.withManager (timeline.manager.record
        (.lockContention resource holder session))).finish id
          (.answered (.error (.lockConflict resource holder))) := by
  rw [spawn_of_stays leisure (Manager.stays_of_opens opens),
    run_of_answer (leisure.resume_contended opens held foreign)]
  exact settle_of_not_ready rest

/-- Who asks for the record of a session at work is refused, and the work goes on beside it. -/
theorem spawn_beside {other : CallId} {rival : SessionId} {rivalSeat : Seat} {asked : Request}
    (busy : timeline.manager = manager.serving id session seat copies request phase)
    (quiet : manager.calls = ∅) (working : phase.window?.isSome) (different : other ≠ id)
    (foreign : session ≠ rival) (leisure : manager.AtLeisure other rival rivalSeat)
    (opens : asked.opens? = some resource)
    (held : manager.locks.holder resource = some session) :
    timeline.spawn other rival asked =
      (timeline.withManager ((manager.record
        (.lockContention resource session rival)).serving id session seat copies request
          phase)).finish other (.answered (.error (.lockConflict resource session))) := by
  have unready : (timeline.withManager timeline.manager).ready? = none := by
    rw [busy]
    exact timeline.unready_serving quiet working
  have beside : timeline.manager.AtLeisure other rival rivalSeat := by
    refine ⟨?_, ?_, leisure.line, leisure.listed, leisure.live⟩
    · rw [busy]
      simp [Manager.serving, Manager.setCall, Manager.setSession, Manager.setSeat, quiet,
        Index.get?_insert, different.symm]
    · rw [busy]
      simp [Manager.serving, Manager.setCall, Manager.setSession, Manager.setSeat,
        Index.get?_insert, foreign, leisure.seated]
  have still : timeline.manager.locks.holder resource = some session := by
    rw [busy]
    exact held
  rw [spawn_contended beside opens still foreign unready, busy]
  rfl

structure Calm (timeline : Timeline) : Prop where
  calls : timeline.manager.calls = ∅
  errands : timeline.errands = ∅
  timers : timeline.timers = []

theorem Calm.ask_removeSession (calm : timeline.Calm) (untold : timeline.hasEnded id = false)
    (leisure : timeline.manager.AtLeisure id session seat) :
    timeline.ask id session .removeSession =
      (some (.answered (.ok (.resources (timeline.manager.locks.heldBy session)))),
        timeline.withManager (timeline.manager.departed session seat)) := by
  have quiet : (timeline.manager.departed session seat).calls = ∅ := calm.calls
  have ended : timeline.spawn id session .removeSession =
      (timeline.withManager (timeline.manager.departed session seat)).finish id
        (.answered (.ok (.resources (timeline.manager.locks.heldBy session)))) := by
    rw [spawn_of_leisure leisure]
    simp only [ne_eq, not_true_eq_false, decide_false]
    rw [run_of_answer leisure.resume_removeSession]
    exact settle_of_not_ready (ready?_of_quiet quiet)
  exact ask_of_ending ended untold

/-- A store that answers at once. -/
structure Prompt (latency : Latency) : Prop where
  get : latency.get = 0
  update : latency.update = 0

theorem spawn_of_opens (prompt : Prompt timeline.latency)
    (leisure : timeline.manager.AtLeisure id session seat)
    (opens : request.opens? = some resource)
    (free : ∀ holder, timeline.manager.locks.holder resource = some holder → holder = session) :
    timeline.spawn id session request =
      ((timeline.withManager ((timeline.manager.acquire resource session).2.serving id session seat
        seat.session request (.loading resource))).run 3 id).settle := by
  rw [spawn_of_stays leisure (Manager.stays_of_opens opens),
    run_of_step (leisure.resume_granted opens free) Manager.calls_serving prompt.get (by simp)]

/-- The write ends when its sleeper is woken. -/
theorem runCall_writing (prompt : Prompt timeline.latency)
    (leisure : manager.AtLeisure id session seat) (request : Request) {edited : Book}
    (present : manager.store.contains edited.id = true)
    (dropped : (copies.release resource).2 = (seat.session.release resource).2) :
    (timeline.withManager (manager.serving id session seat copies request
      (.writing resource edited))).runCall id =
      (timeline.withManager (manager.committed session seat resource edited)).finish id
        (.answered (.ok (.book edited))) := by
  rw [runCall, callSteps, run_of_step (Manager.resume_writing request) Manager.calls_serving
    prompt.update (by simp), run_of_answer (leisure.resume_storing present request dropped)]

theorem advanceTo_writing (prompt : Prompt timeline.latency)
    (timer : timeline.timers = [⟨id, deadline⟩]) (idle : timeline.errands = ∅) {edited : Book}
    (sleeping : timeline.manager = manager.serving id session seat copies request
      (.writing resource edited))
    (quiet : manager.calls = ∅) (leisure : manager.AtLeisure id session seat)
    (present : manager.store.contains edited.id = true)
    (dropped : (copies.release resource).2 = (seat.session.release resource).2)
    (due : deadline ≤ target) :
    timeline.advanceTo target =
      (({ timeline with timers := [] }.atTime target).withManager
        (manager.committed session seat resource edited)).finish id
          (.answered (.ok (.book edited))) := by
  have here : Prompt ({ timeline with timers := [] }.atTime deadline).latency := prompt
  have ends := runCall_writing here leisure request present dropped
  rw [← sleeping] at ends
  have later : max target deadline = target := Nat.max_eq_left due
  rw [advanceTo_of_timer timer due (moveTo_of_timer timer idle ends quiet) rfl]
  show atTime _ (max target deadline) = _
  rw [later]
  rfl

/-- A read loads its record. Then it sleeps, or it ends at once. -/
theorem Calm.spawn_read (calm : timeline.Calm) (prompt : Prompt timeline.latency)
    (leisure : timeline.manager.AtLeisure id session seat)
    (free : ∀ holder, timeline.manager.locks.holder resource = some holder → holder = session)
    (stored : timeline.manager.store.books.get? resource = some book) (field : BookField) :
    timeline.spawn id session (.read resource field) =
      if 0 < timeline.latency.read then
        (timeline.withManager ((timeline.manager.acquire resource session).2.serving id session
          seat (seat.session.checkout resource book).2 (.read resource field)
            (.reading resource field))).setTimer id timeline.latency.read
      else
        (timeline.withManager
          ((timeline.manager.acquire resource session).2.yielded session seat resource)).finish id
            (.answered (.ok (.text (((seat.session.copy? resource).getD book).get field)))) := by
  have opens : (Request.read resource field).opens? = some resource := rfl
  have found : (timeline.manager.acquire resource session).2.store.books.get? resource =
    some book := stored
  have quiet : (timeline.manager.acquire resource session).2.calls = ∅ := calm.calls
  have rest : (timeline.withManager ((timeline.manager.acquire resource session).2.yielded session
      seat resource)).ready? = none := ready?_of_quiet calm.calls
  rw [spawn_of_opens prompt leisure opens free]
  by_cases slow : 0 < timeline.latency.read
  · rw [if_pos slow, run_of_delay (Manager.resume_loaded_read found field) Manager.calls_serving
      slow]
    exact settle_asleep quiet rfl _
  · have fast : timeline.latency.read = 0 := Nat.eq_zero_of_not_pos slow
    rw [if_neg slow, run_of_step (Manager.resume_loaded_read found field) Manager.calls_serving fast
      (by simp), run_of_answer ((leisure.acquired resource).resume_reading resource book _ field)]
    exact settle_of_not_ready rest

theorem claim_reading (untold : timeline.hasEnded id = false)
    (timer : timeline.timers = [⟨id, deadline⟩]) (idle : timeline.errands = ∅) {field : BookField}
    (sleeping : timeline.manager = manager.serving id session seat
      (seat.session.checkout resource book).2 request (.reading resource field))
    (quiet : manager.calls = ∅) (leisure : manager.AtLeisure id session seat) :
    (timeline.await id).claim id =
      (some (.answered (.ok (.text (((seat.session.copy? resource).getD book).get field)))),
        ({ timeline with timers := [] }.atTime deadline).withManager
          (manager.yielded session seat resource)) := by
  have ends : (({ timeline with timers := [] }.atTime deadline).withManager
      (manager.serving id session seat (seat.session.checkout resource book).2 request
        (.reading resource field))).runCall id = _ :=
    run_of_answer (leisure.resume_reading resource book request field)
  rw [← sleeping] at ends
  rw [await_of_timer timer untold (moveTo_of_timer timer idle ends quiet)]
  exact claim_finish untold

/-- A read of a record that no other session has takes the time that it sleeps. -/
theorem Calm.ask_read (calm : timeline.Calm) (untold : timeline.hasEnded id = false)
    (prompt : Prompt timeline.latency) (leisure : timeline.manager.AtLeisure id session seat)
    (free : ∀ holder, timeline.manager.locks.holder resource = some holder → holder = session)
    (stored : timeline.manager.store.books.get? resource = some book) (field : BookField) :
    timeline.ask id session (.read resource field) =
      (some (.answered (.ok (.text (((seat.session.copy? resource).getD book).get field)))),
        (timeline.atTime (timeline.now + timeline.latency.read)).withManager
          ((timeline.manager.acquire resource session).2.yielded session seat resource)) := by
  have quiet : (timeline.manager.acquire resource session).2.calls = ∅ := calm.calls
  have starts := calm.spawn_read prompt leisure free stored field
  -- A read that takes no time ends in the same run; it never has a timer.
  by_cases slow : 0 < timeline.latency.read
  · rw [if_pos slow] at starts
    have timer : (timeline.spawn id session (.read resource field)).timers =
        [⟨id, timeline.now + timeline.latency.read⟩] := by
      rw [starts]
      simp [setTimer, withManager, calm.timers]
    have waits : (timeline.spawn id session (.read resource field)).hasEnded id = false := by
      rw [starts]
      exact untold
    rw [starts] at timer waits
    rw [ask, starts, claim_reading waits timer calm.errands rfl quiet (leisure.acquired resource)]
    simp [atTime, withManager, setTimer, calm.timers]
  · rw [if_neg slow] at starts
    have fast : timeline.latency.read = 0 := Nat.eq_zero_of_not_pos slow
    rw [fast]
    exact ask_of_ending starts untold

end RecordLocks.Timeline
