import RecordLocks.Proofs.Requests
namespace RecordLocks

namespace Timeline

def answered : Option Ending → Answer
  | some (.answered outcome) => .outcome outcome
  | _ => .unanswered

/-- A caller has an errand done and waits for its outcome. -/
def askErrand (timeline : Timeline) (id : CallId) (errand : Errand) :
    Option Ending × Timeline :=
  ((timeline.send id errand).await id).claim id

/-- Takes a turn and waits for its answer. Calls that take time have the given number. -/
def take (id : CallId) (timeline : Timeline) : Turn → Answer × Timeline
  | .newSession user =>
    let (session, manager) := timeline.manager.openSession user
    (.session session, timeline.withManager manager)
  | .request session request =>
    let (ending, after) := timeline.ask id session request
    (answered ending, after)
  | .lockStatus resource session =>
    (.status (timeline.manager.locks.status resource session), timeline)
  | .sessionCount => (.count timeline.manager.sessionCount, timeline)
  | .sessions => (.sessions timeline.manager.sessions, timeline)
  | .errand errand =>
    let (ending, after) := timeline.askErrand id errand
    (answered ending, after)
  | .add book =>
    let (done, store) := timeline.manager.store.add book
    (.outcome (done.map fun _ => .done),
      timeline.withManager { timeline.manager with store := store })
  | .remove book =>
    let (present, store) := timeline.manager.store.remove book
    (.outcome (.ok (.flag present)),
      timeline.withManager { timeline.manager with store := store })

/-- Nothing is going on, and the machine stands for the manager. -/
structure Quiet (timeline : Timeline) (machine : Machine) : Prop where
  represents : Represents machine timeline.manager
  calls : timeline.manager.calls = ∅
  errands : timeline.errands = ∅
  timers : timeline.timers = []
  endings : timeline.endings = []

/-- The only call has ended with the outcome, which has not been told yet. -/
structure Ended (timeline : Timeline) (id : CallId) (outcome : Outcome) (machine : Machine) :
    Prop where
  represents : Represents machine timeline.manager
  calls : timeline.manager.calls = ∅
  errands : timeline.errands = ∅
  timers : timeline.timers = []
  endings : timeline.endings = [(id, .answered outcome)]

/-- The only call has come so far, and `goal` is what is left to do for it. -/
structure Busy (timeline : Timeline) (id : CallId) (call : Call) (goal : Outcome × Machine)
    (machine : Machine) : Prop where
  represents : Represents machine timeline.manager
  alone : timeline.manager.Alone id call
  live : call.request ≠ .removeSession → machine.live.contains call.session = true
  left : machine.proceed call.session call.request call.phase = goal
  errands : timeline.errands = ∅
  endings : timeline.endings = []

variable {timeline : Timeline} {machine : Machine} {id : CallId} {session : SessionId}
  {request : Request} {phase : Phase} {outcome : Outcome} {goal : Outcome × Machine}

theorem ready?_of_quiet (quiet : timeline.manager.calls = ∅) : timeline.ready? = none := by
  rw [ready?, quiet]
  rfl

theorem settle_of_not_ready (rest : timeline.ready? = none) : timeline.settle = timeline := by
  rw [settle, settleWithin, rest]

theorem Quiet.finish (quiet : timeline.Quiet machine) (id : CallId) (outcome : Outcome) :
    (timeline.finish id (.answered outcome)).Ended id outcome machine := by
  refine ⟨quiet.represents, quiet.calls, quiet.errands, quiet.timers, ?_⟩
  rw [Timeline.finish, quiet.endings]
  rfl

theorem Ended.settle (ended : timeline.Ended id outcome machine) :
    timeline.settle = timeline :=
  settle_of_not_ready (ready?_of_quiet ended.calls)

theorem Ended.awaitWithin (ended : timeline.Ended id outcome machine) (rounds : Nat) :
    timeline.awaitWithin rounds id = timeline := by
  have told : timeline.hasEnded id = true := by simp [hasEnded, ended.endings]
  cases rounds with
  | zero => rfl
  | succ rounds => rw [Timeline.awaitWithin, if_pos told]

theorem Ended.claim (ended : timeline.Ended id outcome machine) :
    (timeline.claim id).1 = some (.answered outcome) ∧ (timeline.claim id).2.Quiet machine := by
  refine ⟨?_, ended.represents, ended.calls, ended.errands, ended.timers, ?_⟩
  · simp [Timeline.claim, ended.endings]
  · simp [Timeline.claim, ended.endings]

/-- The only call waits for time to pass. -/
structure Asleep (timeline : Timeline) (id : CallId) (call : Call) (goal : Outcome × Machine)
    (machine : Machine) : Prop where
  busy : timeline.Busy id call goal machine
  timer : ∃ deadline, timeline.timers = [⟨id, deadline⟩]
  working : call.phase.window?.isSome

theorem Busy.resume (busy : timeline.Busy id ⟨session, request, phase⟩ goal machine) :
    (∃ manager, timeline.manager.resume id = (some goal.1, manager) ∧
        Represents goal.2 manager ∧ manager.calls = ∅) ∨
      ∃ manager next last, timeline.manager.resume id = (none, manager) ∧
        (timeline.withManager manager).Busy id ⟨session, request, next⟩ goal last ∧
        next.stepsLeft < phase.stepsLeft := by
  obtain ⟨last, inStep⟩ := InStep.of_resume busy.represents busy.alone busy.live
  rcases busy.alone.resume busy.represents.sound with
    ⟨outcome, ended, quiet⟩ | ⟨next, waits, alone, fewer⟩
  · left
    have done : goal = (outcome, last) := busy.left.symm.trans (inStep.ended outcome ended)
    subst done
    exact ⟨(timeline.manager.resume id).2, by rw [← ended], inStep.represents, quiet⟩
  · right
    refine ⟨(timeline.manager.resume id).2, next, last, by rw [← waits],
      ⟨inStep.represents, alone, ?_, ?_, busy.errands, busy.endings⟩, fewer⟩
    · rw [inStep.live]
      exact busy.live
    · rw [← busy.left]
      exact inStep.goes next alone.found

/-- The only call runs until it ends or has to wait for time to pass, and then it is nearer to its
end. -/
theorem Busy.run {steps : Nat} (busy : timeline.Busy id ⟨session, request, phase⟩ goal machine)
    (timers : timeline.timers = []) (enough : phase.stepsLeft ≤ steps) :
    (timeline.run steps id).Ended id goal.1 goal.2 ∨
      ∃ next last, (timeline.run steps id).Asleep id ⟨session, request, next⟩ goal last ∧
        next.stepsLeft < phase.stepsLeft := by
  -- Every step that waits for nothing leaves a phase with fewer steps, so the fuel suffices.
  induction steps generalizing timeline phase machine with
  | zero =>
    have some_left := phase.stepsLeft_pos
    omega
  | succ steps ih =>
    rcases busy.resume with ⟨manager, resumed, represents, quiet⟩ |
      ⟨manager, next, last, resumed, going, fewer⟩
    · left
      rw [Timeline.run, resumed]
      have calm : (timeline.withManager manager).Quiet goal.2 :=
        ⟨represents, quiet, busy.errands, timers, busy.endings⟩
      exact calm.finish id goal.1
    · have found : manager.calls.get? id = some ⟨session, request, next⟩ := going.alone.found
      rw [Timeline.run, resumed]
      simp only [found]
      split
      · rename_i late
        right
        refine ⟨next, last, ⟨?_, ⟨_, by simp [setTimer, withManager, timers]; rfl⟩, ?_⟩, fewer⟩
        · exact ⟨going.represents, going.alone, going.live, going.left, going.errands,
            going.endings⟩
        · cases next with
          | arriving | waiting => simp [Latency.ofPhase] at late
          | loading | writing | reading | storing => rfl
      · have goesOn : ¬ (next = .waiting ∧ (!manager.isReady id) = true) := by
          intro ⟨waits, stuck⟩
          subst waits
          have ready : manager.isReady id = true :=
            going.alone.isReady going.represents.sound
          simp [ready] at stuck
        rw [if_neg goesOn]
        rcases ih going timers (by omega) with ended | ⟨later, final, asleep, less⟩
        · exact .inl ended
        · exact .inr ⟨later, final, asleep, by omega⟩

theorem Asleep.settle {call : Call} (asleep : timeline.Asleep id call goal machine) :
    timeline.settle = timeline := by
  apply settle_of_not_ready
  rw [ready?, List.find?_eq_none]
  intro other member ready
  have same : other = id := by
    by_contra different
    rw [Index.mem_keys, Index.contains, asleep.busy.alone.only other different] at member
    cases member
  rw [same, Manager.unready_of_working asleep.busy.alone.found asleep.working] at ready
  cases ready

/-- No call has more than three waits before it. -/
theorem Asleep.stepsLeft_le {call : Call} (asleep : timeline.Asleep id call goal machine) :
    call.phase.stepsLeft ≤ 3 := by
  have working := asleep.working
  cases phase : call.phase with
  | arriving | waiting =>
    rw [phase] at working
    cases working
  | loading | writing | reading | storing => simp [Phase.stepsLeft]

theorem Busy.settle_run (busy : timeline.Busy id ⟨session, request, phase⟩ goal machine)
    (timers : timeline.timers = []) :
    (timeline.runCall id).settle.Ended id goal.1 goal.2 ∨
      ∃ next last, (timeline.runCall id).settle.Asleep id ⟨session, request, next⟩ goal last ∧
        next.stepsLeft < phase.stepsLeft := by
  have enough : phase.stepsLeft ≤ callSteps := by
    cases phase <;> simp [Phase.stepsLeft, callSteps]
  rcases busy.run timers enough with ended | ⟨next, last, asleep, fewer⟩
  · left
    rw [runCall, ended.settle]
    exact ended
  · right
    refine ⟨next, last, ?_, fewer⟩
    rw [runCall, asleep.settle]
    exact asleep

theorem Asleep.awaitWithin {rounds : Nat}
    (asleep : timeline.Asleep id ⟨session, request, phase⟩ goal machine)
    (enough : phase.stepsLeft ≤ rounds) :
    (timeline.awaitWithin rounds id).Ended id goal.1 goal.2 := by
  induction rounds generalizing timeline phase machine with
  | zero =>
    have some_left := phase.stepsLeft_pos
    omega
  | succ rounds ih =>
    obtain ⟨deadline, timer⟩ := asleep.timer
    have busy := asleep.busy
    have untold : ¬ timeline.hasEnded id = true := by simp [hasEnded, busy.endings]
    have due : timeline.nextDeadline? = some deadline := by
      rw [nextDeadline?, timer]
      rfl
    have woken : timeline.moveTo deadline =
        ({ timeline with now := deadline, timers := [] }.runCall id).settle := by
      simp [moveTo, timer, wake, busy.errands]
    -- The machine has not noticed that time has passed.
    have moved : Busy { timeline with now := deadline, timers := [] } id
        ⟨session, request, phase⟩ goal machine :=
      ⟨busy.represents, busy.alone, busy.live, busy.left, busy.errands, busy.endings⟩
    rw [Timeline.awaitWithin, if_neg untold, due]
    simp only [woken]
    rcases moved.settle_run rfl with ended | ⟨next, last, again, fewer⟩
    · rw [ended.awaitWithin]
      exact ended
    · exact ih again (by omega)

theorem Asleep.await (asleep : timeline.Asleep id ⟨session, request, phase⟩ goal machine) :
    (timeline.await id).Ended id goal.1 goal.2 := by
  have some_call : 0 < timeline.manager.calls.size :=
    List.length_pos_of_mem (Index.mem_toList.mpr asleep.busy.alone.found)
  have few : phase.stepsLeft ≤ 3 := asleep.stepsLeft_le
  apply asleep.awaitWithin
  rw [patience]
  omega

theorem Busy.ask (busy : timeline.Busy id ⟨session, request, phase⟩ goal machine)
    (timers : timeline.timers = []) :
    ((timeline.runCall id).settle.await id).Ended id goal.1 goal.2 := by
  rcases busy.settle_run timers with ended | ⟨next, last, asleep, -⟩
  · rw [Timeline.await, ended.awaitWithin]
    exact ended
  · exact asleep.await

/-- A request is answered as the machine answers it, however long it takes. -/
theorem Quiet.ask (quiet : timeline.Quiet machine) (id : CallId) (session : SessionId)
    (request : Request) :
    (timeline.ask id session request).1 =
        some (.answered (machine.request session request).1) ∧
      (timeline.ask id session request).2.Quiet (machine.request session request).2 := by
  have ended : ((timeline.spawn id session request).await id).Ended id
      (machine.request session request).1 (machine.request session request).2 := by
    cases live : machine.live.contains session with
    | false =>
      have refused : timeline.manager.issue id session request = _ :=
        quiet.represents.issue_unlisted quiet.calls live
      have told : (timeline.spawn id session request).Ended id
          (.error (.sessionNotFound session)) machine := by
        rw [spawn, refused]
        exact quiet.finish id _
      rw [Timeline.await, told.awaitWithin, Machine.request, live]
      exact told
    | true =>
      obtain ⟨next, after, issued, represents, alone, listed, same⟩ :=
        quiet.represents.issue quiet.calls live id request
      have goal : next.proceed session request .arriving = machine.request session request := by
        rw [Machine.request, if_pos live]
        exact same
      have busy : (timeline.withManager after).Busy id ⟨session, request, .arriving⟩
          (machine.request session request) next :=
        ⟨represents, alone, listed, goal, quiet.errands, quiet.endings⟩
      rw [spawn, issued]
      exact busy.ask quiet.timers
  exact ended.claim

theorem runErrand_ended (represents : Represents machine timeline.manager)
    (calls : timeline.manager.calls = ∅) (errands : timeline.errands.erase id = ∅)
    (timers : timeline.timers = []) (endings : timeline.endings = []) (errand : Errand) :
    (timeline.runErrand id errand).Ended id (machine.errand errand).1
      (machine.errand errand).2 := by
  have calm : ∀ {next : Machine} {store : RecordStore},
      Represents next { timeline.manager with store := store } →
      Quiet { timeline.withManager { timeline.manager with store := store } with
        errands := timeline.errands.erase id } next :=
    fun represents => ⟨represents, calls, errands, timers, endings⟩
  cases errand with
  | get book =>
    have done := (calm represents).finish id ((timeline.manager.store.get book).map Reply.book)
    have found : machine.errand (.get book) =
        ((timeline.manager.store.get book).map Reply.book, machine) := by
      rw [RecordStore.get, represents.records, Machine.errand]
      cases machine.records.get? book <;> rfl
    rw [found]
    exact done
  | update book =>
    rw [runErrand, Machine.errand, Machine.update, RecordStore.update, RecordStore.contains,
      represents.records]
    cases machine.records.contains book.id with
    | true => exact (calm (represents.put_outside book)).finish id _
    | false => exact (calm represents).finish id _

/-- An errand that takes time is done when its time has come. -/
theorem Quiet.await_sent (quiet : timeline.Quiet machine) (id : CallId) (errand : Errand)
    (delay : Nat) :
    (({ timeline with errands := timeline.errands.insert id errand }.setTimer id
      delay).await id).Ended id (machine.errand errand).1 (machine.errand errand).2 := by
  have gone : (timeline.errands.insert id errand).erase id = ∅ := by
    rw [Index.erase_insert, quiet.errands]
    rfl
  have due : ({ timeline with errands := timeline.errands.insert id errand }.setTimer id
      delay).nextDeadline? = some (timeline.now + delay) := by
    rw [nextDeadline?, setTimer, quiet.timers]
    rfl
  have untold : ¬ ({ timeline with errands := timeline.errands.insert id errand }.setTimer id
      delay).hasEnded id = true := by
    simp [hasEnded, setTimer, quiet.endings]
  have woken : ({ timeline with errands := timeline.errands.insert id errand }.setTimer id
      delay).moveTo (timeline.now + delay) =
        ({ timeline with
          now := timeline.now + delay
          timers := []
          errands := timeline.errands.insert id errand }.runErrand id errand).settle := by
    simp [moveTo, setTimer, quiet.timers, wake, Index.get?_insert]
  have done : ({ timeline with
      now := timeline.now + delay
      timers := []
      errands := timeline.errands.insert id errand }.runErrand id errand).Ended id
        (machine.errand errand).1 (machine.errand errand).2 := by
    apply runErrand_ended
    · exact quiet.represents
    · exact quiet.calls
    · exact gone
    · rfl
    · exact quiet.endings
  rw [Timeline.await, patience, Timeline.awaitWithin, if_neg untold, due]
  simp only [woken, done.settle, done.awaitWithin]
  exact done

theorem Quiet.askErrand (quiet : timeline.Quiet machine) (id : CallId) (errand : Errand) :
    (timeline.askErrand id errand).1 = some (.answered (machine.errand errand).1) ∧
      (timeline.askErrand id errand).2.Quiet (machine.errand errand).2 := by
  have ended : ((timeline.send id errand).await id).Ended id (machine.errand errand).1
      (machine.errand errand).2 := by
    rw [send]
    split
    · exact quiet.await_sent id errand _
    · have gone : timeline.errands.erase id = ∅ := by
        rw [quiet.errands]
        rfl
      have told := runErrand_ended quiet.represents quiet.calls gone quiet.timers quiet.endings
        errand
      rw [Timeline.await, told.awaitWithin]
      exact told
  exact ended.claim

/-- The machine gives the same answer, and it stands for the manager again afterwards. -/
theorem Quiet.take (quiet : timeline.Quiet machine) (id : CallId) (turn : Turn)
    (few : machine.next + Turn.openings [turn] ≤ 2 ^ 64) :
    (timeline.take id turn).1 = (machine.take turn).1 ∧
      (timeline.take id turn).2.Quiet (machine.take turn).2 ∧
      (machine.take turn).2.next = machine.next + Turn.openings [turn] := by
  have represents := quiet.represents
  have still : ∀ {next : Machine} {manager : Manager}, Represents next manager →
      manager.calls = ∅ → (timeline.withManager manager).Quiet next :=
    fun represents calls => ⟨represents, calls, quiet.errands, quiet.timers, quiet.endings⟩
  cases turn with
  | newSession user =>
    obtain ⟨named, opened⟩ := represents.openSession few user
    have calls : (timeline.manager.openSession user).2.calls = ∅ :=
      (Represents.calls_openSession timeline.manager user).trans quiet.calls
    exact ⟨congrArg Answer.session named, still opened calls, rfl⟩
  | request session request =>
    obtain ⟨told, after⟩ := quiet.ask id session request
    refine ⟨?_, after, machine.next_request session request⟩
    simp only [Timeline.take, told, answered, Machine.take]
  | lockStatus resource session =>
    exact ⟨congrArg Answer.status (represents.lockStatus_eq quiet.calls resource session),
      quiet, rfl⟩
  | sessionCount => exact ⟨congrArg Answer.count represents.sessionCount_eq, quiet, rfl⟩
  | sessions => exact ⟨congrArg Answer.sessions (represents.sessions_eq quiet.calls), quiet, rfl⟩
  | errand errand =>
    obtain ⟨told, after⟩ := quiet.askErrand id errand
    refine ⟨?_, after, ?_⟩
    · simp only [Timeline.take, told, answered, Machine.take]
    · exact machine.next_errand errand
  | add book =>
    rw [Timeline.take, Machine.take, Machine.add, RecordStore.add, RecordStore.contains,
      represents.records]
    cases machine.records.contains book.id with
    | true => exact ⟨rfl, still represents quiet.calls, rfl⟩
    | false => exact ⟨rfl, still (represents.put_outside book) quiet.calls, rfl⟩
  | remove book =>
    have present : timeline.manager.store.contains book = machine.records.contains book := by
      rw [RecordStore.contains, represents.records]
    refine ⟨?_, still (represents.erase book) quiet.calls, rfl⟩
    exact congrArg (fun present => Answer.outcome (.ok (.flag present))) present

theorem Quiet.takeAll (turns : List Turn) (quiet : timeline.Quiet machine) (id : CallId)
    (few : machine.next + Turn.openings turns ≤ 2 ^ 64) :
    (takeAll (Timeline.take id) timeline turns).1 = (takeAll Machine.take machine turns).1 ∧
      (takeAll (Timeline.take id) timeline turns).2.Quiet
        (takeAll Machine.take machine turns).2 := by
  induction turns generalizing timeline machine with
  | nil => exact ⟨rfl, quiet⟩
  | cons turn rest ih =>
    have both := Turn.openings_cons turn rest
    obtain ⟨same, after, next⟩ := quiet.take id turn (by omega)
    obtain ⟨answers, last⟩ := ih after (by omega)
    exact ⟨congrArg₂ List.cons same answers, last⟩

theorem quiet_start (latency : Latency) (books : List Book) :
    (Timeline.start latency (.ofBooks books)).Quiet
      (.start (RecordStore.ofBooks books).books) := by
  refine ⟨⟨Manager.sound_start _, Manager.numbered_start _, rfl,
    fun _ _ => RecordStore.id_ofBooks books, ?_, fun _ => rfl, ?_⟩, rfl, rfl, rfl, rfl⟩
  · intro session resource book copied
    cases copied
  · intro session resource book
    constructor
    · intro copied
      cases copied
    · intro drafted
      cases drafted

/-- Callers who take turns cannot tell the manager from the machine: whatever the latency, every
answer and in the end the stored books are the machine's. -/
theorem turns_refine_machine (latency : Latency) (books : List Book) (id : CallId)
    (turns : List Turn) (few : Turn.openings turns ≤ 2 ^ 64) :
    let machine := Machine.start (RecordStore.ofBooks books).books
    let (answers, timeline) := takeAll (Timeline.take id) (.start latency (.ofBooks books)) turns
    answers = (takeAll Machine.take machine turns).1 ∧
      timeline.manager.store.books = (takeAll Machine.take machine turns).2.records := by
  have first : (Machine.start (RecordStore.ofBooks books).books).next = 0 := rfl
  obtain ⟨answers, last⟩ := (quiet_start latency books).takeAll turns id (by omega)
  exact ⟨answers, last.represents.records⟩

/-- The record is edited twice and given up by its session, so that another one gets it. -/
def editAndYield : List Turn :=
  [.newSession "ann", .newSession "bob", .request ⟨0⟩ (.checkout 7),
    .request ⟨0⟩ (.edit 7 .title "draft"), .request ⟨1⟩ (.read 7 .title),
    .request ⟨0⟩ .removeSession, .request ⟨1⟩ (.write 7 .title "new")]

theorem turns_refine_machine_of_editAndYield :
    Turn.openings editAndYield ≤ 2 ^ 64 ∧
      (takeAll (Timeline.take 0) (.start ⟨1, 2, 3, 4⟩ (.ofBooks [.titled 7 "old"]))
        editAndYield).1 =
        [.session ⟨0⟩, .session ⟨1⟩, .outcome (.ok (.book (.titled 7 "old"))),
          .outcome (.ok (.book (.titled 7 "draft"))),
          .outcome (.error (.lockConflict 7 ⟨0⟩)), .outcome (.ok (.resources [7])),
          .outcome (.ok (.book (.titled 7 "new")))] := by
  have few : Turn.openings editAndYield ≤ 2 ^ 64 := by decide
  have answers := (turns_refine_machine ⟨1, 2, 3, 4⟩ [.titled 7 "old"] 0 editAndYield few).1
  exact ⟨few, answers.trans rfl⟩

end Timeline

end RecordLocks
