import RecordLocks.Proofs.InTurn
import RecordLocks.Proofs.Noninterference
namespace RecordLocks

namespace Timeline

/-- Calls of one session are issued without waiting for their outcomes. -/
def spawnAll (session : SessionId) (timeline : Timeline) (calls : List (CallId × Request)) :
    Timeline :=
  calls.foldl (fun timeline call => timeline.spawn call.1 session call.2) timeline

/-- Time passes until all of the calls have ended. -/
def awaitAll (timeline : Timeline) (ids : List CallId) : Timeline := ids.foldl await timeline

/-- Calls of one session are issued one after another, each when the one before it has been
answered. -/
def askAll (session : SessionId) (timeline : Timeline) :
    List (CallId × Request) → List (CallId × Ending) × Timeline
  | [] => ([], timeline)
  | (id, request) :: rest =>
    let (ending, after) := timeline.ask id session request
    let (later, last) := after.askAll session rest
    (ending.toList.map (id, ·) ++ later, last)

/-- How a call ends that is told its outcome. -/
def ending (answer : CallId × Outcome) : CallId × Ending := (answer.1, .answered answer.2)

variable {timeline : Timeline} {id : CallId} {session : SessionId} {request : Request}
  {phase : Phase} {due : List Timer} {deadline : Nat} {ids : List CallId}

/-- What happens when a call is run that may take one step more than `steps`. -/
inductive Runs (timeline : Timeline) (id : CallId) (steps : Nat) : Timeline → Prop
  | ends {manager : Manager} {outcome : Outcome}
    (resumed : timeline.manager.resume id = (some outcome, manager)) :
    Runs timeline id steps ((timeline.withManager manager).finish id (.answered outcome))
  | stops {manager : Manager} (resumed : timeline.manager.resume id = (none, manager))
    (outside : ∀ call, manager.calls.get? id = some call → call.phase.window? = none) :
    Runs timeline id steps (timeline.withManager manager)
  | sleeps {manager : Manager} (resumed : timeline.manager.resume id = (none, manager))
    (delay : Nat) : Runs timeline id steps ((timeline.withManager manager).setTimer id delay)
  | goesOn {manager : Manager} {call : Call}
    (resumed : timeline.manager.resume id = (none, manager))
    (found : manager.calls.get? id = some call)
    (turn : call.phase = .waiting → manager.isReady id = true) :
    Runs timeline id steps ((timeline.withManager manager).run steps id)

theorem run_runs (timeline : Timeline) (id : CallId) (steps : Nat) :
    Runs timeline id steps (timeline.run (steps + 1) id) := by
  rw [run]
  split
  · rename_i outcome manager resumed
    exact .ends resumed
  · rename_i manager resumed
    cases found : manager.calls.get? id with
    | none =>
      apply Runs.stops resumed
      intro call there
      rw [found] at there
      cases there
    | some call =>
      simp only
      split
      · exact .sleeps resumed _
      · split
        · rename_i waits
          apply Runs.stops resumed
          intro other there
          rw [found] at there
          cases there
          rw [waits.1]
          rfl
        · rename_i goes
          exact .goesOn resumed found (by simpa using goes)

/-- The calls that have ended have been told the answers. -/
def Shows (timeline : Timeline) (holds : Manager → List (CallId × Outcome) → Prop) : Prop :=
  ∃ answers, timeline.endings = answers.map ending ∧ holds timeline.manager answers

section

variable {holds : Manager → List (CallId × Outcome) → Prop}

theorem Runs.shows {steps : Nat} {after : Timeline} {answers : List (CallId × Outcome)}
    (runs : Runs timeline id steps after) (shown : timeline.endings = answers.map ending)
    (first : holds (timeline.manager.resume id).2
      (answers ++ (timeline.manager.resume id).1.toList.map (id, ·)))
    (later : ∀ manager, (timeline.withManager manager).Shows holds →
      ((timeline.withManager manager).run steps id).Shows holds) : after.Shows holds := by
  cases runs with
  | ends resumed =>
    rw [resumed] at first
    exact ⟨_, by simp [finish, withManager, shown, ending], first⟩
  | stops resumed | sleeps resumed =>
    rw [resumed] at first
    exact ⟨_, shown, by simpa [setTimer, withManager] using first⟩
  | goesOn resumed =>
    rw [resumed] at first
    exact later _ ⟨answers, shown, by simpa [withManager] using first⟩

variable (kept : ∀ manager answers id, holds manager answers →
  holds (manager.resume id).2 (answers ++ (manager.resume id).1.toList.map (id, ·)))

include kept

/-- What every step of a call keeps is kept while a call runs. -/
theorem Shows.run (shows : timeline.Shows holds) (steps : Nat) (id : CallId) :
    (timeline.run steps id).Shows holds := by
  induction steps generalizing timeline with
  | zero => exact shows
  | succ steps ih =>
    obtain ⟨answers, shown, here⟩ := shows
    exact (run_runs timeline id steps).shows shown (kept _ answers id here) fun _ => ih

theorem Shows.settle (shows : timeline.Shows holds) : timeline.settle.Shows holds := by
  rw [Timeline.settle]
  generalize timeline.manager.calls.size + 1 = rounds
  induction rounds generalizing timeline with
  | zero => exact shows
  | succ rounds ih =>
    rw [settleWithin]
    split
    · exact shows
    · exact ih (shows.run kept callSteps _)

theorem Shows.wakeAll (shows : timeline.Shows holds) (called : timeline.Due due)
    (regular : timeline.Regular) : (timeline.wakeAll due).Shows holds := by
  induction due generalizing timeline with
  | nil => exact shows
  | cons timer rest ih =>
    have untimed : ∀ other ∈ timeline.timers, other.id ≠ timer.id :=
      called.untimed timer (by simp)
    rw [Timeline.wakeAll, List.foldl_cons, wake_eq regular]
    exact ih (shows.run kept callSteps timer.id) (called.later regular.sound)
      (regular.runCall untimed)

theorem Shows.moveTo (shows : timeline.Shows holds) (rest : timeline.AtRest) (deadline : Nat) :
    (timeline.moveTo deadline).Shows holds := by
  have struck : (timeline.struck deadline).Shows holds := shows
  rw [moveTo_eq]
  exact (struck.wakeAll kept (rest.regular.due deadline)
    (rest.regular.struck deadline)).settle kept

end

/-- Every call that works on its record has a timer, or it is about to be woken. -/
def Timed (timeline : Timeline) (due : List Timer) : Prop :=
  ∀ id call, timeline.manager.calls.get? id = some call → call.phase.window?.isSome →
    ∃ timer ∈ timeline.timers ++ due, timer.id = id

/-- A call that runs until it works on its record has set a timer. -/
theorem timed_run (sound : timeline.manager.Sound)
    (found : timeline.manager.calls.get? id = some ⟨session, request, phase⟩)
    (turn : phase = .waiting → ∃ seat, timeline.manager.seats.get? session = some seat ∧
      seat.line.head? = some id)
    {steps : Nat} (enough : phase.stepsLeft ≤ steps) {call : Call}
    (there : (timeline.run steps id).manager.calls.get? id = some call)
    (working : call.phase.window?.isSome) :
    ∃ timer ∈ (timeline.run steps id).timers, timer.id = id := by
  induction steps generalizing timeline phase with
  | zero =>
    have some_left := phase.stepsLeft_pos
    omega
  | succ steps ih =>
    have runs := run_runs timeline id steps
    have resumed := Manager.resume_goes_on sound found turn
    have still := sound.resume found
    generalize timeline.run (steps + 1) id = after at runs there
    cases runs with
    | @ends manager outcome told =>
      have same : manager.calls.get? id = some call := there
      rw [told] at resumed
      rcases resumed with ⟨-, -, gone⟩ | ⟨next, silent, -⟩
      · simp only [same] at gone
        cases gone
      · cases silent
    | stops silent outside =>
      rw [outside call there] at working
      cases working
    | sleeps silent delay => exact ⟨_, List.mem_append_right _ (List.mem_singleton.mpr rfl), rfl⟩
    | @goesOn manager later silent stays goes =>
      rw [silent] at resumed still
      rcases resumed with ⟨outcome, told, -⟩ | ⟨next, -, same, fewer⟩
      · cases told
      · rw [stays] at same
        cases same
        have again : next = .waiting → ∃ seat, manager.seats.get? session = some seat ∧
            seat.line.head? = some id := by
          intro waits
          have ready := goes waits
          simp only [Manager.isReady, stays, waits] at ready
          obtain ⟨seat, seated, served⟩ := (Option.any_eq_true _ _).mp ready
          exact ⟨seat, seated, by simpa [Manager.isServed] using served⟩
        exact ih still stays again (by omega) there

theorem Turn.timed {call : Call} (turn : timeline.Turn id call)
    (sound : timeline.manager.Sound)
    (timed : ∀ other there, other ≠ id → timeline.manager.calls.get? other = some there →
      there.phase.window?.isSome → ∃ timer ∈ timeline.timers ++ due, timer.id = other) :
    (timeline.runCall id).Timed due := by
  have ran := ran_run sound callSteps id
  intro other there found working
  by_cases same : other = id
  · subst same
    have enough : call.phase.stepsLeft ≤ callSteps := by
      cases call.phase <;> simp [Phase.stepsLeft, callSteps]
    obtain ⟨timer, member, named⟩ :=
      timed_run sound turn.found turn.head enough found working
    exact ⟨timer, List.mem_append_left _ member, named⟩
  · rw [runCall, ran.others other same] at found
    obtain ⟨timer, member, named⟩ := timed other there same found working
    refine ⟨timer, ?_, named⟩
    rcases List.mem_append.mp member with early | waiting
    · rcases ran.timers with kept | ⟨deadline, -, more, -⟩
      · exact List.mem_append_left _ (by rw [runCall, kept]; exact early)
      · exact List.mem_append_left _ (by rw [runCall, more]; exact List.mem_append_left _ early)
    · exact List.mem_append_right _ waiting

theorem Timed.settle (timed : timeline.Timed []) (regular : timeline.Regular)
    (arrived : timeline.Arrived) : timeline.settle.Timed [] := by
  revert timed
  refine settle_induction (motive := fun timeline =>
    timeline.Timed [] → timeline.settle.Timed []) ?_ ?_ regular arrived
  · intro timeline rest timed
    rw [settle_of_not_ready rest.unready]
    exact timed
  · intro timeline id regular arrived ready later timed
    obtain ⟨session, request, turn⟩ := ready_turn arrived ready
    rw [settle_of_ready regular arrived ready]
    exact later (turn.timed regular.sound fun other there _ => timed other there)

theorem Timed.wakeAll (timed : timeline.Timed due) (called : timeline.Due due)
    (regular : timeline.Regular) : (timeline.wakeAll due).Timed [] := by
  induction due generalizing timeline with
  | nil => exact timed
  | cons timer rest ih =>
    obtain ⟨call, turn, -⟩ := called.turn
    have untimed : ∀ other ∈ timeline.timers, other.id ≠ timer.id :=
      called.untimed timer (by simp)
    rw [Timeline.wakeAll, List.foldl_cons, wake_eq regular]
    apply ih _ (called.later regular.sound) (regular.runCall untimed)
    apply turn.timed regular.sound
    intro other there different found working
    obtain ⟨set, member, named⟩ := timed other there found working
    refine ⟨set, ?_, named⟩
    rcases List.mem_append.mp member with early | waiting
    · exact List.mem_append_left _ early
    · rcases List.mem_cons.mp waiting with rfl | later
      · exact absurd named.symm different
      · exact List.mem_append_right _ later

theorem Timed.moveTo (timed : timeline.Timed []) (rest : timeline.AtRest) (deadline : Nat) :
    (timeline.moveTo deadline).Timed [] := by
  have struck : (timeline.struck deadline).Timed (timeline.due deadline) := by
    intro id call found working
    obtain ⟨timer, member, named⟩ := timed id call found working
    refine ⟨timer, ?_, named⟩
    rw [List.append_nil] at member
    by_cases early : timer.deadline ≤ deadline
    · exact List.mem_append_right _ (List.mem_filter.mpr ⟨member, by simpa using early⟩)
    · exact List.mem_append_left _ (List.mem_filter.mpr ⟨member, by simpa using early⟩)
  have called := rest.regular.due deadline
  have regular := rest.regular.struck deadline
  have worn := called.worn regular rest.arrived (fun _ => Index.mem_keys.mpr)
  rw [moveTo_eq]
  exact (struck.wakeAll called regular).settle worn.regular worn.arrived

/-- While a call is pending, time can pass until one wakes up. -/
theorem AtRest.next (rest : timeline.AtRest) (timed : timeline.Timed [])
    (pending : timeline.manager.calls ≠ ∅) :
    ∃ deadline, timeline.nextDeadline? = some deadline := by
  obtain ⟨id, call, found⟩ := Index.exists_of_ne_empty pending
  have sound := rest.regular.sound
  obtain ⟨seat, seated⟩ := sound.seated id call found
  have line := (sound.seats call.session seat seated).line
  have member : id ∈ seat.line :=
    (line.mem_iff id).mpr ⟨call, found, rfl, rest.arrived id call found⟩
  obtain ⟨first, head⟩ : ∃ first, seat.line.head? = some first :=
    Option.isSome_iff_exists.mp (List.isSome_head?.mpr (List.ne_nil_of_mem member))
  obtain ⟨served, serves, own, arrived⟩ := (line.mem_iff first).mp (List.mem_of_mem_head? head)
  have working : served.phase.window?.isSome := by
    have listed : first ∈ timeline.manager.calls.keys :=
      Index.mem_keys.mpr (by simp [Index.contains, serves])
    have unready := List.find?_eq_none.mp rest.unready first listed
    cases phase : served.phase with
    | arriving => exact absurd phase arrived
    | waiting =>
      simp [Manager.isReady, serves, phase, own, seated, Manager.isServed, head] at unready
    | loading | writing | reading | storing => rfl
  obtain ⟨timer, set, -⟩ := timed first served serves working
  cases none_due : timeline.nextDeadline? with
  | some deadline => exact ⟨deadline, rfl⟩
  | none =>
    rw [List.append_nil] at set
    have none_set := List.map_eq_nil_iff.mp (List.min?_eq_none_iff.mp none_due)
    rw [none_set] at set
    cases set

/-- The calls have been issued to a manager without calls, and those in `done` have ended. -/
structure Underway (session : SessionId) (begin : Manager) (calls : List (CallId × Request))
    (done : List CallId) (timeline : Timeline) : Prop where
  rest : timeline.AtRest
  timed : timeline.Timed []
  inTurn : timeline.Shows fun manager told =>
    Manager.InTurn session begin calls [] manager told ∧ ∀ id ∈ done, id ∈ told.map (·.1)

variable {begin : Manager} {calls : List (CallId × Request)} {done : List CallId}

theorem hasEnded_of_shown {answers : List (CallId × Outcome)}
    (shown : timeline.endings = answers.map ending) (id : CallId) :
    timeline.hasEnded id = true ↔ id ∈ answers.map (·.1) := by
  rw [hasEnded, shown, List.any_map, List.any_eq_true]
  constructor
  · rintro ⟨answer, member, same⟩
    exact List.mem_map.mpr ⟨answer, member, of_decide_eq_true same⟩
  · intro member
    obtain ⟨answer, inside, same⟩ := List.mem_map.mp member
    exact ⟨answer, inside, decide_eq_true same⟩

theorem kept_inTurn (manager : Manager) (told : List (CallId × Outcome)) (id : CallId)
    (here : Manager.InTurn session begin calls [] manager told ∧
      ∀ id ∈ done, id ∈ told.map (·.1)) :
    Manager.InTurn session begin calls [] (manager.resume id).2
        (told ++ (manager.resume id).1.toList.map (id, ·)) ∧
      ∀ other ∈ done, other ∈
        (told ++ (manager.resume id).1.toList.map (id, ·)).map (·.1) := by
  refine ⟨here.1.resume List.not_mem_nil, ?_⟩
  intro other ended
  rw [List.map_append]
  exact List.mem_append_left _ (here.2 other ended)

theorem Underway.moveTo (underway : Underway session begin calls done timeline)
    (deadline : Nat) : Underway session begin calls done (timeline.moveTo deadline) := by
  obtain ⟨rest, timed, inTurn⟩ := underway
  exact ⟨(rest.moveTo deadline (fun _ => Index.mem_keys.mpr)).2, timed.moveTo rest deadline,
    inTurn.moveTo kept_inTurn rest deadline⟩

/-- Time passes until the call has ended. -/
theorem Underway.awaitWithin (rounds : Nat) (underway : Underway session begin calls done timeline)
    (sound : begin.Sound) (quiet : begin.calls = ∅) (asked : id ∈ calls.map (·.1))
    (within : ∀ id, timeline.manager.calls.contains id = true → id ∈ ids)
    (enough : timeline.manager.total Phase.waitsLeft ids < rounds) :
    Underway session begin calls (done ++ [id]) (timeline.awaitWithin rounds id) := by
  induction rounds generalizing timeline with
  | zero => exact absurd enough (Nat.not_lt_zero _)
  | succ rounds ih =>
    rw [Timeline.awaitWithin]
    obtain ⟨answers, shown, inTurn, ended⟩ := underway.inTurn
    split
    · rename_i told
      refine ⟨underway.rest, underway.timed, answers, shown, inTurn, ?_⟩
      intro other member
      rcases List.mem_append.mp member with early | last
      · exact ended other early
      · rw [List.mem_singleton.mp last]
        exact (hasEnded_of_shown shown id).mp told
    · rename_i untold
      have pending : timeline.manager.calls ≠ ∅ := by
        intro empty
        apply untold
        have ids := (inTurn.ended empty).2.map (·.1)
        rw [(Manager.askAll_quiet sound quiet session calls).1] at ids
        exact (hasEnded_of_shown shown id).mpr (ids.mem_iff.mpr asked)
      obtain ⟨deadline, next⟩ := underway.rest.next underway.timed pending
      have fewer := underway.rest.waits_moveTo next within
      rw [next]
      exact ih (underway.moveTo deadline) (underway.rest.moveTo deadline within).1.within
        (by omega)

theorem Underway.awaitAll (ids : List CallId)
    (underway : Underway session begin calls done timeline)
    (sound : begin.Sound) (quiet : begin.calls = ∅) (asked : ids ⊆ calls.map (·.1)) :
    Underway session begin calls (done ++ ids) (timeline.awaitAll ids) := by
  induction ids generalizing timeline done with
  | nil => simpa [Timeline.awaitAll] using underway
  | cons first rest ih =>
    have awaited := underway.awaitWithin timeline.patience sound quiet (asked List.mem_cons_self)
      (fun _ => Index.mem_keys.mpr) timeline.waits_lt_patience
    rw [List.append_cons]
    exact ih awaited (List.subset_of_cons_subset asked)

/-- When all calls have ended, everything is as it is when they come one by one. -/
theorem Underway.ended (underway : Underway session begin calls (calls.map (·.1)) timeline)
    (sound : begin.Sound) (quiet : begin.calls = ∅) (distinct : (calls.map (·.1)).Nodup) :
    timeline.manager = (begin.askAll session calls).2 ∧
      timeline.endings.Perm ((begin.askAll session calls).1.map ending) := by
  obtain ⟨answers, shown, inTurn, told⟩ := underway.inTurn
  obtain ⟨same, answered⟩ := inTurn.ended (inTurn.all_told sound quiet distinct told)
  rw [shown]
  exact ⟨same, answered.map ending⟩

/-- One more call is issued. -/
theorem Underway.spawn (underway : Underway session begin calls [] timeline)
    (new : id ∉ calls.map (·.1)) (request : Request) :
    Underway session begin (calls ++ [(id, request)]) [] (timeline.spawn id session request) := by
  obtain ⟨rest, timed, answers, shown, inTurn, -⟩ := underway
  have fresh := inTurn.ours.fresh new
  have later := inTurn.issue new request
  have others : ∀ other, other ≠ id →
      (timeline.manager.issue id session request).2.calls.get? other =
        timeline.manager.calls.get? other :=
    fun other different => Manager.calls_issue_other fresh (Ne.symm different)
  rw [Timeline.spawn]
  cases issued : timeline.manager.issue id session request with
  | mk outcome manager =>
    rw [issued] at later others
    obtain ⟨silent, joined⟩ := later.join
    cases outcome with
    | some outcome =>
      obtain rfl : timeline.manager = manager := by
        rw [Manager.issue_eq fresh] at issued
        split at issued
        · cases issued
        · exact congrArg Prod.snd issued
      simp only [Manager.resume_of_none fresh] at joined
      refine ⟨⟨⟨rest.regular.sound, rest.regular.errands, rest.regular.ahead,
        rest.regular.working, rest.regular.nodup⟩, rest.arrived, rest.unready⟩, timed, _, ?_,
        joined, by simp⟩
      simp [finish, withManager, shown, ending]
    | none =>
      have called := rest.issue fresh issued
      obtain ⟨regular, arrived⟩ := called.runCall
      obtain ⟨call, turn⟩ := called.turn
      refine ⟨(settle_worn regular arrived (fun _ => Index.mem_keys.mpr)).2, ?_, ?_⟩
      · refine Timed.settle (turn.timed called.regular.sound ?_) regular arrived
        intro other there different found working
        exact timed other there ((others other different).symm.trans found) working
      · apply Shows.settle kept_inTurn
        have runs : Runs (timeline.withManager manager) id 4
          ((timeline.withManager manager).runCall id) := run_runs _ id 4
        apply runs.shows shown
        · simp only [Option.toList_none, List.map_nil, List.append_nil] at joined
          exact ⟨by simpa [withManager, silent] using joined, by simp⟩
        · intro manager still
          exact still.run kept_inTurn 4 id

theorem Underway.spawnAll (later : List (CallId × Request))
    (underway : Underway session begin calls [] timeline)
    (distinct : ((calls ++ later).map (·.1)).Nodup) :
    Underway session begin (calls ++ later) [] (timeline.spawnAll session later) := by
  induction later generalizing timeline calls with
  | nil => simpa [Timeline.spawnAll] using underway
  | cons first rest ih =>
    have new : first.1 ∉ calls.map (·.1) := by
      rw [List.map_append, List.map_cons, List.nodup_append] at distinct
      intro member
      exact distinct.2.2 first.1 member first.1 (by simp) rfl
    rw [List.append_cons] at distinct ⊢
    exact ih (underway.spawn new first.2) distinct

theorem atRest_of_quiet {manager : Manager} (sound : manager.Sound) (quiet : manager.calls = ∅)
    (latency : Latency) (now : Nat) (endings : List (CallId × Ending)) :
    (Timeline.mk latency now manager ∅ [] endings).AtRest := by
  refine ⟨⟨sound, rfl, by simp, by simp, List.nodup_nil⟩, ?_, ready?_of_quiet quiet⟩
  intro id call found
  rw [quiet] at found
  cases found

/-- No call is pending, and nothing is left to be told. -/
structure Idle (timeline : Timeline) : Prop where
  rest : timeline.AtRest
  calls : timeline.manager.calls = ∅
  endings : timeline.endings = []

theorem Idle.underway (idle : timeline.Idle) (session : SessionId) :
    Underway session timeline.manager [] [] timeline := by
  refine ⟨idle.rest, ?_, [], idle.endings,
    Manager.inTurn_nil idle.rest.regular.sound idle.calls, by simp⟩
  intro id call found
  rw [idle.calls] at found
  cases found

/-- Calls that are issued at once end as if they came one by one. -/
theorem Idle.together (idle : timeline.Idle) (session : SessionId)
    (distinct : (calls.map (·.1)).Nodup) :
    let after := (timeline.spawnAll session calls).awaitAll (calls.map (·.1))
    after.AtRest ∧ after.manager = (timeline.manager.askAll session calls).2 ∧
      after.endings.Perm ((timeline.manager.askAll session calls).1.map ending) := by
  have sound := idle.rest.regular.sound
  have issued := (idle.underway session).spawnAll calls distinct
  have ended := issued.awaitAll (calls.map (·.1)) sound idle.calls (List.Subset.refl _)
  exact ⟨ended.rest, ended.ended sound idle.calls distinct⟩

theorem Idle.ask (idle : timeline.Idle) (id : CallId) (session : SessionId)
    (request : Request) :
    (timeline.ask id session request).2.Idle ∧
      (timeline.ask id session request).2.manager =
        (timeline.manager.ask id session request).2 ∧
      (timeline.ask id session request).1 =
        (timeline.manager.ask id session request).1.map .answered := by
  have once : ([(id, request)].map (·.1)).Nodup := List.nodup_singleton id
  obtain ⟨rest, same, endings⟩ := idle.together session once
  obtain ⟨outcome, asked, -, quiet⟩ :=
    Manager.ask_quiet idle.rest.regular.sound idle.calls id session request
  have asks : timeline.ask id session request =
      ((timeline.spawnAll session [(id, request)]).awaitAll [id]).claim id := rfl
  have told : (timeline.manager.askAll session [(id, request)]).1.map ending =
      [(id, .answered outcome)] := by
    simp [Manager.askAll, asked, ending]
  rw [told] at endings
  have last := List.perm_singleton.mp endings
  have ended : ((timeline.spawnAll session [(id, request)]).awaitAll [id]).manager =
      (timeline.manager.ask id session request).2 := same
  rw [asks, asked]
  refine ⟨⟨⟨⟨rest.regular.sound, rest.regular.errands, rest.regular.ahead,
    rest.regular.working, rest.regular.nodup⟩, rest.arrived, rest.unready⟩, ?_, ?_⟩, ended, ?_⟩
  · exact (congrArg Manager.calls ended).trans quiet
  · have none_left : [(id, Ending.answered outcome)].filter (·.1 ≠ id) = [] := by simp
    exact (congrArg (List.filter _) last).trans none_left
  · have found : [(id, Ending.answered outcome)].lookup id = some (.answered outcome) := by simp
    exact (congrArg (List.lookup id) last).trans found

theorem Idle.askAll (calls : List (CallId × Request)) (idle : timeline.Idle)
    (session : SessionId) :
    (timeline.askAll session calls).2.manager = (timeline.manager.askAll session calls).2 ∧
      (timeline.askAll session calls).1 =
        (timeline.manager.askAll session calls).1.map ending := by
  induction calls generalizing timeline with
  | nil => exact ⟨rfl, rfl⟩
  | cons first rest ih =>
    obtain ⟨id, request⟩ := first
    obtain ⟨later, same, told⟩ := idle.ask id session request
    obtain ⟨last, answers⟩ := ih later
    rw [same] at last answers
    refine ⟨last, ?_⟩
    simp only [Timeline.askAll, Manager.askAll, told, answers, List.map_append]
    cases (timeline.manager.ask id session request).1 <;> rfl

end Timeline

/-- Take a manager that any run leaves without calls. Calls of one session that are issued without
waiting for their outcomes are told what they are told when each is issued after the one before it
has been answered, and in the end the stored books, the locks, the sessions with their copies and
what has been recorded are the same. This is so however the calls are resumed, as long as they join
the line of their session in the order in which they are issued, and by the clock for any latency:
when the calls are issued all at once and time passes until they have ended, and when each is
awaited before the next is issued. -/
theorem concurrent_calls_come_one_by_one (store : RecordStore) (history : List Act)
    (few : Act.openings history ≤ 2 ^ 64)
    (quiet : ((Manager.start store).run history).calls = ∅) (session : SessionId)
    (calls : List (CallId × Request)) (distinct : (calls.map (·.1)).Nodup) :
    let manager := (Manager.start store).run history
    let answers := (manager.askAll session calls).1
    let last := (manager.askAll session calls).2
    answers.map (·.1) = calls.map (·.1) ∧ last.calls = ∅ ∧
    (∀ acts, Act.InOrder session [] calls acts → (manager.run acts).calls = ∅ →
      manager.run acts = last ∧
        (along Manager.step Manager.outcomes manager acts).Perm answers) ∧
    ∀ (latency : Latency) (now : Nat),
      let timeline := Timeline.mk latency now manager ∅ [] []
      let together := (timeline.spawnAll session calls).awaitAll (calls.map (·.1))
      let apart := timeline.askAll session calls
      together.manager = last ∧ together.endings.Perm (answers.map Timeline.ending) ∧
        apart.2.manager = last ∧ apart.1 = answers.map Timeline.ending := by
  intro manager answers last
  have sound : manager.Sound := (Manager.sound_run store history few).1
  obtain ⟨told, ended⟩ := Manager.askAll_quiet sound quiet session calls
  refine ⟨told, ended, ?_, ?_⟩
  · intro acts ordered finished
    obtain ⟨later, inTurn⟩ := (Manager.inTurn_nil sound quiet).run ordered distinct
    exact inTurn.ended finished
  · intro latency now timeline together apart
    have idle : timeline.Idle := ⟨Timeline.atRest_of_quiet sound quiet latency now [], quiet, rfl⟩
    obtain ⟨-, same, endings⟩ := idle.together session distinct
    obtain ⟨also, replies⟩ := idle.askAll calls session
    exact ⟨same, endings, also, replies⟩

/-- A session has been opened. -/
def annEnters : List Act := [.enter "ann", .enlist ⟨0⟩]

/-- A checkout is issued while the record is being written, then the session is removed, and a read
comes too late. -/
def writeToRemoval : List (CallId × Request) :=
  [(0, .write 7 .title "new"), (1, .checkout 7), (2, .removeSession), (3, .read 7 .title)]

/-- The checkout joins the line when the removal has been issued. -/
def overlapping : List Act :=
  [.issue 0 ⟨0⟩ (.write 7 .title "new"), .resume 0, .resume 0, .issue 1 ⟨0⟩ (.checkout 7),
    .resume 0, .issue 2 ⟨0⟩ .removeSession, .resume 1, .resume 1, .issue 3 ⟨0⟩ (.read 7 .title),
    .resume 2, .resume 0, .resume 0, .resume 1, .resume 1, .resume 2]

theorem concurrent_calls_come_one_by_one_of_writeToRemoval :
    Act.openings annEnters ≤ 2 ^ 64 ∧
      ((Manager.start (.ofBooks [.titled 7 "old"])).run annEnters).calls = ∅ ∧
      (writeToRemoval.map (·.1)).Nodup ∧ Act.InOrder ⟨0⟩ [] writeToRemoval overlapping ∧
      (along Manager.step Manager.outcomes
        ((Manager.start (.ofBooks [.titled 7 "old"])).run annEnters) overlapping).Perm
          [(0, .ok (.book (.titled 7 "new"))), (1, .ok (.book (.titled 7 "new"))),
            (2, .ok (.resources [7])), (3, .error (.sessionNotFound ⟨0⟩))] ∧
      (((Timeline.mk ⟨4, 3, 2, 1⟩ 0 ((Manager.start (.ofBooks [.titled 7 "old"])).run annEnters) ∅
        [] []).spawnAll ⟨0⟩ writeToRemoval).awaitAll [0, 1, 2, 3]).endings.Perm
          [(0, .answered (.ok (.book (.titled 7 "new")))),
            (1, .answered (.ok (.book (.titled 7 "new")))),
            (2, .answered (.ok (.resources [7]))),
            (3, .answered (.error (.sessionNotFound ⟨0⟩)))] := by
  have few : Act.openings annEnters ≤ 2 ^ 64 := by decide
  have quiet : ((Manager.start (.ofBooks [.titled 7 "old"])).run annEnters).calls = ∅ := by decide
  have distinct : (writeToRemoval.map (·.1)).Nodup := by decide
  have ordered : Act.InOrder ⟨0⟩ [] writeToRemoval overlapping :=
    .issue <| .join <| .resume (by decide) <| .issue <| .resume (by decide) <| .issue <| .join <|
      .resume (by decide) <| .issue <| .join <| .resume (by decide) <| .resume (by decide) <|
      .resume (by decide) <| .resume (by decide) <| .resume (by decide) .done
  obtain ⟨-, -, interleaved, clocked⟩ := concurrent_calls_come_one_by_one
    (.ofBooks [.titled 7 "old"]) annEnters few quiet ⟨0⟩ writeToRemoval distinct
  exact ⟨few, quiet, distinct, ordered, (interleaved overlapping ordered (by decide)).2,
    (clocked ⟨4, 3, 2, 1⟩ 0).2.1⟩

end RecordLocks
