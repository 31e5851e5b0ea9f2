import RecordLocks.Proofs.Parts
import RecordLocks.Proofs.PassingTime
namespace RecordLocks

/-- What a caller does at once. -/
inductive Instruction where
  | spawn (id : CallId) (session : SessionId) (request : Request)
  | cancel (id : CallId)
  deriving DecidableEq, Repr

def Instruction.act : Instruction → Act
  | spawn id session request => .issue id session request
  | cancel id => .cancel id

/-- Instructions with the times at which they are given. -/
abbrev Script := List (Nat × Instruction)

namespace Timeline

/-- The number of a pending call is not given to another one, and only pending calls are
cancelled. -/
def obey (timeline : Timeline) : Instruction → Timeline
  | .spawn id session request =>
    if timeline.isPending id then timeline else timeline.spawn id session request
  | .cancel id => if timeline.isPending id then timeline.cancel id else timeline

/-- The clock moves on to the time of each instruction. -/
def play (timeline : Timeline) (script : Script) : Timeline :=
  script.foldl (fun timeline entry => (timeline.advanceTo entry.1).obey entry.2) timeline

/-- How things stand when all has happened that a script lets happen up to a time. -/
def playTo (timeline : Timeline) (script : Script) (time : Nat) : Timeline :=
  (timeline.play (script.filter (·.1 ≤ time))).advanceTo time

/-- What a timeline has for a party. -/
def part (timeline : Timeline) (party : Party) : Timeline :=
  { timeline with
    manager := timeline.manager.part party
    timers := timeline.timers.filter (party.calls ·.id)
    endings := timeline.endings.filter (party.calls ·.1) }

variable {timeline : Timeline} {party : Party} {id : CallId} {session : SessionId}
  {request : Request} {deadline target : Nat}

theorem separated_run (separated : timeline.manager.Separated party) (steps : Nat) (id : CallId) :
    (timeline.run steps id).manager.Separated party := by
  induction steps generalizing timeline with
  | zero => exact separated
  | succ steps ih =>
    have resumed := separated.resume id
    rw [run]
    split
    · rename_i outcome manager same
      rw [same] at resumed
      exact resumed
    · rename_i manager same
      rw [same] at resumed
      cases manager.calls.get? id with
      | none => exact resumed
      | some call =>
        simp only
        split
        · exact resumed
        · split
          · exact resumed
          · have goesOn : ((timeline.withManager manager).run steps id).manager.Separated party :=
              ih resumed
            exact goesOn

theorem isReady_part {manager : Manager} (separated : manager.Separated party)
    (mine : party.calls id = true) : (manager.part party).isReady id = manager.isReady id := by
  simp only [Manager.isReady, Manager.calls_part, mine, if_true]
  cases found : manager.calls.get? id with
  | none => rfl
  | some call =>
    have own := (separated.calls id call found).symm.trans mine
    simp only [Manager.seats_part, own, if_true]

/-- A call of the party runs in its part as in the whole. -/
theorem part_run (separated : timeline.manager.Separated party) (mine : party.calls id = true)
    (steps : Nat) : (timeline.run steps id).part party = (timeline.part party).run steps id := by
  induction steps generalizing timeline with
  | zero => rfl
  | succ steps ih =>
    have resumed : (timeline.part party).manager.resume id = _ := separated.resume_own mine
    have later := separated.resume id
    rw [run, run, resumed]
    generalize timeline.manager.resume id = result at later
    obtain ⟨outcome, manager⟩ := result
    cases outcome with
    | some outcome => simp [part, finish, withManager, mine]
    | none =>
      have there : (manager.part party).calls.get? id = manager.calls.get? id := by simp [mine]
      simp only [there]
      cases manager.calls.get? id with
      | none => rfl
      | some call =>
        simp only [isReady_part later mine]
        split
        · rename_i late
          have late : 0 < (timeline.part party).latency.ofPhase call.phase := late
          rw [if_pos late]
          simp [part, setTimer, withManager, mine]
        · rename_i soon
          have soon : ¬ 0 < (timeline.part party).latency.ofPhase call.phase := soon
          rw [if_neg soon]
          split
          · rfl
          · have goesOn : ((timeline.withManager manager).run steps id).part party = _ := ih later
            exact goesOn

theorem part_run_other (separated : timeline.manager.Separated party)
    (outside : party.calls id = false) (steps : Nat) :
    (timeline.run steps id).part party = timeline.part party := by
  induction steps generalizing timeline with
  | zero => rfl
  | succ steps ih =>
    have kept : (timeline.manager.resume id).2.part party = timeline.manager.part party :=
      separated.part_resume_other outside
    have later := separated.resume id
    rw [run]
    generalize timeline.manager.resume id = result at kept later
    obtain ⟨outcome, manager⟩ := result
    have stopped : (timeline.withManager manager).part party = timeline.part party := by
      simp [part, withManager, kept]
    cases outcome with
    | some outcome => simpa [part, finish, outside] using stopped
    | none =>
      simp only
      cases manager.calls.get? id with
      | none => exact stopped
      | some call =>
        simp only
        split
        · simpa [part, setTimer, outside] using stopped
        · split
          · exact stopped
          · have goesOn : ((timeline.withManager manager).run steps id).part party = _ := ih later
            exact goesOn.trans stopped

theorem Regular.part (regular : timeline.Regular)
    (separated : timeline.manager.Separated party) : (timeline.part party).Regular := by
  refine ⟨separated.sound_part, regular.errands, ?_, ?_, ?_⟩
  · intro timer member
    exact regular.ahead timer (List.mem_filter.mp member).1
  · intro timer member
    obtain ⟨inside, mine⟩ := List.mem_filter.mp member
    obtain ⟨call, found, opened⟩ := regular.working timer inside
    exact ⟨call, by simpa [Timeline.part, mine] using found, opened⟩
  · exact regular.nodup.sublist (List.filter_sublist.map _)

theorem Arrived.part (arrived : timeline.Arrived) : (timeline.part party).Arrived := by
  intro id call found
  simp only [Timeline.part, Manager.calls_part] at found
  split at found
  · exact arrived id call found
  · cases found

theorem ready?_part (separated : timeline.manager.Separated party) :
    (timeline.part party).ready? =
      timeline.manager.calls.keys.find? fun id =>
        party.calls id && timeline.manager.isReady id := by
  have keys : (timeline.part party).manager.calls.keys =
      timeline.manager.calls.keys.filter party.calls := Index.restrict_keys _ _
  rw [ready?, keys, List.find?_filter]
  congr 1
  funext id
  cases mine : party.calls id with
  | false => simp
  | true =>
    have same : (timeline.part party).manager.isReady id = timeline.manager.isReady id :=
      isReady_part separated mine
    simp [same]

theorem ready?_part_own (separated : timeline.manager.Separated party)
    (mine : party.calls id = true) (ready : timeline.ready? = some id) :
    (timeline.part party).ready? = some id := by
  rw [ready?_part separated]
  obtain ⟨goes, before, later, split, first⟩ := List.find?_eq_some_iff_append.mp ready
  refine List.find?_eq_some_iff_append.mpr ⟨by simp [mine, goes], before, later, split, ?_⟩
  intro other member
  have waits := first other member
  simp only [Bool.not_eq_true'] at waits
  simp [waits]

theorem AtRest.part (rest : timeline.AtRest) (separated : timeline.manager.Separated party) :
    (timeline.part party).AtRest := by
  refine ⟨rest.regular.part separated, rest.arrived.part, ?_⟩
  rw [ready?_part separated, List.find?_eq_none]
  intro id member ready
  have waits := List.find?_eq_none.mp rest.unready id member
  simp only [Bool.and_eq_true] at ready
  exact waits ready.2

theorem part_settle (separated : timeline.manager.Separated party) (regular : timeline.Regular)
    (arrived : timeline.Arrived) :
    timeline.settle.part party = (timeline.part party).settle ∧
      timeline.settle.manager.Separated party := by
  revert separated
  refine settle_induction (motive := fun timeline =>
    timeline.manager.Separated party →
      timeline.settle.part party = (timeline.part party).settle ∧
        timeline.settle.manager.Separated party) ?_ ?_ regular arrived
  · intro timeline rest separated
    rw [settle_of_not_ready rest.unready, settle_of_not_ready (rest.part separated).unready]
    exact ⟨rfl, separated⟩
  · intro timeline id regular arrived ready goesOn separated
    have later := separated_run separated callSteps id
    rw [settle_of_ready regular arrived ready]
    refine ⟨?_, (goesOn later).2⟩
    rw [(goesOn later).1]
    cases mine : party.calls id with
    | true =>
      rw [settle_of_ready (regular.part separated) arrived.part
        (ready?_part_own separated mine ready), runCall, part_run separated mine]
      rfl
    | false => rw [runCall, part_run_other separated mine]

theorem part_wakeAll {due : List Timer} (called : timeline.Due due) (regular : timeline.Regular)
    (separated : timeline.manager.Separated party) :
    (timeline.wakeAll due).part party =
        (timeline.part party).wakeAll (due.filter (party.calls ·.id)) ∧
      (timeline.wakeAll due).manager.Separated party := by
  induction due generalizing timeline with
  | nil => exact ⟨rfl, separated⟩
  | cons timer rest ih =>
    have untimed : ∀ other ∈ timeline.timers, other.id ≠ timer.id :=
      called.untimed timer (by simp)
    have run := regular.runCall untimed
    obtain ⟨same, still⟩ := ih (called.later regular.sound) run
      (separated_run separated callSteps timer.id)
    rw [wakeAll, List.foldl_cons, wake_eq regular]
    refine ⟨same.trans ?_, still⟩
    cases mine : party.calls timer.id with
    | true =>
      rw [List.filter_cons_of_pos (by simpa using mine), wakeAll, wakeAll, List.foldl_cons,
        wake_eq (regular.part separated), runCall, part_run separated mine]
      rfl
    | false =>
      rw [List.filter_cons_of_neg (by simp [mine]), runCall, part_run_other separated mine]

theorem part_moveTo (rest : timeline.AtRest) (separated : timeline.manager.Separated party)
    (deadline : Nat) :
    (timeline.moveTo deadline).part party = (timeline.part party).moveTo deadline ∧
      (timeline.moveTo deadline).manager.Separated party := by
  have struck : (timeline.struck deadline).part party =
      (timeline.part party).struck deadline := by
    simp [Timeline.struck, Timeline.part, List.filter_filter, Bool.and_comm]
  have due : (timeline.due deadline).filter (party.calls ·.id) =
      (timeline.part party).due deadline := by
    simp [Timeline.due, Timeline.part, List.filter_filter, Bool.and_comm]
  have called := rest.regular.due deadline
  have regular := rest.regular.struck deadline
  obtain ⟨same, later⟩ := part_wakeAll called regular separated
  have worn := called.worn regular rest.arrived (fun _ => Index.mem_keys.mpr)
  rw [moveTo_eq, moveTo_eq]
  obtain ⟨settled, last⟩ := part_settle later worn.regular worn.arrived
  rw [settled, same, struck, due]
  exact ⟨rfl, last⟩

/-- Moving on to a time at which no call of its own is due changes nothing for a part. -/
theorem advanceTo_moveTo (rest : timeline.AtRest) (passed : timeline.now ≤ deadline)
    (first : ∀ timer ∈ timeline.timers, deadline ≤ timer.deadline) (soon : deadline ≤ target) :
    (timeline.moveTo deadline).advanceTo target = timeline.advanceTo target := by
  by_cases next : timeline.nextDeadline? = some deadline
  · exact (advanceTo_of_due rest next soon).symm
  · have later : ∀ timer ∈ timeline.timers, ¬ timer.deadline ≤ deadline := by
      intro timer member early
      apply next
      have same : timer.deadline = deadline := Nat.le_antisymm early (first timer member)
      refine List.min?_eq_some_iff.mpr ⟨List.mem_map.mpr ⟨timer, member, same⟩, ?_⟩
      intro other among
      obtain ⟨there, inside, rfl⟩ := List.mem_map.mp among
      exact first there inside
    have idle : timeline.moveTo deadline = { timeline with now := deadline } := by
      have none_due : timeline.due deadline = [] := by
        rw [due, List.filter_eq_nil_iff]
        intro timer member early
        exact later timer member (by simpa using early)
      have all_later : timeline.struck deadline = { timeline with now := deadline } := by
        rw [struck, List.filter_eq_self.mpr]
        intro timer member
        simpa using later timer member
      rw [moveTo_eq, none_due, all_later]
      exact settle_of_not_ready rest.unready
    rw [idle]
    apply advanceTo_now
    omega

theorem part_advanceTo (rest : timeline.AtRest) (separated : timeline.manager.Separated party)
    (target : Nat) :
    (timeline.advanceTo target).part party = (timeline.part party).advanceTo target ∧
      (timeline.advanceTo target).manager.Separated party := by
  revert separated
  refine advance_induction target (motive := fun timeline =>
    timeline.manager.Separated party →
      (timeline.advanceTo target).part party = (timeline.part party).advanceTo target ∧
        (timeline.advanceTo target).manager.Separated party) ?_ ?_ rest
  · intro timeline rest sleeps separated
    have asleep : (timeline.part party).SleepsTo target := by
      rw [sleepsTo_iff] at sleeps ⊢
      intro timer member
      exact sleeps timer (List.mem_filter.mp member).1
    rw [advanceTo_of_sleeps sleeps, advanceTo_of_sleeps asleep]
    exact ⟨rfl, separated⟩
  · intro timeline deadline rest next soon goesOn separated
    obtain ⟨moved, later⟩ := part_moveTo rest separated deadline
    obtain ⟨same, last⟩ := goesOn later
    obtain ⟨member, first⟩ := List.min?_eq_some_iff.mp next
    obtain ⟨timer, inside, due⟩ := List.mem_map.mp member
    rw [advanceTo_of_due rest next soon]
    refine ⟨?_, last⟩
    rw [same, moved]
    -- The deadline may be one of a call outside, and then none of the part's own is due.
    apply advanceTo_moveTo (rest.part separated)
    · have ahead := rest.regular.ahead timer inside
      rw [due] at ahead
      exact ahead
    · intro other among
      exact first other.deadline (List.mem_map_of_mem (List.mem_filter.mp among).1)
    · exact soon

/-- A call has just been issued. -/
structure Issued (id : CallId) (timeline : Timeline) : Prop where
  regular : timeline.Regular
  untimed : ∀ timer ∈ timeline.timers, timer.id ≠ id
  turn : ∃ call, timeline.Turn id call
  others : ∀ other there, other ≠ id → timeline.manager.calls.get? other = some there →
    there.phase ≠ .arriving

theorem Issued.runCall (issued : Issued id timeline) :
    (timeline.runCall id).Regular ∧ (timeline.runCall id).Arrived := by
  obtain ⟨call, turn⟩ := issued.turn
  exact ⟨issued.regular.runCall issued.untimed,
    turn.arrived issued.regular.sound issued.others⟩

theorem AtRest.issue (rest : timeline.AtRest) (fresh : timeline.manager.calls.get? id = none)
    {manager : Manager} (issued : timeline.manager.issue id session request = (none, manager)) :
    Issued id (timeline.withManager manager) := by
  have untimed : ∀ timer ∈ timeline.timers, timer.id ≠ id := by
    rintro timer member rfl
    obtain ⟨call, found, -⟩ := rest.regular.working timer member
    rw [fresh] at found
    cases found
  rcases Manager.issue_fresh fresh session request with
    ⟨seat, seated, listed, found⟩ | ⟨-, refused⟩
  · rw [found] at issued
    cases issued
    have sound : (timeline.manager.issue id session request).2.Sound := rest.regular.sound.issue
    rw [found] at sound
    have others : ∀ other, other ≠ id →
        (timeline.manager.calls.insert id ⟨session, request, .arriving⟩).get? other =
          timeline.manager.calls.get? other := by
      intro other different
      rw [Index.get?_insert, if_neg different.symm]
    refine ⟨⟨sound, rest.regular.errands, rest.regular.ahead, ?_, rest.regular.nodup⟩, untimed,
      ⟨⟨session, request, .arriving⟩, Manager.calls_setCall _ _ _, by simp⟩, ?_⟩
    · intro timer member
      obtain ⟨call, there, opened⟩ := rest.regular.working timer member
      exact ⟨call, (others timer.id (untimed timer member)).trans there, opened⟩
    · intro other there different found
      exact rest.arrived other there ((others other different).symm.trans found)
  · rw [refused] at issued
    cases issued

theorem isPending_part (mine : party.calls id = true) :
    (timeline.part party).isPending id = timeline.isPending id := by
  simp [isPending, part, Index.contains, Index.get?_restrict, Manager.part, mine]

theorem fresh_of_not_pending (idle : timeline.isPending id = false) :
    timeline.manager.calls.get? id = none := by
  simp only [isPending, Bool.or_eq_false_iff] at idle
  simpa [Index.contains] using idle.1

/-- A timeline at rest in which the party and the others have nothing in common. -/
structure Divided (timeline : Timeline) (party : Party) : Prop where
  rest : timeline.AtRest
  separated : timeline.manager.Separated party

theorem Divided.part (divided : timeline.Divided party) : (timeline.part party).AtRest :=
  divided.rest.part divided.separated

theorem Divided.spawn (divided : timeline.Divided party) (idle : timeline.isPending id = false)
    (admitted : party.admits (.issue id session request) = true) :
    (timeline.spawn id session request).Divided party ∧
      (timeline.spawn id session request).part party =
        if party.calls id then (timeline.part party).spawn id session request
        else timeline.part party := by
  have rest := divided.rest
  have fresh := fresh_of_not_pending idle
  have later : (timeline.manager.issue id session request).2.Separated party :=
    divided.separated.step admitted
  have side : party.calls id = party.sessions session := by
    simp only [Party.admits, Bool.and_eq_true, beq_iff_eq] at admitted
    exact admitted.1
  have own : party.calls id = true →
      (timeline.part party).manager.issue id session request =
        ((timeline.manager.issue id session request).1,
          (timeline.manager.issue id session request).2.part party) :=
    fun mine => Manager.issue_part (side.symm.trans mine) mine
  have other : party.calls id = false →
      (timeline.manager.issue id session request).2.part party = timeline.manager.part party :=
    divided.separated.part_issue_other admitted
  have unchanged : (timeline.manager.issue id session request).1 ≠ none →
      (timeline.manager.issue id session request).2 = timeline.manager := by
    intro answered
    rcases Manager.issue_fresh fresh session request with
      ⟨seat, -, -, issued⟩ | ⟨-, refused⟩
    · rw [issued] at answered
      exact absurd rfl answered
    · rw [refused]
  have issued : ∀ manager, timeline.manager.issue id session request = (none, manager) →
      Issued id (timeline.withManager manager) := fun _ => rest.issue fresh
  rw [Timeline.spawn, Timeline.spawn]
  generalize timeline.manager.issue id session request = result at later own other unchanged issued
  obtain ⟨outcome, manager⟩ := result
  cases outcome with
  | some outcome =>
    have same : manager = timeline.manager := unchanged (by simp)
    subst same
    refine ⟨⟨⟨⟨later.sound, rest.regular.errands, rest.regular.ahead, rest.regular.working,
      rest.regular.nodup⟩, rest.arrived, rest.unready⟩, later⟩, ?_⟩
    cases mine : party.calls id with
    | true =>
      rw [if_pos rfl, own mine]
      simp [Timeline.part, finish, withManager, mine]
    | false => simp [Timeline.part, finish, withManager, mine]
  | none =>
    have issued := issued manager rfl
    obtain ⟨regular, arrived⟩ := issued.runCall
    have ran : ((timeline.withManager manager).runCall id).manager.Separated party :=
      separated_run later callSteps id
    obtain ⟨settled, last⟩ := part_settle ran regular arrived
    refine ⟨⟨(settle_worn regular arrived (fun _ => Index.mem_keys.mpr)).2, last⟩, ?_⟩
    refine settled.trans ?_
    cases mine : party.calls id with
    | true =>
      have run : ((timeline.withManager manager).runCall id).part party = _ :=
        part_run later mine callSteps
      rw [if_pos rfl, own mine, run]
      rfl
    | false =>
      have same : (timeline.withManager manager).part party = timeline.part party := by
        simp [Timeline.part, withManager, other mine]
      have run : ((timeline.withManager manager).runCall id).part party = _ :=
        part_run_other later mine callSteps
      rw [run, same]
      exact settle_of_not_ready divided.part.unready

/-- A timeline in which a call has just been cancelled. -/
def stop (timeline : Timeline) (id : CallId) : Timeline :=
  { timeline.withManager (timeline.manager.cancel id) with
    errands := timeline.errands.erase id
    timers := timeline.timers.filter (·.id ≠ id) }.finish id .cancelled

theorem AtRest.stop (rest : timeline.AtRest) (id : CallId) :
    (timeline.stop id).Regular ∧ (timeline.stop id).Arrived := by
  have none_sent : timeline.errands.erase id = ∅ := by
    rw [rest.regular.errands]
    rfl
  refine ⟨⟨rest.regular.sound.cancel, none_sent, ?_, ?_, ?_⟩, ?_⟩
  · intro timer member
    exact rest.regular.ahead timer (List.mem_filter.mp member).1
  · intro timer member
    obtain ⟨inside, different⟩ := List.mem_filter.mp member
    obtain ⟨call, found, opened⟩ := rest.regular.working timer inside
    have same : (timeline.manager.cancel id).calls.get? timer.id = _ :=
      Manager.calls_cancel_other (by simpa using different)
    exact ⟨call, same.trans found, opened⟩
  · exact rest.regular.nodup.sublist (List.filter_sublist.map _)
  · intro other call found
    have kept : timeline.manager.calls.get? other = some call := by
      have found : (timeline.manager.cancel id).calls.get? other = some call := found
      by_cases same : other = id
      · subst same
        cases there : timeline.manager.calls.get? other with
        | none =>
          rw [Manager.cancel_of_none there, there] at found
          cases found
        | some old =>
          cases opened : old.phase.window? with
          | none => simp [Manager.cancel_of_outside there opened, Index.get?_erase] at found
          | some resource => simp [Manager.cancel_of_window there opened, Index.get?_erase] at found
      · exact (Manager.calls_cancel_other same).symm.trans found
    exact rest.arrived other call kept

theorem Divided.cancel (divided : timeline.Divided party) (id : CallId) :
    (timeline.cancel id).Divided party ∧
      (timeline.cancel id).part party =
        if party.calls id then (timeline.part party).cancel id else timeline.part party := by
  obtain ⟨regular, arrived⟩ := divided.rest.stop id
  have later : (timeline.stop id).manager.Separated party := divided.separated.cancel id
  obtain ⟨settled, last⟩ := part_settle later regular arrived
  refine ⟨⟨(settle_worn regular arrived (fun _ => Index.mem_keys.mpr)).2, last⟩, ?_⟩
  refine settled.trans ?_
  cases mine : party.calls id with
  | true =>
    have same : (timeline.stop id).part party = (timeline.part party).stop id := by
      have cancelled : (timeline.part party).manager.cancel id = _ :=
        divided.separated.cancel_own mine
      simp only [stop, finish, withManager, cancelled]
      simp [Timeline.part, mine, List.filter_filter, Bool.and_comm]
    rw [if_pos rfl, same]
    rfl
  | false =>
    have timers : (timeline.timers.filter (·.id ≠ id)).filter (party.calls ·.id) =
        timeline.timers.filter (party.calls ·.id) := by
      rw [List.filter_filter]
      apply List.filter_congr
      intro timer member
      by_cases same : timer.id = id
      · simp [same, mine]
      · simp [same]
    have none_sent : timeline.errands.erase id = timeline.errands := by
      rw [divided.rest.regular.errands]
      rfl
    have same : (timeline.stop id).part party = timeline.part party := by
      simp only [stop, finish, withManager, Timeline.part, timers, none_sent,
        divided.separated.part_cancel_other mine]
      simp [mine]
    rw [same]
    exact settle_of_not_ready divided.part.unready

theorem Divided.obey (divided : timeline.Divided party) {instruction : Instruction}
    (admitted : party.admits instruction.act = true) :
    (timeline.obey instruction).Divided party ∧
      (timeline.obey instruction).part party =
        if party.owns instruction.act then (timeline.part party).obey instruction
        else timeline.part party := by
  cases instruction with
  | spawn id session request =>
    have owns : party.owns (Instruction.spawn id session request).act = party.calls id := rfl
    rw [owns, Timeline.obey]
    cases pending : timeline.isPending id with
    | true =>
      refine ⟨divided, ?_⟩
      cases mine : party.calls id with
      | true => simp [Timeline.obey, isPending_part mine, pending]
      | false => simp
    | false =>
      obtain ⟨later, same⟩ := divided.spawn pending admitted
      refine ⟨later, same.trans ?_⟩
      cases mine : party.calls id with
      | true => simp [Timeline.obey, isPending_part mine, pending]
      | false => rfl
  | cancel id =>
    have owns : party.owns (Instruction.cancel id).act = party.calls id := rfl
    rw [owns, Timeline.obey]
    cases pending : timeline.isPending id with
    | false =>
      refine ⟨divided, ?_⟩
      cases mine : party.calls id with
      | true => simp [Timeline.obey, isPending_part mine, pending]
      | false => simp
    | true =>
      obtain ⟨later, same⟩ := divided.cancel id
      refine ⟨later, same.trans ?_⟩
      cases mine : party.calls id with
      | true => simp [Timeline.obey, isPending_part mine, pending]
      | false => rfl

theorem Divided.advanceTo (divided : timeline.Divided party) (target : Nat) :
    (timeline.advanceTo target).Divided party ∧
      (timeline.advanceTo target).part party = (timeline.part party).advanceTo target := by
  obtain ⟨same, later⟩ := part_advanceTo divided.rest divided.separated target
  exact ⟨⟨divided.rest.advanceTo target, later⟩, same⟩

/-- Stopping the clock on its way to the first instruction changes nothing. -/
theorem play_advanceTo (rest : timeline.AtRest) {early time : Nat} {script : Script}
    (later : ∀ entry ∈ script, early ≤ entry.1) (ended : early ≤ time) :
    ((timeline.advanceTo early).play script).advanceTo time =
      (timeline.play script).advanceTo time := by
  cases script with
  | nil => exact advanceTo_advanceTo rest ended
  | cons entry script =>
    have first : early ≤ entry.1 := later entry (by simp)
    rw [play, play, List.foldl_cons, List.foldl_cons, advanceTo_advanceTo rest first]

/-- What a script does in the part of a party, its own instructions do. -/
theorem Divided.play (divided : timeline.Divided party) (script : Script) {time : Nat}
    (ordered : script.Pairwise fun first second => first.1 ≤ second.1)
    (admitted : ∀ entry ∈ script, party.admits entry.2.act = true)
    (ended : ∀ entry ∈ script, entry.1 ≤ time) :
    ((timeline.play script).advanceTo time).part party =
      ((timeline.part party).play (script.filter (party.owns ·.2.act))).advanceTo time := by
  induction script generalizing timeline with
  | nil => exact (divided.advanceTo time).2
  | cons entry rest ih =>
    obtain ⟨above, ordered⟩ := List.pairwise_cons.mp ordered
    obtain ⟨moved, same⟩ := divided.advanceTo entry.1
    obtain ⟨obeyed, done⟩ := moved.obey (admitted entry (by simp))
    have goesOn := ih obeyed ordered (fun other member => admitted other (by simp [member]))
      (fun other member => ended other (by simp [member]))
    have played : timeline.play (entry :: rest) =
        ((timeline.advanceTo entry.1).obey entry.2).play rest := rfl
    rw [played, goesOn, done, same]
    cases own : party.owns entry.2.act with
    | true =>
      rw [List.filter_cons_of_pos (by simpa using own), if_pos rfl]
      rfl
    | false =>
      rw [List.filter_cons_of_neg (by simp [own]), if_neg (by simp)]
      -- All that is left of another's instruction is that the clock stopped at its time.
      apply play_advanceTo divided.part
      · intro other member
        exact above other (List.mem_filter.mp member).1
      · exact ended entry (by simp)

theorem Divided.playTo (divided : timeline.Divided party) {script : Script}
    (ordered : script.Pairwise fun first second => first.1 ≤ second.1)
    (admitted : ∀ entry ∈ script, party.admits entry.2.act = true) (time : Nat) :
    (timeline.playTo script time).part party =
      (timeline.part party).playTo (script.filter (party.owns ·.2.act)) time := by
  rw [Timeline.playTo, Timeline.playTo, List.filter_filter]
  have both : (script.filter fun entry => decide (entry.1 ≤ time) && party.owns entry.2.act) =
      (script.filter (·.1 ≤ time)).filter (party.owns ·.2.act) := by
    rw [List.filter_filter]
    simp only [Bool.and_comm]
  rw [both]
  apply divided.play
  · exact ordered.sublist List.filter_sublist
  · intro entry member
    exact admitted entry (List.mem_filter.mp member).1
  · intro entry member
    simpa using (List.mem_filter.mp member).2

end Timeline

namespace Party

/-- The instructions of a script come in the order of their times. Those for sessions of the party
are about its records and have its numbers, and the others are about other records. -/
structure Permits (party : Party) (script : Script) : Prop where
  ordered : script.Pairwise fun first second => first.1 ≤ second.1
  admitted : ∀ entry ∈ script, party.admits entry.2.act = true

/-- The party's own instructions. -/
def own (party : Party) (script : Script) : Script := script.filter (party.owns ·.2.act)

/-- How the calls of the party have ended. -/
def endings (party : Party) (timeline : Timeline) : List (CallId × Ending) :=
  timeline.endings.filter (party.calls ·.1)

end Party

/-- Take sessions from which the others hold no record and which hold none of theirs, while no
call is pending. In whatever way the others' acts are interleaved with their own, what they do and
how they are answered depends on their own acts alone. By the clock it depends on the times at
which their own calls are issued and cancelled alone, whatever calls of the others take up time or
are cancelled: at all times their calls have ended alike, and so have the stored books, the locks,
the copies and the records of what happened. -/
theorem disjoint_sessions_do_not_interfere (books : List Book) (history : List Act)
    (few : Act.openings history ≤ 2 ^ 64) (party : Party)
    (quiet : ((Manager.start (.ofBooks books)).run history).calls = ∅)
    (disjoint : ∀ resource owner,
      ((Manager.start (.ofBooks books)).run history).locks.holder resource = some owner →
      party.records resource = party.sessions owner) :
    let manager := (Manager.start (.ofBooks books)).run history
    (∀ first second : List Act,
      (∀ act ∈ first, party.admits act = true) → (∀ act ∈ second, party.admits act = true) →
      first.filter party.owns = second.filter party.owns →
      party.Alike (manager.run first) (manager.run second) ∧
        party.replies manager first = party.replies manager second) ∧
    (∀ (latency : Latency) (now : Nat) (endings : List (CallId × Ending))
      (first second : Script), party.Permits first → party.Permits second →
      party.own first = party.own second → ∀ time,
      let timeline := Timeline.mk latency now manager ∅ [] endings
      party.Alike (timeline.playTo first time).manager (timeline.playTo second time).manager ∧
        party.endings (timeline.playTo first time) =
          party.endings (timeline.playTo second time)) := by
  intro manager
  have sound : manager.Sound := (Manager.sound_run _ history few).1
  have none_pending : ∀ id call, manager.calls.get? id ≠ some call := by
    intro id call found
    rw [quiet] at found
    cases found
  have separated : manager.Separated party :=
    ⟨sound, Manager.identified_run books history few,
      fun id call found => absurd found (none_pending id call),
      fun id call _ found => absurd found (none_pending id call), disjoint⟩
  constructor
  · intro first second one two same
    obtain ⟨here, told⟩ := separated.run first one
    obtain ⟨there, answered⟩ := separated.run second two
    rw [same] at here told
    exact ⟨Manager.alike_of_part (here.trans there.symm), told.trans answered.symm⟩
  · intro latency now endings first second one two same time timeline
    have rest : timeline.AtRest := by
      refine ⟨⟨sound, rfl, ?_, ?_, List.nodup_nil⟩, ?_, Timeline.ready?_of_quiet quiet⟩
      · intro timer member
        cases member
      · intro timer member
        cases member
      · intro id call found
        exact absurd found (none_pending id call)
    have divided : timeline.Divided party := ⟨rest, separated⟩
    have parts : (timeline.playTo first time).part party =
        (timeline.playTo second time).part party := by
      have own : first.filter (party.owns ·.2.act) = second.filter (party.owns ·.2.act) := same
      rw [divided.playTo one.ordered one.admitted, divided.playTo two.ordered two.admitted, own]
    have managers : (timeline.playTo first time).manager.part party =
        (timeline.playTo second time).manager.part party := congrArg Timeline.manager parts
    exact ⟨Manager.alike_of_part managers, congrArg Timeline.endings parts⟩

/-- Two sessions have been opened. -/
def annAndBob : List Act := [.enter "ann", .enlist ⟨0⟩, .enter "bob", .enlist ⟨1⟩]

/-- One session works on the seventh record, with even call numbers. -/
def annAlone : Party := ⟨fun session => session == ⟨0⟩, fun id => id % 2 == 0, fun id => id == 7⟩

/-- A record is checked out, edited and committed. -/
def checkoutAndCommit : Script :=
  [(0, .spawn 0 ⟨0⟩ (.checkout 7)), (5, .spawn 2 ⟨0⟩ (.edit 7 .title "new")),
    (5, .spawn 4 ⟨0⟩ (.commit 7))]

/-- Another session writes another record meanwhile, and a read of it is cancelled. -/
def besideWrite : Script :=
  [(0, .spawn 1 ⟨1⟩ (.write 8 .title "other")), (0, .spawn 0 ⟨0⟩ (.checkout 7)),
    (1, .spawn 3 ⟨1⟩ (.read 8 .title)), (5, .spawn 2 ⟨0⟩ (.edit 7 .title "new")),
    (5, .cancel 3), (5, .spawn 4 ⟨0⟩ (.commit 7)), (6, .spawn 5 ⟨1⟩ .removeSession)]

theorem disjoint_sessions_do_not_interfere_of_besideWrite :
    Act.openings annAndBob ≤ 2 ^ 64 ∧
      ((Manager.start (.ofBooks [.titled 7 "old", .titled 8 "else"])).run annAndBob).calls = ∅ ∧
      annAlone.Permits checkoutAndCommit ∧ annAlone.Permits besideWrite ∧
      annAlone.own checkoutAndCommit = annAlone.own besideWrite ∧
      annAlone.endings ((Timeline.mk ⟨4, 3, 2, 1⟩ 0
        ((Manager.start (.ofBooks [.titled 7 "old", .titled 8 "else"])).run annAndBob) ∅ []
        []).playTo besideWrite 9) =
          [(0, .answered (.ok (.book (.titled 7 "old")))),
            (2, .answered (.ok (.book (.titled 7 "new")))),
            (4, .answered (.ok (.book (.titled 7 "new"))))] := by
  have few : Act.openings annAndBob ≤ 2 ^ 64 := by decide
  have quiet : ((Manager.start (.ofBooks [.titled 7 "old", .titled 8 "else"])).run
      annAndBob).calls = ∅ := by decide
  have disjoint : ∀ resource owner,
      ((Manager.start (.ofBooks [.titled 7 "old", .titled 8 "else"])).run
        annAndBob).locks.holder resource = some owner →
      annAlone.records resource = annAlone.sessions owner := by
    intro resource owner held
    cases held
  have alone : annAlone.Permits checkoutAndCommit := ⟨by decide, by decide⟩
  have beside : annAlone.Permits besideWrite := ⟨by decide, by decide⟩
  have same : annAlone.own checkoutAndCommit = annAlone.own besideWrite := by decide
  have both := (disjoint_sessions_do_not_interfere [.titled 7 "old", .titled 8 "else"] annAndBob
    few annAlone quiet disjoint).2 ⟨4, 3, 2, 1⟩ 0 [] checkoutAndCommit besideWrite alone beside
    same 9
  exact ⟨few, quiet, alone, beside, same, both.2.symm.trans rfl⟩

end RecordLocks
