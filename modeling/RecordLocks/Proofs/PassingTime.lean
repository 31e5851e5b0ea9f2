import Mathlib.Algebra.Order.BigOperators.Group.List
import Mathlib.Algebra.Order.Group.Nat
import Mathlib.Data.List.Nodup
import RecordLocks.Proofs.Draining
import RecordLocks.Proofs.TakingTurns
namespace RecordLocks

/-- Whether a call can be run before time passes: it stands in the line of its session. -/
def Phase.turnsLeft (phase : Phase) : Nat := min 1 (phase.stepsLeft - 3)

/-- How often a call can wait for time to pass. -/
def Phase.waitsLeft (phase : Phase) : Nat := min 3 phase.stepsLeft

namespace Manager

/-- The weight of a call by its phase; a call that has ended weighs nothing. -/
def weigh (manager : Manager) (weight : Phase → Nat) (id : CallId) : Nat :=
  ((manager.calls.get? id).map (weight ·.phase)).getD 0

def total (manager : Manager) (weight : Phase → Nat) (ids : List CallId) : Nat :=
  (ids.map (manager.weigh weight)).sum

theorem weigh_of_found {manager : Manager} {id : CallId} {call : Call} (weight : Phase → Nat)
    (found : manager.calls.get? id = some call) :
    manager.weigh weight id = weight call.phase := by
  simp [weigh, found]

theorem total_le (manager : Manager) {weight : Phase → Nat} {bound : Nat}
    (bounded : ∀ phase, weight phase ≤ bound) (ids : List CallId) :
    manager.total weight ids ≤ bound * ids.length := by
  have most := List.sum_le_card_nsmul (ids.map (manager.weigh weight)) bound (by
    intro amount member
    obtain ⟨id, -, rfl⟩ := List.mem_map.mp member
    cases found : manager.calls.get? id with
    | none => simp [weigh, found]
    | some call =>
      rw [weigh_of_found weight found]
      exact bounded call.phase)
  rw [List.length_map, Nat.nsmul_eq_mul, Nat.mul_comm] at most
  exact most

end Manager

namespace Timeline

variable {timeline after : Timeline} {id : CallId} {session : SessionId} {request : Request}
  {phase : Phase} {ids : List CallId} {deadline target : Nat}

/-- Timers are set for calls that work on their record, one for each at most. -/
structure Regular (timeline : Timeline) : Prop where
  sound : timeline.manager.Sound
  errands : timeline.errands = ∅
  ahead : ∀ timer ∈ timeline.timers, timeline.now ≤ timer.deadline
  working : ∀ timer ∈ timeline.timers, ∃ call,
    timeline.manager.calls.get? timer.id = some call ∧ call.phase.window?.isSome
  nodup : (timeline.timers.map (·.id)).Nodup

/-- Every call stands in the line of its session. -/
def Arrived (timeline : Timeline) : Prop :=
  ∀ id call, timeline.manager.calls.get? id = some call → call.phase ≠ .arriving

/-- Nothing can go on before time passes. -/
structure AtRest (timeline : Timeline) : Prop where
  regular : timeline.Regular
  arrived : timeline.Arrived
  unready : timeline.ready? = none

/-- A call has been run, and nothing has happened to the others. -/
structure Ran (id : CallId) (before after : Timeline) : Prop where
  latency : after.latency = before.latency
  now : after.now = before.now
  errands : after.errands = before.errands
  sound : after.manager.Sound
  others : ∀ other, other ≠ id →
    after.manager.calls.get? other = before.manager.calls.get? other
  timers : after.timers = before.timers ∨ ∃ deadline, before.now ≤ deadline ∧
    after.timers = before.timers ++ [⟨id, deadline⟩] ∧
    ∃ call, after.manager.calls.get? id = some call ∧ call.phase.window?.isSome

theorem ran_run (sound : timeline.manager.Sound) (steps : Nat) (id : CallId) :
    Ran id timeline (timeline.run steps id) := by
  induction steps generalizing timeline with
  | zero => exact ⟨rfl, rfl, rfl, sound, fun _ _ => rfl, .inl rfl⟩
  | succ steps ih =>
    have resumed : (timeline.manager.resume id).2.Sound := by
      cases found : timeline.manager.calls.get? id with
      | none =>
        rw [Manager.resume_of_none found]
        exact sound
      | some call => exact sound.resume found
    have others : ∀ other, other ≠ id → (timeline.manager.resume id).2.calls.get? other =
        timeline.manager.calls.get? other :=
      fun other different => Manager.calls_resume_other sound different
    rw [run]
    split
    · rename_i outcome manager same
      rw [same] at resumed others
      exact ⟨rfl, rfl, rfl, resumed, others, .inl rfl⟩
    · rename_i manager same
      rw [same] at resumed others
      have stopped : Ran id timeline (timeline.withManager manager) :=
        ⟨rfl, rfl, rfl, resumed, others, .inl rfl⟩
      cases found : manager.calls.get? id with
      | none => exact stopped
      | some call =>
        simp only
        split
        · rename_i late
          refine ⟨rfl, rfl, rfl, resumed, others, .inr ⟨_, ?_, rfl, call, found, ?_⟩⟩
          · exact Nat.le_add_right _ _
          · cases phase : call.phase with
            | arriving | waiting => simp [phase, Latency.ofPhase] at late
            | loading | writing | reading | storing => rfl
        · split
          · exact stopped
          · have rest : Ran id (timeline.withManager manager)
                ((timeline.withManager manager).run steps id) := ih resumed
            exact ⟨rest.latency, rest.now, rest.errands, rest.sound,
              fun other different => (rest.others other different).trans (others other different),
              rest.timers⟩

/-- A call whose turn it is comes nearer to its end. -/
theorem run_goes_on (sound : timeline.manager.Sound)
    (found : timeline.manager.calls.get? id = some ⟨session, request, phase⟩)
    (turn : phase = .waiting → ∃ seat, timeline.manager.seats.get? session = some seat ∧
      seat.line.head? = some id)
    (steps : Nat) {call : Call}
    (there : (timeline.run steps id).manager.calls.get? id = some call) :
    call.phase.stepsLeft ≤ phase.stepsLeft ∧
      (0 < steps → call.phase.stepsLeft < phase.stepsLeft) := by
  induction steps generalizing timeline phase with
  | zero =>
    rw [run, found] at there
    cases there
    exact ⟨Nat.le_refl _, fun some_step => absurd some_step (Nat.lt_irrefl 0)⟩
  | succ steps ih =>
    have nearer : call.phase.stepsLeft < phase.stepsLeft := by
      have resumed : (timeline.manager.resume id).2.Sound := sound.resume found
      rw [run] at there
      rcases Manager.resume_goes_on sound found turn with
        ⟨outcome, answers, gone⟩ | ⟨next, waits, stays, fewer⟩
      · have same : timeline.manager.resume id =
            (some outcome, (timeline.manager.resume id).2) := by rw [← answers]
        rw [same] at there
        have still : (timeline.manager.resume id).2.calls.get? id = some call := there
        rw [gone] at still
        cases still
      · have same : timeline.manager.resume id =
            (none, (timeline.manager.resume id).2) := by rw [← waits]
        rw [same] at there
        simp only [stays] at there
        have stopped : (timeline.manager.resume id).2.calls.get? id = some call →
            call.phase.stepsLeft < phase.stepsLeft := by
          intro still
          rw [stays] at still
          cases still
          exact fewer
        split at there
        · exact stopped there
        · split at there
          · exact stopped there
          · rename_i goes
            have again : next = .waiting → ∃ seat,
                (timeline.manager.resume id).2.seats.get? session = some seat ∧
                  seat.line.head? = some id := by
              rintro rfl
              have ready : (timeline.manager.resume id).2.isReady id = true := by simpa using goes
              simp only [Manager.isReady, stays] at ready
              obtain ⟨seat, seated, served⟩ := (Option.any_eq_true _ _).mp ready
              exact ⟨seat, seated, by simpa [Manager.isServed] using served⟩
            have later : call.phase.stepsLeft ≤ next.stepsLeft := (ih resumed stays again there).1
            exact Nat.lt_of_le_of_lt later fewer
    exact ⟨Nat.le_of_lt nearer, fun _ => nearer⟩

/-- A call that is ready has its session for itself. -/
theorem ready_cases (arrived : timeline.Arrived) (ready : timeline.ready? = some id) :
    ∃ session request seat,
      timeline.manager.calls.get? id = some ⟨session, request, .waiting⟩ ∧
      timeline.manager.seats.get? session = some seat ∧ seat.line.head? = some id := by
  have goes : timeline.manager.isReady id = true := List.find?_some ready
  simp only [Manager.isReady] at goes
  split at goes
  · cases goes
  · rename_i call found
    obtain ⟨session, request, phase⟩ := call
    cases phase with
    | arriving => exact absurd rfl (arrived id _ found)
    | waiting =>
      obtain ⟨seat, seated, served⟩ := (Option.any_eq_true _ _).mp goes
      exact ⟨session, request, seat, found, seated, by simpa [Manager.isServed] using served⟩
    | loading | writing | reading | storing => cases goes

theorem Regular.runCall (regular : timeline.Regular)
    (untimed : ∀ timer ∈ timeline.timers, timer.id ≠ id) : (timeline.runCall id).Regular := by
  have ran := ran_run regular.sound callSteps id
  have kept : ∀ timer ∈ timeline.timers, ∃ call,
      (timeline.run callSteps id).manager.calls.get? timer.id = some call ∧
        call.phase.window?.isSome := by
    intro timer member
    rw [ran.others timer.id (untimed timer member)]
    exact regular.working timer member
  refine ⟨ran.sound, ran.errands.trans regular.errands, ?_, ?_, ?_⟩
  · rw [Timeline.runCall, ran.now]
    rcases ran.timers with same | ⟨deadline, later, more, -⟩
    · rw [same]
      exact regular.ahead
    · rw [more]
      intro timer member
      rcases List.mem_append.mp member with early | last
      · exact regular.ahead timer early
      · rw [List.mem_singleton.mp last]
        exact later
  · rw [Timeline.runCall]
    rcases ran.timers with same | ⟨deadline, -, more, working⟩
    · rw [same]
      exact kept
    · rw [more]
      intro timer member
      rcases List.mem_append.mp member with early | last
      · exact kept timer early
      · rw [List.mem_singleton.mp last]
        exact working
  · rw [Timeline.runCall]
    rcases ran.timers with same | ⟨deadline, -, more, -⟩
    · rw [same]
      exact regular.nodup
    · rw [more, List.map_append, List.nodup_append]
      refine ⟨regular.nodup, by simp, ?_⟩
      intro first early last here
      obtain ⟨timer, member, rfl⟩ := List.mem_map.mp early
      rw [List.mem_singleton.mp here]
      exact untimed timer member

/-- The call that is to be run stands in the line of its session, at the head if it waits. -/
structure Turn (timeline : Timeline) (id : CallId) (call : Call) : Prop where
  found : timeline.manager.calls.get? id = some call
  head : call.phase = .waiting → ∃ seat, timeline.manager.seats.get? call.session = some seat ∧
    seat.line.head? = some id

section

variable {call : Call} {weight : Phase → Nat}

theorem Turn.nearer (turn : timeline.Turn id call) (sound : timeline.manager.Sound)
    {later : Call} (there : (timeline.runCall id).manager.calls.get? id = some later) :
    later.phase.stepsLeft < call.phase.stepsLeft :=
  (run_goes_on sound turn.found turn.head callSteps there).2 (by decide)

theorem Turn.arrived (turn : timeline.Turn id call) (sound : timeline.manager.Sound)
    (others : ∀ other there, other ≠ id → timeline.manager.calls.get? other = some there →
      there.phase ≠ .arriving) : (timeline.runCall id).Arrived := by
  intro other there found
  by_cases same : other = id
  · subst same
    have fewer := turn.nearer sound found
    intro arriving
    rw [arriving] at fewer
    cases phase : call.phase <;> simp [phase, Phase.stepsLeft] at fewer
  · rw [runCall, (ran_run sound callSteps id).others other same] at found
    exact others other there same found

theorem Turn.weigh_le (turn : timeline.Turn id call) (sound : timeline.manager.Sound)
    (monotone : ∀ early late : Phase, early.stepsLeft ≤ late.stepsLeft →
      weight early ≤ weight late) (other : CallId) :
    (timeline.runCall id).manager.weigh weight other ≤ timeline.manager.weigh weight other := by
  by_cases same : other = id
  · subst same
    rw [Manager.weigh_of_found weight turn.found]
    cases there : (timeline.runCall other).manager.calls.get? other with
    | none => simp [Manager.weigh, there]
    | some later =>
      rw [Manager.weigh_of_found weight there]
      exact monotone _ _ (Nat.le_of_lt (turn.nearer sound there))
  · rw [Manager.weigh, runCall, (ran_run sound callSteps id).others other same]
    exact Nat.le_refl _

theorem Turn.weigh_lt (turn : timeline.Turn id call) (sound : timeline.manager.Sound)
    (some_weight : 0 < weight call.phase)
    (lighter : ∀ later : Phase, later.stepsLeft < call.phase.stepsLeft →
      weight later < weight call.phase) :
    (timeline.runCall id).manager.weigh weight id < timeline.manager.weigh weight id := by
  rw [Manager.weigh_of_found weight turn.found]
  cases there : (timeline.runCall id).manager.calls.get? id with
  | none => simpa [Manager.weigh, there] using some_weight
  | some later =>
    rw [Manager.weigh_of_found weight there]
    exact lighter _ (turn.nearer sound there)

theorem Turn.within (turn : timeline.Turn id call) (sound : timeline.manager.Sound)
    (within : ∀ other, timeline.manager.calls.contains other = true → other ∈ ids)
    (other : CallId) (pending : (timeline.runCall id).manager.calls.contains other = true) :
    other ∈ ids := by
  apply within
  by_cases same : other = id
  · rw [same, Index.contains, turn.found]
    rfl
  · rw [Index.contains, runCall, (ran_run sound callSteps id).others other same] at pending
    exact pending

end

theorem ready_turn (arrived : timeline.Arrived) (ready : timeline.ready? = some id) :
    ∃ session request, timeline.Turn id ⟨session, request, .waiting⟩ := by
  obtain ⟨session, request, seat, found, seated, head⟩ := ready_cases arrived ready
  exact ⟨session, request, found, fun _ => ⟨seat, seated, head⟩⟩

theorem Regular.untimed (regular : timeline.Regular) {call : Call}
    (found : timeline.manager.calls.get? id = some call) (outside : call.phase.window? = none) :
    ∀ timer ∈ timeline.timers, timer.id ≠ id := by
  rintro timer member rfl
  obtain ⟨there, same, opened⟩ := regular.working timer member
  rw [found] at same
  cases same
  rw [outside] at opened
  cases opened

/-- One more of the calls that can be run has been run. -/
structure Settling (ids : List CallId) (before after : Timeline) : Prop where
  regular : after.Regular
  arrived : after.Arrived
  within : ∀ id, after.manager.calls.contains id = true → id ∈ ids
  fewer : after.manager.total Phase.turnsLeft ids < before.manager.total Phase.turnsLeft ids
  waits : after.manager.total Phase.waitsLeft ids ≤ before.manager.total Phase.waitsLeft ids
  now : after.now = before.now

theorem Regular.settling (regular : timeline.Regular) (arrived : timeline.Arrived)
    (within : ∀ id, timeline.manager.calls.contains id = true → id ∈ ids)
    (ready : timeline.ready? = some id) : Settling ids timeline (timeline.runCall id) := by
  obtain ⟨session, request, turn⟩ := ready_turn arrived ready
  have sound := regular.sound
  refine ⟨regular.runCall (regular.untimed turn.found rfl),
    turn.arrived sound fun other there _ => arrived other there, turn.within sound within,
    ?_, ?_, (ran_run sound callSteps id).now⟩
  · have lighter : (timeline.runCall id).manager.weigh Phase.turnsLeft id <
        timeline.manager.weigh Phase.turnsLeft id := by
      apply turn.weigh_lt sound (by simp [Phase.turnsLeft, Phase.stepsLeft])
      intro later nearer
      simp only [Phase.stepsLeft] at nearer
      simp only [Phase.turnsLeft, Phase.stepsLeft]
      omega
    apply List.sum_lt_sum
    · intro other member
      apply turn.weigh_le sound
      intro early late nearer
      simp only [Phase.turnsLeft]
      omega
    · exact ⟨id, within id (by rw [Index.contains, turn.found]; rfl), lighter⟩
  · apply List.sum_le_sum
    intro other member
    apply turn.weigh_le sound
    intro early late nearer
    simp only [Phase.waitsLeft]
    omega

theorem settleWithin_unready (rounds : Nat) (regular : timeline.Regular)
    (arrived : timeline.Arrived)
    (within : ∀ id, timeline.manager.calls.contains id = true → id ∈ ids)
    (enough : timeline.manager.total Phase.turnsLeft ids < rounds) :
    (timeline.settleWithin rounds).ready? = none := by
  induction rounds generalizing timeline with
  | zero => exact absurd enough (Nat.not_lt_zero _)
  | succ rounds ih =>
    rw [settleWithin]
    cases ready : timeline.ready? with
    | none => exact ready
    | some id =>
      have settling := regular.settling arrived within ready
      have fewer := settling.fewer
      exact ih settling.regular settling.arrived settling.within (by omega)

/-- Once every call waits, more rounds change nothing. -/
theorem settleWithin_of_unready {few many : Nat} (le : few ≤ many)
    (unready : (timeline.settleWithin few).ready? = none) :
    timeline.settleWithin many = timeline.settleWithin few := by
  induction few generalizing timeline many with
  | zero =>
    rw [settleWithin] at unready ⊢
    cases many with
    | zero => rfl
    | succ many => rw [settleWithin, unready]
  | succ few ih =>
    obtain ⟨more, rfl⟩ : ∃ more, many = more + 1 := ⟨many - 1, by omega⟩
    rw [settleWithin] at unready ⊢
    rw [settleWithin]
    cases ready : timeline.ready? with
    | none => rfl
    | some id =>
      rw [ready] at unready
      exact ih (by omega) unready

theorem turns_le (timeline : Timeline) :
    timeline.manager.total Phase.turnsLeft timeline.manager.calls.keys ≤
      timeline.manager.calls.size := by
  have bounded : ∀ phase : Phase, phase.turnsLeft ≤ 1 := fun phase => Nat.min_le_left _ _
  have most := timeline.manager.total_le bounded timeline.manager.calls.keys
  rw [Index.keys, List.length_map] at most
  exact Nat.le_trans most (Nat.le_of_eq (Nat.one_mul _))

/-- Settling goes on from the call that is run first. -/
theorem settle_of_ready (regular : timeline.Regular) (arrived : timeline.Arrived)
    (ready : timeline.ready? = some id) : timeline.settle = (timeline.runCall id).settle := by
  have settling := regular.settling arrived (fun _ => Index.mem_keys.mpr) ready
  have fewer := settling.fewer
  have most := timeline.turns_le
  have enough := (timeline.runCall id).turns_le
  have here := settleWithin_unready timeline.manager.calls.size settling.regular
    settling.arrived settling.within (by omega)
  have there := settleWithin_unready ((timeline.runCall id).manager.calls.size + 1)
    settling.regular settling.arrived (fun _ => Index.mem_keys.mpr) (by omega)
  rw [settle, settleWithin, ready, settle]
  simp only
  rcases Nat.le_total timeline.manager.calls.size
      ((timeline.runCall id).manager.calls.size + 1) with le | ge
  · exact (settleWithin_of_unready le here).symm
  · exact settleWithin_of_unready ge there

/-- What holds at rest, and before a call is run after which it holds, holds always. -/
theorem settle_induction {motive : Timeline → Prop}
    (atRest : ∀ timeline : Timeline, timeline.AtRest → motive timeline)
    (running : ∀ (timeline : Timeline) id, timeline.Regular → timeline.Arrived →
      timeline.ready? = some id → motive (timeline.runCall id) → motive timeline)
    (regular : timeline.Regular) (arrived : timeline.Arrived) : motive timeline := by
  generalize left : timeline.manager.total Phase.turnsLeft timeline.manager.calls.keys = rounds
  have within : ∀ id, timeline.manager.calls.contains id = true →
      id ∈ timeline.manager.calls.keys := fun _ => Index.mem_keys.mpr
  generalize timeline.manager.calls.keys = ids at left within
  induction rounds using Nat.strong_induction_on generalizing timeline with
  | _ rounds ih =>
    cases ready : timeline.ready? with
    | none => exact atRest timeline ⟨regular, arrived, ready⟩
    | some id =>
      have settling := regular.settling arrived within ready
      exact running timeline id regular arrived ready (ih _ (left ▸ settling.fewer)
        settling.regular settling.arrived rfl settling.within)

/-- What can still happen to the calls has become less, or at most as it was. -/
structure Worn (ids : List CallId) (used : Nat) (before after : Timeline) : Prop where
  regular : after.Regular
  arrived : after.Arrived
  within : ∀ id, after.manager.calls.contains id = true → id ∈ ids
  waits : after.manager.total Phase.waitsLeft ids + used ≤
    before.manager.total Phase.waitsLeft ids
  now : after.now = before.now

theorem settle_worn (regular : timeline.Regular) (arrived : timeline.Arrived)
    (within : ∀ id, timeline.manager.calls.contains id = true → id ∈ ids) :
    Worn ids 0 timeline timeline.settle ∧ timeline.settle.AtRest := by
  revert within
  refine settle_induction (motive := fun timeline =>
    (∀ id, timeline.manager.calls.contains id = true → id ∈ ids) →
      Worn ids 0 timeline timeline.settle ∧ timeline.settle.AtRest) ?_ ?_ regular arrived
  · intro timeline rest within
    rw [settle_of_not_ready rest.unready]
    exact ⟨⟨rest.regular, rest.arrived, within, Nat.le_refl _, rfl⟩, rest⟩
  · intro timeline id regular arrived ready later within
    have settling := regular.settling arrived within ready
    obtain ⟨worn, rest⟩ := later settling.within
    rw [settle_of_ready regular arrived ready]
    exact ⟨⟨worn.regular, worn.arrived, worn.within, Nat.le_trans worn.waits settling.waits,
      worn.now.trans settling.now⟩, rest⟩

def wakeAll (timeline : Timeline) (due : List Timer) : Timeline :=
  due.foldl (fun timeline timer => timeline.wake timer.id) timeline

theorem wake_eq (regular : timeline.Regular) (id : CallId) :
    timeline.wake id = timeline.runCall id := by
  rw [wake, regular.errands]
  rfl

/-- The calls of the timers work on their records, and no other timers are set for them. -/
structure Due (timeline : Timeline) (due : List Timer) : Prop where
  nodup : (due.map (·.id)).Nodup
  untimed : ∀ timer ∈ due, ∀ other ∈ timeline.timers, other.id ≠ timer.id
  working : ∀ timer ∈ due, ∃ call, timeline.manager.calls.get? timer.id = some call ∧
    call.phase.window?.isSome

theorem Due.turn {timer : Timer} {rest : List Timer} (due : timeline.Due (timer :: rest)) :
    ∃ call, timeline.Turn timer.id call ∧ call.phase.stepsLeft ≤ 3 := by
  obtain ⟨call, found, opened⟩ := due.working timer (by simp)
  cases phase : call.phase with
  | arriving | waiting =>
    rw [phase] at opened
    cases opened
  | loading | writing | reading | storing =>
    refine ⟨call, ⟨found, ?_⟩, by simp [phase, Phase.stepsLeft]⟩
    intro waits
    rw [phase] at waits
    cases waits

theorem Due.later {timer : Timer} {rest : List Timer} (due : timeline.Due (timer :: rest))
    (sound : timeline.manager.Sound) : (timeline.runCall timer.id).Due rest := by
  have ran := ran_run sound callSteps timer.id
  obtain ⟨outside, nodup⟩ := List.nodup_cons.mp due.nodup
  have different : ∀ other ∈ rest, other.id ≠ timer.id := by
    intro other member same
    exact outside (List.mem_map.mpr ⟨other, member, same⟩)
  refine ⟨nodup, ?_, ?_⟩
  · intro other member set early
    rw [runCall] at early
    have before : set ∈ timeline.timers → set.id ≠ other.id :=
      due.untimed other (List.mem_cons_of_mem _ member) set
    rcases ran.timers with same | ⟨deadline, -, more, -⟩
    · exact before (same ▸ early)
    · rw [more] at early
      rcases List.mem_append.mp early with old | new
      · exact before old
      · rw [List.mem_singleton.mp new]
        exact (different other member).symm
  · intro other member
    rw [runCall, ran.others other.id (different other member)]
    exact due.working other (List.mem_cons_of_mem _ member)

/-- Each call that is woken can wait less often from then on. -/
theorem Due.worn {due : List Timer} (called : timeline.Due due) (regular : timeline.Regular)
    (arrived : timeline.Arrived)
    (within : ∀ id, timeline.manager.calls.contains id = true → id ∈ ids) :
    Worn ids due.length timeline (timeline.wakeAll due) := by
  induction due generalizing timeline with
  | nil => exact ⟨regular, arrived, within, Nat.le_refl _, rfl⟩
  | cons timer rest ih =>
    obtain ⟨call, turn, few⟩ := called.turn
    have sound := regular.sound
    have lighter : (timeline.runCall timer.id).manager.total Phase.waitsLeft ids <
        timeline.manager.total Phase.waitsLeft ids := by
      apply List.sum_lt_sum
      · intro other member
        apply turn.weigh_le sound
        intro early late nearer
        simp only [Phase.waitsLeft]
        omega
      · refine ⟨timer.id, within _ (by rw [Index.contains, turn.found]; rfl), ?_⟩
        have some_step := call.phase.stepsLeft_pos
        apply turn.weigh_lt sound
        · simp only [Phase.waitsLeft]
          omega
        · intro later nearer
          simp only [Phase.waitsLeft]
          omega
    have ran := ran_run sound callSteps timer.id
    have untimed : ∀ other ∈ timeline.timers, other.id ≠ timer.id :=
      called.untimed timer (by simp)
    have worn := ih (called.later sound) (regular.runCall untimed)
      (turn.arrived sound fun other there _ => arrived other there) (turn.within sound within)
    have waits := worn.waits
    rw [wakeAll, List.foldl_cons, wake_eq regular]
    refine ⟨worn.regular, worn.arrived, worn.within, ?_, worn.now.trans ran.now⟩
    rw [List.length_cons]
    rw [wakeAll] at waits
    omega

/-- The timers that are due at a deadline. -/
def due (timeline : Timeline) (deadline : Nat) : List Timer :=
  timeline.timers.filter (·.deadline ≤ deadline)

/-- The clock shows the deadline, and nobody has noticed yet. -/
def struck (timeline : Timeline) (deadline : Nat) : Timeline :=
  { timeline with
    now := deadline
    timers := timeline.timers.filter fun timer => !decide (timer.deadline ≤ deadline) }

theorem moveTo_eq (timeline : Timeline) (deadline : Nat) :
    timeline.moveTo deadline =
      ((timeline.struck deadline).wakeAll (timeline.due deadline)).settle := by
  rw [moveTo, List.partition_eq_filter_filter]
  rfl

theorem Regular.struck (regular : timeline.Regular) (deadline : Nat) :
    (timeline.struck deadline).Regular := by
  refine ⟨regular.sound, regular.errands, ?_, ?_, ?_⟩
  · intro timer member
    have later := (List.mem_filter.mp member).2
    simp only [Bool.not_eq_true', decide_eq_false_iff_not, Nat.not_le] at later
    exact Nat.le_of_lt later
  · intro timer member
    exact regular.working timer (List.mem_filter.mp member).1
  · exact regular.nodup.sublist (List.filter_sublist.map _)

theorem Regular.due (regular : timeline.Regular) (deadline : Nat) :
    (timeline.struck deadline).Due (timeline.due deadline) := by
  refine ⟨regular.nodup.sublist (List.filter_sublist.map _), ?_, ?_⟩
  · intro timer early other late same
    obtain ⟨inside, now⟩ := List.mem_filter.mp early
    obtain ⟨among, later⟩ := List.mem_filter.mp late
    have equal : other = timer := List.inj_on_of_nodup_map regular.nodup among inside same
    rw [equal] at later
    simp [now] at later
  · intro timer member
    exact regular.working timer (List.mem_filter.mp member).1

theorem AtRest.moveTo (rest : timeline.AtRest) (deadline : Nat)
    (within : ∀ id, timeline.manager.calls.contains id = true → id ∈ ids) :
    Worn ids (timeline.due deadline).length (timeline.struck deadline)
      (timeline.moveTo deadline) ∧ (timeline.moveTo deadline).AtRest := by
  have worn := (rest.regular.due deadline).worn (rest.regular.struck deadline) rest.arrived within
  obtain ⟨settled, last⟩ := settle_worn worn.regular worn.arrived worn.within
  rw [moveTo_eq]
  refine ⟨⟨settled.regular, settled.arrived, settled.within, ?_, settled.now.trans worn.now⟩,
    last⟩
  have first := worn.waits
  have second := settled.waits
  omega

/-- No call wakes up to this time. -/
def SleepsTo (timeline : Timeline) (target : Nat) : Prop :=
  ∀ deadline, timeline.nextDeadline? = some deadline → target < deadline

theorem sleepsTo_iff :
    timeline.SleepsTo target ↔ ∀ timer ∈ timeline.timers, target < timer.deadline := by
  constructor
  · intro sleeps timer member
    have among : timer.deadline ∈ timeline.timers.map (·.deadline) := List.mem_map_of_mem member
    cases next : timeline.nextDeadline? with
    | none =>
      rw [List.min?_eq_none_iff.mp next] at among
      cases among
    | some deadline =>
      have first := (List.min?_eq_some_iff.mp next).2 timer.deadline among
      exact Nat.lt_of_lt_of_le (sleeps deadline next) first
  · intro later deadline next
    obtain ⟨member, -⟩ := List.min?_eq_some_iff.mp next
    obtain ⟨timer, inside, rfl⟩ := List.mem_map.mp member
    exact later timer inside

theorem due_ne_nil (next : timeline.nextDeadline? = some deadline) :
    0 < (timeline.due deadline).length := by
  obtain ⟨member, -⟩ := List.min?_eq_some_iff.mp next
  obtain ⟨timer, inside, same⟩ := List.mem_map.mp member
  apply List.length_pos_of_mem
  exact List.mem_filter.mpr ⟨inside, by simp [same]⟩

/-- Moving on to the next deadline uses up one of the times that a call can wait. -/
theorem AtRest.waits_moveTo (rest : timeline.AtRest)
    (next : timeline.nextDeadline? = some deadline)
    (within : ∀ id, timeline.manager.calls.contains id = true → id ∈ ids) :
    (timeline.moveTo deadline).manager.total Phase.waitsLeft ids <
      timeline.manager.total Phase.waitsLeft ids := by
  have worn := (rest.moveTo deadline within).1.waits
  have some_due := due_ne_nil next
  have same : (timeline.struck deadline).manager = timeline.manager := rfl
  rw [same] at worn
  omega

theorem advanceWithin_sleeps (rounds : Nat) (rest : timeline.AtRest)
    (within : ∀ id, timeline.manager.calls.contains id = true → id ∈ ids)
    (enough : timeline.manager.total Phase.waitsLeft ids < rounds) :
    (timeline.advanceWithin rounds target).SleepsTo target := by
  induction rounds generalizing timeline with
  | zero => exact absurd enough (Nat.not_lt_zero _)
  | succ rounds ih =>
    rw [advanceWithin]
    cases next : timeline.nextDeadline? with
    | none =>
      intro deadline due
      simp [next] at due
    | some deadline =>
      simp only
      split
      · have fewer := rest.waits_moveTo next within
        have worn := (rest.moveTo deadline within).1
        exact ih (rest.moveTo deadline within).2 worn.within (by omega)
      · rename_i later
        intro other due
        rw [next] at due
        cases due
        omega

/-- Once every call sleeps longer, more rounds change nothing. -/
theorem advanceWithin_of_sleeps {few many : Nat} (le : few ≤ many)
    (sleeps : (timeline.advanceWithin few target).SleepsTo target) :
    timeline.advanceWithin many target = timeline.advanceWithin few target := by
  induction few generalizing timeline many with
  | zero =>
    rw [advanceWithin] at sleeps ⊢
    cases many with
    | zero => rfl
    | succ many =>
      rw [advanceWithin]
      cases next : timeline.nextDeadline? with
      | none => rfl
      | some deadline =>
        have later := sleeps deadline next
        exact if_neg (Nat.not_le.mpr later)
  | succ few ih =>
    obtain ⟨more, rfl⟩ : ∃ more, many = more + 1 := ⟨many - 1, by omega⟩
    rw [advanceWithin] at sleeps ⊢
    rw [advanceWithin]
    cases next : timeline.nextDeadline? with
    | none => rfl
    | some deadline =>
      rw [next] at sleeps
      simp only at sleeps ⊢
      split
      · rename_i soon
        rw [if_pos soon] at sleeps
        exact ih (by omega) sleeps
      · rfl

theorem waits_lt_patience (timeline : Timeline) :
    timeline.manager.total Phase.waitsLeft timeline.manager.calls.keys < timeline.patience := by
  have bounded : ∀ phase : Phase, phase.waitsLeft ≤ 3 := fun phase => Nat.min_le_left _ _
  have most := timeline.manager.total_le bounded timeline.manager.calls.keys
  rw [Index.keys, List.length_map] at most
  rw [patience]
  exact Nat.lt_succ_of_le (Nat.le_trans most (Nat.le_add_right _ _))

/-- What the clock shows before does not matter for what happens later. -/
theorem advanceTo_now (timeline : Timeline) {now : Nat}
    (same : max target now = max target timeline.now) :
    { timeline with now := now }.advanceTo target = timeline.advanceTo target := by
  have patience : { timeline with now := now }.patience = timeline.patience := rfl
  rw [advanceTo, advanceTo, patience]
  cases timeline.patience with
  | zero => simp only [advanceWithin, same]
  | succ rounds =>
    have next : { timeline with now := now }.nextDeadline? = timeline.nextDeadline? := rfl
    have moved : ∀ deadline, { timeline with now := now }.moveTo deadline =
        timeline.moveTo deadline := fun _ => rfl
    simp only [advanceWithin, next, moved]
    cases timeline.nextDeadline? with
    | none => simp only [same]
    | some deadline =>
      simp only
      split
      · rfl
      · simp only [same]

theorem advanceTo_of_sleeps (sleeps : timeline.SleepsTo target) :
    timeline.advanceTo target = { timeline with now := max target timeline.now } := by
  have none_yet : timeline.advanceWithin 0 target = timeline := rfl
  have still : timeline.advanceWithin timeline.patience target = timeline :=
    advanceWithin_of_sleeps (Nat.zero_le _) (none_yet ▸ sleeps)
  rw [advanceTo, still]

theorem advanceTo_of_due (rest : timeline.AtRest)
    (next : timeline.nextDeadline? = some deadline) (soon : deadline ≤ target) :
    timeline.advanceTo target = (timeline.moveTo deadline).advanceTo target := by
  have within : ∀ id, timeline.manager.calls.contains id = true →
      id ∈ timeline.manager.calls.keys := fun _ => Index.mem_keys.mpr
  have later := (rest.moveTo deadline within).2
  have worn := (rest.moveTo deadline within).1
  have fewer := rest.waits_moveTo next within
  have most := timeline.waits_lt_patience
  obtain ⟨rounds, some_patience⟩ : ∃ rounds, timeline.patience = rounds + 1 :=
    ⟨timeline.patience - 1, by omega⟩
  have here : ((timeline.moveTo deadline).advanceWithin rounds target).SleepsTo target :=
    advanceWithin_sleeps rounds later worn.within (by omega)
  have there : ((timeline.moveTo deadline).advanceWithin
      (timeline.moveTo deadline).patience target).SleepsTo target :=
    advanceWithin_sleeps _ later (fun _ => Index.mem_keys.mpr)
      (timeline.moveTo deadline).waits_lt_patience
  have same : (timeline.moveTo deadline).advanceWithin rounds target =
      (timeline.moveTo deadline).advanceWithin (timeline.moveTo deadline).patience target := by
    rcases Nat.le_total rounds (timeline.moveTo deadline).patience with le | ge
    · exact (advanceWithin_of_sleeps le here).symm
    · exact advanceWithin_of_sleeps ge there
  rw [advanceTo, advanceTo, some_patience, advanceWithin, next]
  simp only [soon, if_true, same]

/-- What holds while every call sleeps longer, and before the next deadline if it holds after it,
holds always. -/
theorem advance_induction (target : Nat) {motive : Timeline → Prop}
    (asleep : ∀ timeline : Timeline, timeline.AtRest → timeline.SleepsTo target →
      motive timeline)
    (waking : ∀ (timeline : Timeline) deadline, timeline.AtRest →
      timeline.nextDeadline? = some deadline → deadline ≤ target →
      motive (timeline.moveTo deadline) → motive timeline)
    (rest : timeline.AtRest) : motive timeline := by
  generalize left : timeline.manager.total Phase.waitsLeft timeline.manager.calls.keys = rounds
  have within : ∀ id, timeline.manager.calls.contains id = true →
      id ∈ timeline.manager.calls.keys := fun _ => Index.mem_keys.mpr
  generalize timeline.manager.calls.keys = ids at left within
  induction rounds using Nat.strong_induction_on generalizing timeline with
  | _ rounds ih =>
    by_cases soon : ∃ deadline, timeline.nextDeadline? = some deadline ∧ deadline ≤ target
    · obtain ⟨deadline, next, soon⟩ := soon
      have moved := rest.moveTo deadline within
      exact waking timeline deadline rest next soon (ih _ (left ▸ rest.waits_moveTo next within)
        moved.2 rfl moved.1.within)
    · apply asleep timeline rest
      intro deadline next
      by_contra early
      exact soon ⟨deadline, next, Nat.not_lt.mp early⟩

theorem AtRest.advanceTo (rest : timeline.AtRest) (target : Nat) :
    (timeline.advanceTo target).AtRest := by
  refine advance_induction target (motive := fun timeline =>
    (timeline.advanceTo target).AtRest) ?_ ?_ rest
  · intro timeline rest sleeps
    rw [advanceTo_of_sleeps sleeps]
    have regular := rest.regular
    refine ⟨⟨regular.sound, regular.errands, ?_, regular.working, regular.nodup⟩, rest.arrived,
      rest.unready⟩
    intro timer member
    have later := sleepsTo_iff.mp sleeps timer member
    exact Nat.max_le.mpr ⟨Nat.le_of_lt later, regular.ahead timer member⟩
  · intro timeline deadline rest next soon later
    rw [advanceTo_of_due rest next soon]
    exact later

/-- The clock may stop on its way. -/
theorem advanceTo_advanceTo {early late : Nat} (rest : timeline.AtRest) (le : early ≤ late) :
    (timeline.advanceTo early).advanceTo late = timeline.advanceTo late := by
  refine advance_induction early (motive := fun timeline =>
    (timeline.advanceTo early).advanceTo late = timeline.advanceTo late) ?_ ?_ rest
  · intro timeline rest sleeps
    rw [advanceTo_of_sleeps sleeps]
    apply advanceTo_now
    omega
  · intro timeline deadline rest next soon later
    rw [advanceTo_of_due rest next soon, later,
      advanceTo_of_due rest next (Nat.le_trans soon le)]

end Timeline

end RecordLocks
