import Mathlib.Algebra.Order.BigOperators.Group.List
import Mathlib.Algebra.Order.Group.Nat
import Mathlib.Data.Nat.Find
import RecordLocks.Proofs.Alone
import RecordLocks.Proofs.Footprint
namespace RecordLocks

/-- A manager by a clock. A call that works on its record sleeps until its deadline. -/
structure Clock where
  now : Nat
  manager : Manager
  deadlines : Index CallId Nat
  deriving DecidableEq

/-- What happens by a clock. The delay of an act is for how long a call that is resumed sleeps
afterwards, if it then works on its record. -/
inductive Beat where
  | act (act : Act) (delay : Nat)
  | elapse (time : Nat)
  deriving DecidableEq, Repr

namespace Beat

def isOpening : Beat → Bool
  | act what _ => what.isOpening
  | elapse _ => false

/-- How many sessions take a number. -/
def openings (beats : List Beat) : Nat := beats.countP isOpening

@[simp] theorem openings_append (first second : List Beat) :
    openings (first ++ second) = openings first + openings second :=
  List.countP_append

end Beat

namespace Clock

def start (store : RecordStore) : Clock := ⟨0, .start store, ∅⟩

def isAsleep (clock : Clock) (id : CallId) : Bool :=
  (clock.deadlines.get? id).any (clock.now < ·)

def resume (clock : Clock) (id : CallId) (delay : Nat) : Clock :=
  if clock.isAsleep id then clock
  else
    let manager := (clock.manager.resume id).2
    { clock with
      manager := manager
      deadlines :=
        if (manager.calls.get? id).any (·.phase.window?.isSome) then
          clock.deadlines.insert id (clock.now + delay)
        else clock.deadlines.erase id }

def step (clock : Clock) : Beat → Clock
  | .act (.resume id) delay => clock.resume id delay
  | .act (.cancel id) _ =>
    { clock with manager := clock.manager.cancel id, deadlines := clock.deadlines.erase id }
  | .act act _ => { clock with manager := clock.manager.step act }
  | .elapse time => { clock with now := max clock.now time }

def run (clock : Clock) (beats : List Beat) : Clock := beats.foldl step clock

/-- The calls that a beat answers. -/
def answers (clock : Clock) : Beat → List (CallId × Outcome)
  | .act (.resume id) _ =>
    if clock.isAsleep id then [] else (clock.manager.resume id).1.toList.map (id, ·)
  | _ => []

/-- The call can be resumed now. It has just been issued, it has its session for itself, or it
works on its record and has slept until its deadline. -/
def Runnable (clock : Clock) (id : CallId) : Prop :=
  clock.isAsleep id = false ∧ ∃ call, clock.manager.calls.get? id = some call ∧
    (call.phase = .waiting →
      ∃ seat, clock.manager.seats.get? call.session = some seat ∧ seat.line.head? = some id)

/-- The call works on its record and waits for its deadline. -/
def Sleeps (clock : Clock) (id : CallId) : Prop :=
  clock.isAsleep id = true ∧
    ∃ call, clock.manager.calls.get? id = some call ∧ call.phase.window?.isSome

/-- The call stands in the line of its session behind one that can be resumed or that sleeps. -/
def Queued (clock : Clock) (id : CallId) : Prop :=
  ∃ call seat holder, clock.manager.calls.get? id = some call ∧ call.phase = .waiting ∧
    clock.manager.seats.get? call.session = some seat ∧ id ∈ seat.line.tail ∧
    seat.line.head? = some holder ∧ (clock.Runnable holder ∨ clock.Sleeps holder)

/-- The beat resumes a call that can be resumed, lists an entrant, or moves the clock on to the next
deadline. -/
def Works (clock : Clock) : Beat → Prop
  | .act (.resume id) _ => clock.Runnable id
  | .act (.enlist session) _ => clock.manager.entrants.contains session = true
  | .act _ _ => False
  | .elapse time =>
    (∃ id, clock.Sleeps id ∧ clock.deadlines.get? id = some time) ∧
      ∀ id deadline, clock.Sleeps id → clock.deadlines.get? id = some deadline → time ≤ deadline

/-- No beat issues a call or ends one by force; each of them brings the pending calls on. -/
def Working : Clock → List Beat → Prop
  | _, [] => True
  | clock, beat :: rest => clock.Works beat ∧ (clock.step beat).Working rest

end Clock

namespace Manager

variable {manager : Manager} {id : CallId} {session : SessionId} {request : Request}
  {phase : Phase}

/-- A call that does not wait for its session is answered, or it comes nearer to its end, whoever
holds the locks. -/
theorem resume_goes_on (sound : manager.Sound)
    (found : manager.calls.get? id = some ⟨session, request, phase⟩)
    (turn : phase = .waiting →
      ∃ seat, manager.seats.get? session = some seat ∧ seat.line.head? = some id) :
    (∃ outcome, (manager.resume id).1 = some outcome ∧
        (manager.resume id).2.calls.get? id = none) ∨
      ∃ next, (manager.resume id).1 = none ∧
        (manager.resume id).2.calls.get? id = some ⟨session, request, next⟩ ∧
        next.stepsLeft < phase.stepsLeft := by
  obtain ⟨seat, seated⟩ := sound.seated id _ found
  have advanced := resume_advance sound found seated
  generalize (manager.resume id).1 = outcome at advanced ⊢
  generalize (manager.resume id).2 = after at advanced ⊢
  cases advanced with
  | behind blocked =>
    obtain ⟨there, placed, head⟩ := turn rfl
    rw [seated] at placed
    cases placed
    exact absurd head blocked
  | queued | opened | committing | loadedToWrite | loadedToRead | worked =>
    right
    exact ⟨_, rfl, calls_setCall _ _ _, by simp [Phase.stepsLeft]⟩
  | removed | shut | contended | edited | notCheckedOut | discarded | nothingDiscarded | told
  | vanished | checkedOut | readDone | refused | stored =>
    left
    refine ⟨_, rfl, ?_⟩
    simp [record, setSeat, setSession, releaseAll, applyLocks, Index.get?_erase]

theorem calls_enlist (manager : Manager) (session : SessionId) :
    (manager.enlist session).calls = manager.calls := by
  cases entered : manager.entrants.get? session with
  | none => rw [enlist, entered]
  | some user =>
    rw [enlist_of_entrant entered]
    rfl

theorem entrants_resume (sound : manager.Sound) (id : CallId) :
    (manager.resume id).2.entrants = manager.entrants := by
  cases found : manager.calls.get? id with
  | none => rw [resume_of_none found]
  | some call =>
    obtain ⟨seat, seated⟩ := sound.seated id call found
    exact ((resume_advance sound found seated).apart found).entrants

/-- An entrant does not have to wait to be listed. -/
theorem enlist_goes_on (entered : manager.entrants.contains session = true) :
    ((manager.enlist session).listed? session).isSome ∧
      (manager.enlist session).entrants.get? session = none ∧
      (manager.enlist session).entrants.size < manager.entrants.size := by
  obtain ⟨user, found⟩ := Option.isSome_iff_exists.mp entered
  rw [enlist_of_entrant found]
  refine ⟨?_, ?_, Index.size_erase_lt entered⟩
  · simp [listed?, record, setSeat, Index.get?_insert]
  · simp [record, setSeat, turnAway, Index.get?_erase]

end Manager

namespace Clock

open Manager

variable {clock : Clock} {id : CallId} {beat : Beat} {count : Nat}

/-- Only calls that work on their record have deadlines. -/
structure Sound (count : Nat) (clock : Clock) : Prop where
  manager : clock.manager.Sound
  numbered : clock.manager.Numbered count
  deadlines : ∀ id deadline, clock.deadlines.get? id = some deadline →
    ∃ call, clock.manager.calls.get? id = some call ∧ call.phase.window?.isSome

theorem sound_start (store : RecordStore) : (start store).Sound 0 := by
  refine ⟨Manager.sound_start store, Manager.numbered_start store, ?_⟩
  intro id deadline due
  cases due

/-- Calls are not pulled out of their sleep. -/
theorem deadlines_step (sound : clock.Sound count) (beat : Beat) (id : CallId) (deadline : Nat)
    (due : (clock.step beat).deadlines.get? id = some deadline) :
    ∃ call, (clock.step beat).manager.calls.get? id = some call ∧
      call.phase.window?.isSome := by
  cases beat with
  | elapse time => exact sound.deadlines id deadline due
  | act act delay =>
    cases act with
    | enter | turnAway | store => exact sound.deadlines id deadline due
    | enlist session =>
      obtain ⟨call, found, opened⟩ := sound.deadlines id deadline due
      refine ⟨call, ?_, opened⟩
      simpa only [step, Manager.step, calls_enlist] using found
    | issue asked session request =>
      obtain ⟨call, found, opened⟩ := sound.deadlines id deadline due
      refine ⟨call, ?_, opened⟩
      rcases issue_cases clock.manager asked session request with
        same | ⟨seat, fresh, -, -, issued⟩
      · simp only [step, Manager.step, same]
        exact found
      · have different : asked ≠ id := by
          rintro rfl
          rw [fresh] at found
          cases found
        simp [step, Manager.step, issued, setCall, setSeat, Index.get?_insert, different, found]
    | cancel asked =>
      simp only [step, Index.get?_erase] at due ⊢
      split at due
      · cases due
      · rename_i different
        rw [calls_cancel_other (Ne.symm different)]
        exact sound.deadlines id deadline due
    | resume asked =>
      simp only [step, resume] at due ⊢
      split at due
      · rename_i asleep
        rw [if_pos asleep]
        exact sound.deadlines id deadline due
      · rename_i awake
        rw [if_neg awake]
        by_cases same : asked = id
        · subst same
          simp only at due ⊢
          split at due
          · rename_i working
            exact (Option.any_eq_true _ _).mp working
          · simp [Index.get?_erase] at due
        · rw [calls_resume_other sound.manager (Ne.symm same)]
          apply sound.deadlines id deadline
          simp only at due
          split at due
          · simpa [Index.get?_insert, same] using due
          · simpa [Index.get?_erase, same] using due

theorem step_of_awake (awake : clock.isAsleep id = false) (delay : Nat) :
    clock.step (.act (.resume id) delay) =
      { clock with
        manager := (clock.manager.resume id).2
        deadlines :=
          if ((clock.manager.resume id).2.calls.get? id).any (·.phase.window?.isSome) then
            clock.deadlines.insert id (clock.now + delay)
          else clock.deadlines.erase id } := by
  simp [step, resume, awake]

theorem resume_of_awake (awake : clock.isAsleep id = false) (delay : Nat) :
    (clock.step (.act (.resume id) delay)).manager = (clock.manager.resume id).2 := by
  rw [step_of_awake awake]

theorem Sound.step (sound : clock.Sound count) (beat : Beat)
    (few : count + Beat.openings [beat] ≤ 2 ^ 64) :
    (clock.step beat).Sound (count + Beat.openings [beat]) := by
  have stepped : ∀ act, count + Act.openings [act] ≤ 2 ^ 64 →
      (clock.manager.step act).Sound ∧
        (clock.manager.step act).Numbered (count + Act.openings [act]) :=
    fun act few => ⟨sound.manager.step sound.numbered act, sound.numbered.step sound.manager few⟩
  have deadlines := deadlines_step sound beat
  cases beat with
  | elapse time => exact ⟨sound.manager, sound.numbered, deadlines⟩
  | act act delay =>
    obtain ⟨manager, numbered⟩ := stepped act few
    cases act with
    | enter | enlist | turnAway | issue | cancel | store => exact ⟨manager, numbered, deadlines⟩
    | resume id =>
      cases asleep : clock.isAsleep id with
      | true =>
        have still : clock.step (.act (.resume id) delay) = clock := by
          simp [Clock.step, resume, asleep]
        rw [still]
        exact sound
      | false =>
        refine ⟨?_, ?_, deadlines⟩
        · rw [resume_of_awake asleep]
          exact manager
        · rw [resume_of_awake asleep]
          exact numbered

theorem sound_run (store : RecordStore) (beats : List Beat)
    (few : Beat.openings beats ≤ 2 ^ 64) :
    ((start store).run beats).Sound (Beat.openings beats) := by
  induction beats using List.reverseRecOn with
  | nil => exact sound_start store
  | append_singleton earlier beat ih =>
    rw [Beat.openings_append] at few ⊢
    rw [run, List.foldl_append]
    exact (ih (by omega)).step beat few

theorem Sound.sleeps (sound : clock.Sound count) (asleep : clock.isAsleep id = true) :
    clock.Sleeps id := by
  obtain ⟨deadline, due, -⟩ := (Option.any_eq_true _ _).mp asleep
  exact ⟨asleep, sound.deadlines id deadline due⟩

/-- The call that a session serves can be resumed, or it sleeps. -/
theorem Sound.runnable_or_sleeps (sound : clock.Sound count) {session : SessionId} {seat : Seat}
    (seated : clock.manager.seats.get? session = some seat) (head : seat.line.head? = some id) :
    clock.Runnable id ∨ clock.Sleeps id := by
  cases asleep : clock.isAsleep id with
  | true => exact .inr (sound.sleeps asleep)
  | false =>
    left
    have member : id ∈ seat.line := List.mem_of_mem_head? head
    obtain ⟨call, found, rfl, -⟩ :=
      ((sound.manager.seats session seat seated).line.mem_iff id).mp member
    exact ⟨asleep, call, found, fun _ => ⟨seat, seated, head⟩⟩

theorem Sound.runs_sleeps_or_queues (sound : clock.Sound count) {call : Call}
    (found : clock.manager.calls.get? id = some call) :
    clock.Runnable id ∨ clock.Sleeps id ∨ clock.Queued id := by
  cases asleep : clock.isAsleep id with
  | true => exact .inr (.inl (sound.sleeps asleep))
  | false =>
    by_cases waits : call.phase = .waiting
    · obtain ⟨seat, seated⟩ := sound.manager.seated id call found
      have line := (sound.manager.seats call.session seat seated).line
      have member : id ∈ seat.line := (line.mem_iff id).mpr ⟨call, found, rfl, by simp [waits]⟩
      cases split : seat.line with
      | nil =>
        rw [split] at member
        cases member
      | cons first rest =>
        have head : seat.line.head? = some first := by rw [split]; rfl
        by_cases same : first = id
        · exact .inl ⟨asleep, call, found, fun _ => ⟨seat, seated, same ▸ head⟩⟩
        · have behind : id ∈ seat.line.tail := by
            rw [split] at member ⊢
            exact (List.mem_cons.mp member).resolve_left (Ne.symm same)
          exact .inr (.inr ⟨call, seat, first, found, waits, seated, behind, head,
            sound.runnable_or_sleeps seated head⟩)
    · exact .inl ⟨asleep, call, found, fun waiting => absurd waiting waits⟩

/-- A call that can be resumed goes on. -/
theorem Runnable.goes_on (runnable : clock.Runnable id) (sound : clock.Sound count) :
    ∃ call, clock.manager.calls.get? id = some call ∧
      ((∃ outcome, (clock.manager.resume id).1 = some outcome ∧
          (clock.manager.resume id).2.calls.get? id = none) ∨
        ∃ next, (clock.manager.resume id).1 = none ∧
          (clock.manager.resume id).2.calls.get? id = some { call with phase := next } ∧
          next.stepsLeft < call.phase.stepsLeft) := by
  obtain ⟨-, call, found, turn⟩ := runnable
  exact ⟨call, found, resume_goes_on sound.manager found turn⟩

/-- How many beats can at most be spent on a call: one for each of its steps, and one for each
sleep, before which there is a step. -/
def weight (clock : Clock) (id : CallId) : Nat :=
  2 * ((clock.manager.calls.get? id).map (·.phase.stepsLeft)).getD 0 +
    (clock.isAsleep id).toNat

/-- What can at most be spent on some calls and on the entrants. -/
def left (clock : Clock) (ids : List CallId) : Nat :=
  (ids.map clock.weight).sum + clock.manager.entrants.size

theorem weight_le (clock : Clock) (id : CallId) : clock.weight id ≤ 11 := by
  have few : ((clock.manager.calls.get? id).map (·.phase.stepsLeft)).getD 0 ≤ 5 := by
    cases clock.manager.calls.get? id with
    | none => simp
    | some call =>
      simp only [Option.map_some, Option.getD_some]
      cases call.phase <;> simp [Phase.stepsLeft]
  have one := Bool.toNat_le (clock.isAsleep id)
  rw [weight]
  omega

theorem left_le (clock : Clock) (ids : List CallId) :
    clock.left ids ≤ 11 * ids.length + clock.manager.entrants.size := by
  have bound := List.sum_le_card_nsmul (ids.map clock.weight) 11 (by
    intro weight member
    obtain ⟨id, -, rfl⟩ := List.mem_map.mp member
    exact clock.weight_le id)
  rw [List.length_map, Nat.nsmul_eq_mul, Nat.mul_comm] at bound
  exact Nat.add_le_add_right bound _

theorem calls_of_works (works : clock.Works beat) (sound : clock.Sound count) (id : CallId)
    (pending : (clock.step beat).manager.calls.contains id = true) :
    clock.manager.calls.contains id = true := by
  cases beat with
  | elapse time => exact pending
  | act act delay =>
    cases act with
    | enter | turnAway | issue | cancel | store => cases works
    | enlist session => simpa only [step, Manager.step, calls_enlist] using pending
    | resume asked =>
      obtain ⟨awake, call, found, -⟩ := works
      by_cases same : id = asked
      · rw [same, Index.contains, found]
        rfl
      · rw [resume_of_awake awake, Index.contains, calls_resume_other sound.manager same] at pending
        exact pending

theorem isAsleep_resume_other {other : CallId} (awake : clock.isAsleep id = false)
    (different : other ≠ id) (delay : Nat) :
    (clock.step (.act (.resume id) delay)).isAsleep other = clock.isAsleep other := by
  rw [step_of_awake awake, isAsleep, isAsleep]
  split
  · rw [Index.get?_insert, if_neg (Ne.symm different)]
  · rw [Index.get?_erase, if_neg (Ne.symm different)]

theorem weight_resume (runnable : clock.Runnable id) (sound : clock.Sound count) (delay : Nat) :
    (clock.step (.act (.resume id) delay)).weight id < clock.weight id := by
  obtain ⟨call, found, goes⟩ := runnable.goes_on sound
  have awake := runnable.1
  have one := Bool.toNat_le ((clock.step (.act (.resume id) delay)).isAsleep id)
  rw [weight, weight, resume_of_awake awake, found, awake]
  rcases goes with ⟨outcome, -, gone⟩ | ⟨next, -, stays, fewer⟩
  · have up : (clock.step (.act (.resume id) delay)).isAsleep id = false := by
      rw [step_of_awake awake, isAsleep]
      simp [gone, Index.get?_erase]
    have some_left := call.phase.stepsLeft_pos
    simp only [gone, up, Option.map_none, Option.map_some, Option.getD_none, Option.getD_some,
      Bool.toNat_false]
    omega
  -- It may fall asleep now, but it has a step less before it, and a step counts twice.
  · simp only [stays, Option.map_some, Option.getD_some, Bool.toNat_false]
    omega

/-- A beat that works makes no call heavier and adds no entrant. It makes one of the pending calls
lighter, or it takes an entrant away. -/
theorem weight_of_works (works : clock.Works beat) (sound : clock.Sound count) :
    (∀ id, (clock.step beat).weight id ≤ clock.weight id) ∧
      (clock.step beat).manager.entrants.size ≤ clock.manager.entrants.size ∧
      ((∃ id, clock.manager.calls.contains id = true ∧
          (clock.step beat).weight id < clock.weight id) ∨
        (clock.step beat).manager.entrants.size < clock.manager.entrants.size) := by
  cases beat with
  | act act delay =>
    cases act with
    | enter | turnAway | issue | cancel | store => cases works
    | enlist session =>
      obtain ⟨-, -, fewer⟩ := enlist_goes_on works
      refine ⟨?_, Nat.le_of_lt fewer, .inr fewer⟩
      intro id
      simp only [weight, isAsleep, step, Manager.step, calls_enlist]
      exact Nat.le_refl _
    | resume asked =>
      have lighter := weight_resume works sound delay
      obtain ⟨call, found, -⟩ := works.2
      have entrants : (clock.step (.act (.resume asked) delay)).manager.entrants =
          clock.manager.entrants := by
        rw [resume_of_awake works.1, entrants_resume sound.manager]
      refine ⟨?_, by rw [entrants], .inl ⟨asked, by rw [Index.contains, found]; rfl, lighter⟩⟩
      intro id
      by_cases same : id = asked
      · rw [same]
        exact Nat.le_of_lt lighter
      · rw [weight, weight, isAsleep_resume_other works.1 same, resume_of_awake works.1,
          calls_resume_other sound.manager same]
  | elapse time =>
    have wakes : ∀ id, (clock.step (.elapse time)).isAsleep id = true →
        clock.isAsleep id = true := by
      intro id asleep
      obtain ⟨deadline, due, later⟩ := (Option.any_eq_true _ _).mp asleep
      have before : max clock.now time < deadline := of_decide_eq_true later
      exact (Option.any_eq_true _ _).mpr ⟨deadline, due, by simp; omega⟩
    obtain ⟨⟨sleeper, ⟨asleep, call, found, -⟩, due⟩, -⟩ := works
    have woken : (clock.step (.elapse time)).isAsleep sleeper = false := by
      have due : (clock.step (.elapse time)).deadlines.get? sleeper = some time := due
      rw [isAsleep, due]
      simp [step]
    refine ⟨?_, Nat.le_refl _, .inl ⟨sleeper, by rw [Index.contains, found]; rfl, ?_⟩⟩
    · intro id
      have calls : (clock.step (.elapse time)).manager = clock.manager := rfl
      rw [weight, weight, calls]
      cases after : (clock.step (.elapse time)).isAsleep id with
      | false => simp
      | true => rw [wakes id after]
    · have calls : (clock.step (.elapse time)).manager = clock.manager := rfl
      rw [weight, weight, calls, woken, asleep]
      simp

theorem openings_of_works (works : clock.Works beat) : Beat.openings [beat] = 0 := by
  cases beat with
  | elapse time => rfl
  | act act delay =>
    cases act with
    | enter | turnAway | issue | cancel | store => cases works
    | enlist session => rfl
    | resume id => rfl

theorem Sound.of_works (sound : clock.Sound count) (few : count ≤ 2 ^ 64)
    (works : clock.Works beat) : (clock.step beat).Sound count := by
  have none := openings_of_works works
  have stepped := sound.step beat (by omega)
  rw [none] at stepped
  exact stepped

theorem Sound.of_working {work : List Beat} (sound : clock.Sound count) (few : count ≤ 2 ^ 64)
    (working : clock.Working work) : (clock.run work).Sound count := by
  induction work generalizing clock with
  | nil => exact sound
  | cons beat rest ih => exact ih (sound.of_works few working.1) working.2

theorem left_of_works {ids : List CallId} (works : clock.Works beat) (sound : clock.Sound count)
    (within : ∀ id, clock.manager.calls.contains id = true → id ∈ ids) :
    (clock.step beat).left ids < clock.left ids := by
  obtain ⟨no_more, no_other, ⟨id, pending, less⟩ | fewer⟩ := weight_of_works works sound
  · have lighter : (ids.map (clock.step beat).weight).sum < (ids.map clock.weight).sum :=
      List.sum_lt_sum _ _ (fun id _ => no_more id) ⟨id, within id pending, less⟩
    exact Nat.add_lt_add_of_lt_of_le lighter no_other
  · have no_heavier : (ids.map (clock.step beat).weight).sum ≤ (ids.map clock.weight).sum :=
      List.sum_le_sum fun id _ => no_more id
    exact Nat.add_lt_add_of_le_of_lt no_heavier fewer

/-- However the calls are scheduled, each beat that works uses up some of what is left. -/
theorem length_le_left {work : List Beat} {ids : List CallId} (sound : clock.Sound count)
    (few : count ≤ 2 ^ 64) (working : clock.Working work)
    (within : ∀ id, clock.manager.calls.contains id = true → id ∈ ids) :
    work.length ≤ clock.left ids := by
  induction work generalizing clock with
  | nil => simp
  | cons beat rest ih =>
    obtain ⟨works, later⟩ := working
    have lighter := left_of_works works sound within
    have still := ih (sound.of_works few works) later fun id pending =>
      within id (calls_of_works works sound id pending)
    rw [List.length_cons]
    omega

theorem exists_next_deadline (asleep : clock.Sleeps id) : ∃ time, clock.Works (.elapse time) := by
  classical
  have due : ∃ time id, clock.Sleeps id ∧ clock.deadlines.get? id = some time := by
    obtain ⟨deadline, due, -⟩ := (Option.any_eq_true _ _).mp asleep.1
    exact ⟨deadline, id, asleep, due⟩
  refine ⟨Nat.find due, Nat.find_spec due, ?_⟩
  intro other deadline sleeps later
  exact Nat.find_min' due ⟨other, sleeps, later⟩

/-- While a call is pending, one can be resumed, or one sleeps and the clock can move on. -/
theorem Sound.exists_works (sound : clock.Sound count) (pending : clock.manager.calls ≠ ∅) :
    ∃ beat, clock.Works beat := by
  have first : ∀ id, clock.Runnable id ∨ clock.Sleeps id → ∃ beat, clock.Works beat := by
    rintro id (runnable | asleep)
    · exact ⟨.act (.resume id) 0, runnable⟩
    · obtain ⟨time, works⟩ := exists_next_deadline asleep
      exact ⟨.elapse time, works⟩
  obtain ⟨id, call, found⟩ := Index.exists_of_ne_empty pending
  rcases sound.runs_sleeps_or_queues found with runnable | asleep | queued
  · exact first id (.inl runnable)
  · exact first id (.inr asleep)
  · obtain ⟨-, -, holder, -, -, -, -, -, serves⟩ := queued
    exact first holder serves

theorem answered_or_pending {work : List Beat} (sound : clock.Sound count)
    (few : count ≤ 2 ^ 64) (working : clock.Working work)
    (pending : clock.manager.calls.contains id = true) :
    (∃ outcome, (id, outcome) ∈ along step answers clock work) ∨
      (clock.run work).manager.calls.contains id = true := by
  induction work generalizing clock with
  | nil => exact .inr pending
  | cons beat rest ih =>
    obtain ⟨works, later⟩ := working
    have goes : (∃ outcome, (id, outcome) ∈ clock.answers beat) ∨
        (clock.step beat).manager.calls.contains id = true := by
      cases beat with
      | elapse time => exact .inr pending
      | act act delay =>
        cases act with
        | enter | turnAway | issue | cancel | store => cases works
        | enlist session =>
          right
          simpa only [step, Manager.step, calls_enlist] using pending
        | resume asked =>
          rw [resume_of_awake works.1]
          by_cases same : id = asked
          · subst same
            obtain ⟨call, found, ⟨outcome, answered, -⟩ | ⟨next, -, stays, -⟩⟩ :=
              Runnable.goes_on works sound
            · exact .inl ⟨outcome, by simp [answers, works.1, answered]⟩
            · exact .inr (by rw [Index.contains, stays]; rfl)
          · rw [Index.contains, calls_resume_other sound.manager same]
            exact .inr pending
    rcases goes with ⟨outcome, told⟩ | still
    · exact .inl ⟨outcome, List.mem_append_left _ told⟩
    · rcases ih (sound.of_works few works) later still with ⟨outcome, told⟩ | last
      · exact .inl ⟨outcome, List.mem_append_right _ told⟩
      · exact .inr last

/-- In every state that a run by the clock reaches, a pending call can be resumed, sleeps until
its deadline, or stands in the line of its session behind a call that can be resumed or sleeps.
No call stands in two lines. A new session never waits to be listed, and whoever holds the locks, a
call that is resumed goes on. So without new calls, in whatever order the pending ones go on and the
clock is moved on to the next deadline, there is something to do until all of them have been
answered, which takes a limited number of beats, and then no session serves a call. -/
theorem pending_calls_drain (store : RecordStore) (beats : List Beat)
    (few : Beat.openings beats ≤ 2 ^ 64) :
    let clock := (start store).run beats
    (∀ id call, clock.manager.calls.get? id = some call →
      clock.Runnable id ∨ clock.Sleeps id ∨ clock.Queued id) ∧
    (∀ id first second one two, clock.manager.seats.get? first = some one →
      clock.manager.seats.get? second = some two → id ∈ one.line → id ∈ two.line →
      first = second) ∧
    (∀ session, clock.manager.entrants.contains session = true →
      ((clock.manager.enlist session).listed? session).isSome ∧
        (clock.manager.enlist session).entrants.get? session = none) ∧
    (∀ id, clock.Runnable id → ∃ call, clock.manager.calls.get? id = some call ∧
      ((∃ outcome, (clock.manager.resume id).1 = some outcome ∧
          (clock.manager.resume id).2.calls.get? id = none) ∨
        ∃ next, (clock.manager.resume id).1 = none ∧
          (clock.manager.resume id).2.calls.get? id = some { call with phase := next } ∧
          next.stepsLeft < call.phase.stepsLeft)) ∧
    (∀ work, clock.Working work →
      work.length ≤ 11 * clock.manager.calls.size + clock.manager.entrants.size ∧
      ((∀ beat, ¬ (clock.run work).Works beat) →
        (clock.run work).manager.calls = ∅ ∧ (clock.run work).manager.entrants = ∅ ∧
        (∀ session seat, (clock.run work).manager.seats.get? session = some seat →
          seat.line = []) ∧
        ∀ id, clock.manager.calls.contains id = true →
          ∃ outcome, (id, outcome) ∈ along step answers clock work)) := by
  intro clock
  have sound : clock.Sound (Beat.openings beats) := sound_run store beats few
  refine ⟨?_, ?_, ?_, ?_, ?_⟩
  · intro id call found
    exact sound.runs_sleeps_or_queues found
  · intro id first second one two placed seated here there
    obtain ⟨call, found, own, -⟩ :=
      ((sound.manager.seats first one placed).line.mem_iff id).mp here
    obtain ⟨same, also, other, -⟩ :=
      ((sound.manager.seats second two seated).line.mem_iff id).mp there
    rw [found] at also
    cases also
    exact own.symm.trans other
  · intro session entered
    obtain ⟨listed, gone, -⟩ := enlist_goes_on entered
    exact ⟨listed, gone⟩
  · intro id runnable
    exact runnable.goes_on sound
  · intro work working
    constructor
    · have bound := length_le_left sound few working fun id pending => Index.mem_keys.mpr pending
      have most := clock.left_le clock.manager.calls.keys
      rw [Index.keys, List.length_map] at most
      exact Nat.le_trans bound most
    · intro stuck
      have last := sound.of_working few working
      have done : (clock.run work).manager.calls = ∅ := by
        by_contra pending
        obtain ⟨beat, works⟩ := last.exists_works pending
        exact stuck beat works
      have listed : (clock.run work).manager.entrants = ∅ := by
        by_contra waiting
        obtain ⟨session, user, entered⟩ := Index.exists_of_ne_empty waiting
        exact stuck (.act (.enlist session) 0) (by simp [Works, Index.contains, entered])
      refine ⟨done, listed, ?_, ?_⟩
      · intro session seat seated
        apply (last.manager.seats session seat seated).line_of_not_pending
        rintro ⟨id, call, found, -⟩
        rw [done] at found
        cases found
      · intro id pending
        rcases answered_or_pending sound few working pending with told | still
        · exact told
        · rw [done] at still
          cases still

/-- A session writes one record, a read of another one stands behind the write, and so does a
removal. -/
def writeWithQueue : List Beat :=
  [.act (.enter "ann") 0, .act (.enlist ⟨0⟩) 0, .act (.issue 0 ⟨0⟩ (.write 7 .title "new")) 0,
    .act (.resume 0) 0, .act (.resume 0) 30, .act (.issue 1 ⟨0⟩ (.read 8 .title)) 0,
    .act (.resume 1) 0, .act (.issue 2 ⟨0⟩ .removeSession) 0, .act (.resume 2) 0, .elapse 10]

theorem pending_calls_drain_of_writeWithQueue :
    Beat.openings writeWithQueue ≤ 2 ^ 64 ∧
      ((start (.ofBooks [.titled 7 "old"])).run writeWithQueue).Queued 1 ∧
      ((start (.ofBooks [.titled 7 "old"])).run writeWithQueue).Sleeps 0 := by
  have few : Beat.openings writeWithQueue ≤ 2 ^ 64 := by decide
  have states := (pending_calls_drain (.ofBooks [.titled 7 "old"]) writeWithQueue few).1
  have writer : ((start (.ofBooks [.titled 7 "old"])).run writeWithQueue).Sleeps 0 :=
    ⟨by decide, _, rfl, rfl⟩
  refine ⟨few, ?_, writer⟩
  rcases states 1 _ rfl with ⟨-, call, found, turn⟩ | ⟨asleep, -⟩ | queued
  · cases found
    obtain ⟨seat, seated, head⟩ := turn rfl
    cases seated
    cases head
  · cases asleep
  · exact queued

end Clock

end RecordLocks
