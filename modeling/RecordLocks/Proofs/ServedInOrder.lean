import RecordLocks.Proofs.Draining
import RecordLocks.Proofs.Newcomers
namespace RecordLocks

namespace Manager

variable {manager after begin last : Manager} {id other : CallId} {call : Call} {seat : Seat}
  {session : SessionId} {request : Request} {phase : Phase} {outcome : Option Outcome}
  {issued queue : List CallId} {answers : List (CallId × Outcome)}

theorem Advance.stays
    (advanced : Advance manager id session seat request phase outcome after)
    (found : manager.calls.get? id = some ⟨session, request, phase⟩)
    (there : after.calls.get? id = some call) :
    call.session = session ∧ call.phase ≠ .arriving := by
  cases advanced with
  | behind =>
    rw [found] at there
    cases there
    simp
  | queued | opened | committing | loadedToWrite | loadedToRead | worked =>
    rw [calls_setCall] at there
    cases there
    simp
  | removed | shut | contended | edited | notCheckedOut | discarded | nothingDiscarded | told
  | vanished | checkedOut | readDone | refused | stored =>
    simp [record, setSeat, setSession, releaseAll, applyLocks, Index.get?_erase] at there

/-- Every call is one of the session that has been issued, and those in the queue have not joined
its line yet. -/
structure Ours (session : SessionId) (issued queue : List CallId) (manager : Manager) : Prop where
  sound : manager.Sound
  calls : ∀ id call, manager.calls.get? id = some call →
    call.session = session ∧ id ∈ issued ∧ (call.phase = .arriving ↔ id ∈ queue)

theorem Ours.fresh (ours : Ours session issued queue manager) (new : id ∉ issued) :
    manager.calls.get? id = none := by
  cases found : manager.calls.get? id with
  | none => rfl
  | some call => exact absurd (ours.calls id call found).2.1 new

theorem Ours.resume (ours : Ours session issued queue manager) (nodup : queue.Nodup)
    (id : CallId) : Ours session issued (queue.erase id) (manager.resume id).2 := by
  refine ⟨ours.sound.resumed id, ?_⟩
  intro other call there
  by_cases same : other = id
  · subst same
    cases found : manager.calls.get? other with
    | none =>
      rw [resume_of_none found, found] at there
      cases there
    | some old =>
      obtain ⟨own, asked, -⟩ := ours.calls other old found
      obtain ⟨seat, seated⟩ := ours.sound.seated other old found
      obtain ⟨kept, arrived⟩ := (resume_advance ours.sound found seated).stays found there
      exact ⟨kept.trans own, asked, by simp [arrived, nodup.not_mem_erase]⟩
  · rw [calls_resume_other ours.sound same] at there
    rw [List.mem_erase_of_ne same]
    exact ours.calls other call there

theorem Ours.issue (ours : Ours session issued queue manager) (new : id ∉ issued)
    (request : Request) :
    Ours session (issued ++ [id]) (queue ++ [id]) (manager.issue id session request).2 := by
  have fresh := ours.fresh new
  refine ⟨ours.sound.issue, ?_⟩
  intro other call there
  by_cases same : other = id
  · subst same
    rcases issue_fresh fresh session request with ⟨seat, -, -, found⟩ | ⟨-, refused⟩
    · rw [found, calls_setCall] at there
      cases there
      simp
    · rw [refused, fresh] at there
      cases there
  · have before : manager.calls.get? other = some call := by
      rcases issue_fresh fresh session request with ⟨seat, -, -, found⟩ | ⟨-, refused⟩
      · simpa [found, setCall, setSeat, Index.get?_insert, Ne.symm same] using there
      · simpa [refused] using there
    obtain ⟨own, asked, arrives⟩ := ours.calls other call before
    exact ⟨own, List.mem_append_left _ asked, by simpa [same] using arrives⟩

/-- Serving a call neither lists its session nor unlists it. -/
theorem Ours.listed (ours : Ours session issued queue manager) (id : CallId) :
    ((manager.resume id).2.listed? session).isSome = (manager.listed? session).isSome := by
  cases found : manager.calls.get? id with
  | none => rw [resume_of_none found]
  | some call =>
    obtain ⟨rfl, -⟩ := ours.calls id call found
    obtain ⟨seat, seated⟩ := ours.sound.seated id call found
    obtain ⟨changed, reseated, listed, -⟩ :=
      (resume_advance ours.sound found seated).reseated seated
    cases stays : seat.listed <;>
      simp [listed?, seated, reseated, Option.filter, listed, stays]

theorem issue_eq (fresh : manager.calls.get? id = none) (session : SessionId)
    (request : Request) :
    manager.issue id session request =
      if (manager.listed? session).isSome then
        (none, manager.receive id ⟨session, request, .arriving⟩)
      else (some (.error (.sessionNotFound session)), manager) := by
  cases found : manager.listed? session with
  | some seat =>
    obtain ⟨seated, listed⟩ := Option.filter_eq_some_iff.mp found
    simp [issue_receives fresh seated listed]
  | none => simp [issue, Index.contains, fresh, found]

theorem calls_issue_other (fresh : manager.calls.get? id = none) (different : id ≠ other) :
    (manager.issue id session request).2.calls.get? other = manager.calls.get? other := by
  rw [issue_eq fresh]
  split
  · exact calls_receive_other different
  · rfl

/-- It makes no difference whether a call is issued before or after another one goes on. -/
theorem Ours.resume_issue (ours : Ours session issued queue manager) (new : id ∉ issued)
    (different : id ≠ other) (request : Request) :
    (manager.issue id session request).2.resume other =
        ((manager.resume other).1, ((manager.resume other).2.issue id session request).2) ∧
      ((manager.resume other).2.issue id session request).1 =
        (manager.issue id session request).1 := by
  have fresh := ours.fresh new
  have still : (manager.resume other).2.calls.get? id = none := by
    rw [calls_resume_other ours.sound different]
    exact fresh
  have sound : (manager.issue id session request).2.Sound := ours.sound.issue
  rw [issue_eq fresh] at sound ⊢
  rw [issue_eq still, ours.listed other]
  cases listed : (manager.listed? session).isSome with
  | false => exact ⟨rfl, rfl⟩
  | true =>
    simp only [listed, if_true] at sound
    refine ⟨resume_receive ours.sound sound different ?_, rfl⟩
    intro there found
    exact ⟨(ours.calls other there found).1, .inl rfl⟩

/-- Nor does it make a difference whether a call joins the line before or after one goes on that
stands in it. -/
theorem Ours.resume_arrival (ours : Ours session issued (other :: queue) manager)
    (outside : id ∉ other :: queue) :
    (manager.resume other).2.resume id =
      ((manager.resume id).1, ((manager.resume id).2.resume other).2) := by
  obtain ⟨different, -⟩ := not_or.mp (mt List.mem_cons.mpr outside)
  have kept := calls_resume_other ours.sound (Ne.symm different)
  cases found : manager.calls.get? other with
  | none =>
    rw [found] at kept
    rw [resume_of_none found, resume_of_none kept]
  | some call =>
    obtain ⟨session, request, phase⟩ := call
    obtain ⟨rfl, -, arrives⟩ := ours.calls other _ found
    obtain rfl : phase = .arriving := arrives.mpr List.mem_cons_self
    rw [found] at kept
    obtain ⟨seat, seated⟩ := ours.sound.seated other _ found
    obtain ⟨changed, reseated⟩ := (ours.sound.resumed id).seated other _ kept
    have sound := ours.sound.resumed other
    rw [resume_arriving kept reseated]
    rw [resume_arriving found seated] at sound ⊢
    apply resume_receive ours.sound sound (Ne.symm different)
    intro there standing
    obtain ⟨own, -, waits⟩ := ours.calls id there standing
    exact ⟨own, .inr fun arriving => outside (waits.mp arriving)⟩

/-- Those in the queue join the line of their session. -/
def joinAll (manager : Manager) (queue : List CallId) : Manager :=
  manager.run (queue.map .resume)

@[simp] theorem joinAll_nil (manager : Manager) : manager.joinAll [] = manager := rfl

theorem joinAll_cons (manager : Manager) (id : CallId) (queue : List CallId) :
    manager.joinAll (id :: queue) = (manager.resume id).2.joinAll queue := rfl

theorem joinAll_append_singleton (manager : Manager) (queue : List CallId) (id : CallId) :
    manager.joinAll (queue ++ [id]) = ((manager.joinAll queue).resume id).2 := by
  simp [joinAll, step]

theorem Ours.resume_first (ours : Ours session issued (id :: queue) manager)
    (nodup : (id :: queue).Nodup) : Ours session issued queue (manager.resume id).2 := by
  have later := ours.resume nodup id
  rw [List.erase_cons_head] at later
  exact later

theorem Ours.resume_unjoined (ours : Ours session issued (id :: queue) manager) :
    (manager.resume id).1 = none := by
  cases found : manager.calls.get? id with
  | none => rw [resume_of_none found]
  | some call =>
    obtain ⟨session, request, phase⟩ := call
    obtain ⟨rfl, -, arrives⟩ := ours.calls id _ found
    obtain rfl : phase = .arriving := arrives.mpr List.mem_cons_self
    obtain ⟨seat, seated⟩ := ours.sound.seated id _ found
    rw [resume_arriving found seated]

theorem Ours.joinAll (ours : Ours session issued queue manager) (nodup : queue.Nodup) :
    Ours session issued [] (manager.joinAll queue) := by
  induction queue generalizing manager with
  | nil => exact ours
  | cons first rest ih => exact ih (ours.resume_first nodup) (List.nodup_cons.mp nodup).2

theorem Ours.resume_joinAll (ours : Ours session issued queue manager) (nodup : queue.Nodup)
    (outside : id ∉ queue) :
    (manager.joinAll queue).resume id =
      ((manager.resume id).1, (manager.resume id).2.joinAll queue) := by
  induction queue generalizing manager with
  | nil => rfl
  | cons first rest ih =>
    have beyond : id ∉ rest := fun member => outside (List.mem_cons_of_mem _ member)
    rw [joinAll_cons, ih (ours.resume_first nodup) (List.nodup_cons.mp nodup).2 beyond,
      ours.resume_arrival outside]
    rfl

theorem Ours.issue_joinAll (ours : Ours session issued queue manager) (nodup : queue.Nodup)
    (within : queue ⊆ issued) (new : id ∉ issued) (request : Request) :
    (manager.joinAll queue).issue id session request =
      ((manager.issue id session request).1,
        (manager.issue id session request).2.joinAll queue) := by
  induction queue generalizing manager with
  | nil => rfl
  | cons first rest ih =>
    have different : id ≠ first := by
      rintro rfl
      exact new (within List.mem_cons_self)
    obtain ⟨moved, same⟩ := ours.resume_issue new different request
    rw [joinAll_cons, ih (ours.resume_first nodup) (List.nodup_cons.mp nodup).2
      (List.subset_of_cons_subset within), same, joinAll_cons, moved]

/-- The call at the head of a session's line. -/
def first? (manager : Manager) (session : SessionId) : Option CallId :=
  (manager.seats.get? session).bind (·.line.head?)

/-- The session serves the calls in its line one after another, until none is left. -/
inductive Drains (session : SessionId) :
    Manager → List (CallId × Outcome) → Manager → Prop
  | done {manager : Manager} (quiet : manager.calls = ∅) : Drains session manager [] manager
  | answer {manager after last : Manager} {id : CallId} {outcome : Outcome}
    {answers : List (CallId × Outcome)} (head : manager.first? session = some id)
    (resumed : manager.resume id = (some outcome, after))
    (goesOn : Drains session after answers last) :
    Drains session manager ((id, outcome) :: answers) last
  | wait {manager after last : Manager} {id : CallId} {answers : List (CallId × Outcome)}
    (head : manager.first? session = some id) (resumed : manager.resume id = (none, after))
    (goesOn : Drains session after answers last) : Drains session manager answers last

/-- The line of the session. -/
theorem Ours.first (ours : Ours session issued [] manager)
    (head : manager.first? session = some id) :
    ∃ request phase seat, manager.calls.get? id = some ⟨session, request, phase⟩ ∧
      manager.seats.get? session = some seat ∧ seat.line.head? = some id := by
  obtain ⟨seat, seated, first⟩ := Option.bind_eq_some_iff.mp head
  have member : id ∈ seat.line := List.mem_of_mem_head? first
  obtain ⟨⟨_, request, phase⟩, found, rfl, -⟩ :=
    ((ours.sound.seats session seat seated).line.mem_iff id).mp member
  exact ⟨request, phase, seat, found, seated, first⟩

/-- A call that does not head the line waits for its turn. -/
theorem Ours.resume_behind (ours : Ours session issued [] manager)
    (behind : manager.first? session ≠ some id) : manager.resume id = (none, manager) := by
  cases found : manager.calls.get? id with
  | none => exact resume_of_none found
  | some call =>
    obtain ⟨session, request, phase⟩ := call
    obtain ⟨rfl, -, arrived⟩ := ours.calls id _ found
    obtain ⟨seat, seated⟩ := ours.sound.seated id _ found
    have line := (ours.sound.seats session seat seated).line
    have later : seat.line.head? ≠ some id := by
      intro head
      exact behind (by simp [first?, seated, head])
    have waits : phase = .waiting := by
      by_contra working
      exact later (line.head_of_phase found rfl (by simpa using arrived) working)
    subst waits
    exact resume_of_advance ours.sound found seated (.behind later)

/-- Resuming any call goes on with what is to be done for the line. -/
theorem Drains.resume (drains : Drains session manager answers last)
    (ours : Ours session issued [] manager) (id : CallId) :
    ∃ left, Drains session (manager.resume id).2 left last ∧
      answers = (manager.resume id).1.toList.map (id, ·) ++ left := by
  by_cases head : manager.first? session = some id
  · cases drains with
    | done quiet =>
      obtain ⟨request, phase, seat, found, -⟩ := ours.first head
      rw [quiet] at found
      cases found
    | answer there resumed goesOn =>
      rw [head] at there
      cases there
      rw [resumed]
      exact ⟨_, goesOn, rfl⟩
    | wait there resumed goesOn =>
      rw [head] at there
      cases there
      rw [resumed]
      exact ⟨_, goesOn, rfl⟩
  · rw [ours.resume_behind head]
    exact ⟨_, drains, rfl⟩

theorem Drains.quiet (drains : Drains session manager answers last) : last.calls = ∅ := by
  induction drains with
  | done quiet => exact quiet
  | answer head resumed goesOn ih => exact ih
  | wait head resumed goesOn ih => exact ih

theorem Ours.resumed (ours : Ours session issued [] manager)
    (resumed : manager.resume id = (outcome, after)) : Ours session issued [] after := by
  have later := ours.resume List.nodup_nil id
  rw [resumed] at later
  exact later

/-- Every pending call is answered. -/
theorem Drains.answered (drains : Drains session manager answers last)
    (ours : Ours session issued [] manager)
    (pending : manager.calls.contains other = true) : other ∈ answers.map (·.1) := by
  induction drains with
  | done quiet =>
    rw [quiet] at pending
    cases pending
  | @answer manager after last id outcome answers head resumed goesOn ih =>
    by_cases same : other = id
    · simp [same]
    · have kept := calls_resume_other ours.sound same
      rw [resumed] at kept
      rw [Index.contains, ← kept] at pending
      exact List.mem_cons_of_mem _ (ih (ours.resumed resumed) pending)
  | @wait manager after last id answers head resumed goesOn ih =>
    apply ih (ours.resumed resumed)
    by_cases same : other = id
    · subst same
      obtain ⟨request, phase, seat, found, seated, first⟩ := ours.first head
      rcases resume_goes_on ours.sound found (fun _ => ⟨seat, seated, first⟩) with
        ⟨outcome, told, -⟩ | ⟨next, -, stays, -⟩
      · rw [resumed] at told
        cases told
      · rw [resumed] at stays
        rw [Index.contains, stays]
        rfl
    · have kept := calls_resume_other ours.sound same
      rw [resumed] at kept
      rw [Index.contains, kept]
      exact pending

theorem Drains.listed (drains : Drains session manager answers last)
    (ours : Ours session issued [] manager) :
    (last.listed? session).isSome = (manager.listed? session).isSome := by
  induction drains with
  | done quiet => rfl
  | @answer manager after last id outcome answers head resumed goesOn ih =>
    have same := ours.listed id
    rw [resumed] at same
    exact (ih (ours.resumed resumed)).trans same
  | @wait manager after last id answers head resumed goesOn ih =>
    have same := ours.listed id
    rw [resumed] at same
    exact (ih (ours.resumed resumed)).trans same

theorem Drains.ours (drains : Drains session manager answers last)
    (ours : Ours session issued [] manager) : Ours session issued [] last := by
  induction drains with
  | done quiet => exact ours
  | answer head resumed goesOn ih => exact ih (ours.resumed resumed)
  | wait head resumed goesOn ih => exact ih (ours.resumed resumed)

/-- A call is issued and joins the line of its session at once. -/
def spawn (manager : Manager) (id : CallId) (session : SessionId) (request : Request) :
    Option Outcome × Manager :=
  let (outcome, after) := manager.issue id session request
  (outcome, (after.resume id).2)

theorem resume_issued (listed : (manager.listed? session).isSome = true) :
    (manager.receive id ⟨session, request, .arriving⟩).resume id =
      (none, (manager.receive id ⟨session, request, .arriving⟩).receive id
        ⟨session, request, .waiting⟩) := by
  obtain ⟨seat, found⟩ := Option.isSome_iff_exists.mp listed
  obtain ⟨seated, -⟩ := Option.filter_eq_some_iff.mp found
  have placed : manager.seats.get? (Call.mk session request .arriving).session = some seat :=
    seated
  have arrives : (manager.receive id ⟨session, request, .arriving⟩).calls.get? id =
      some ⟨session, request, .arriving⟩ := by
    rw [receive_of_seat placed]
    exact calls_setCall _ _ _
  rw [resume_arriving arrives (seats_receive placed id)]

theorem spawn_of_listed (fresh : manager.calls.get? id = none)
    (listed : (manager.listed? session).isSome = true) (request : Request) :
    manager.spawn id session request =
      (none, (manager.receive id ⟨session, request, .arriving⟩).receive id
        ⟨session, request, .waiting⟩) := by
  rw [spawn, issue_eq fresh, if_pos listed]
  simp only [resume_issued listed]

theorem calls_spawn (fresh : manager.calls.get? id = none)
    (listed : (manager.listed? session).isSome = true) (request : Request) :
    (manager.spawn id session request).2.calls.get? id = some ⟨session, request, .waiting⟩ := by
  obtain ⟨seat, found⟩ := Option.isSome_iff_exists.mp listed
  obtain ⟨seated, -⟩ := Option.filter_eq_some_iff.mp found
  have placed : manager.seats.get? (Call.mk session request .arriving).session = some seat :=
    seated
  have reseated : (manager.receive id ⟨session, request, .arriving⟩).seats.get?
      (Call.mk session request .waiting).session = some _ := seats_receive placed id
  rw [spawn_of_listed fresh listed, receive_of_seat reseated]
  exact calls_setCall _ _ _

theorem calls_spawn_other (different : id ≠ other) (fresh : manager.calls.get? id = none)
    (listed : (manager.listed? session).isSome = true) (request : Request) :
    (manager.spawn id session request).2.calls.get? other = manager.calls.get? other := by
  rw [spawn_of_listed fresh listed]
  simp only [calls_receive_other different]

theorem spawn_of_unlisted (fresh : manager.calls.get? id = none)
    (unlisted : (manager.listed? session).isSome = false) (request : Request) :
    manager.spawn id session request = (some (.error (.sessionNotFound session)), manager) := by
  rw [spawn, issue_eq fresh]
  simp [unlisted, resume_of_none fresh]

theorem ask_of_listed (fresh : manager.calls.get? id = none)
    (listed : (manager.listed? session).isSome = true) (request : Request) :
    manager.ask id session request = (manager.spawn id session request).2.finish 4 id := by
  rw [ask, issue_eq fresh, if_pos listed, spawn_of_listed fresh listed]
  exact finish_of_wait (resume_issued listed)

theorem ask_of_unlisted (fresh : manager.calls.get? id = none)
    (unlisted : (manager.listed? session).isSome = false) (request : Request) :
    manager.ask id session request = (some (.error (.sessionNotFound session)), manager) := by
  rw [ask, issue_eq fresh]
  simp [unlisted]

theorem Ours.spawn (ours : Ours session issued [] manager) (new : id ∉ issued)
    (request : Request) :
    Ours session (issued ++ [id]) [] (manager.spawn id session request).2 :=
  (ours.issue new request).resume_first (by simp)

theorem Ours.resume_spawn (ours : Ours session issued [] manager) (new : id ∉ issued)
    (different : id ≠ other) (request : Request) :
    (manager.spawn id session request).2.resume other =
      ((manager.resume other).1, ((manager.resume other).2.spawn id session request).2) := by
  have outside : other ∉ [id] := by simpa using different.symm
  have moved := (ours.issue new request).resume_arrival outside
  rw [(ours.resume_issue new different request).1] at moved
  exact moved

theorem first?_receive (different : id ≠ other) (call : Call)
    (head : manager.first? call.session = some other) :
    (manager.receive id call).first? call.session = some other := by
  obtain ⟨seat, seated, first⟩ := Option.bind_eq_some_iff.mp head
  rw [first?, seats_receive seated]
  exact (seat.head_receive id call different).mpr first

theorem Ours.first?_spawn (ours : Ours session issued [] manager) (new : id ∉ issued)
    (listed : (manager.listed? session).isSome = true)
    (head : manager.first? session = some other) (request : Request) :
    id ≠ other ∧ (manager.spawn id session request).2.first? session = some other := by
  obtain ⟨_, _, _, found, -⟩ := ours.first head
  have different : id ≠ other := by
    rintro rfl
    exact new (ours.calls id _ found).2.1
  rw [spawn_of_listed (ours.fresh new) listed]
  exact ⟨different, first?_receive different ⟨session, request, .waiting⟩
    (first?_receive different ⟨session, request, .arriving⟩ head)⟩

/-- A call that is alone is served until it ends. -/
theorem Alone.drains {steps : Nat} (alone : manager.Alone id ⟨session, request, phase⟩)
    (sound : manager.Sound) (arrived : phase ≠ .arriving) (enough : phase.stepsLeft ≤ steps) :
    ∃ outcome, (manager.finish steps id).1 = some outcome ∧
      Drains session manager [(id, outcome)] (manager.finish steps id).2 := by
  induction steps generalizing manager phase with
  | zero =>
    have some_left := phase.stepsLeft_pos
    omega
  | succ steps ih =>
    obtain ⟨seat, seated⟩ := sound.seated id _ alone.found
    have head : manager.first? session = some id := by
      simp only [first?, seated, Option.bind_some]
      exact alone.head (sound.seats session seat seated) arrived
    rcases alone.resume sound with ⟨outcome, ended, quiet⟩ | ⟨next, waits, goesOn, fewer⟩
    · have resumed : manager.resume id = (some outcome, (manager.resume id).2) := by rw [← ended]
      rw [finish, resumed]
      exact ⟨outcome, rfl, .answer head resumed (.done quiet)⟩
    · have resumed : manager.resume id = (none, (manager.resume id).2) := by rw [← waits]
      have later : next ≠ .arriving := by
        rintro rfl
        cases phase <;> simp [Phase.stepsLeft] at fewer
      obtain ⟨outcome, told, drains⟩ := ih goesOn (sound.resume alone.found) later (by omega)
      rw [finish_of_wait resumed]
      exact ⟨outcome, told, .wait head resumed drains⟩

/-- A call that comes behind the others is answered as if it came when they had ended. -/
theorem Drains.spawn_listed (drains : Drains session manager answers last)
    (ours : Ours session issued [] manager) (new : id ∉ issued)
    (listed : (manager.listed? session).isSome = true) (request : Request) :
    ∃ outcome, (last.ask id session request).1 = some outcome ∧
      Drains session (manager.spawn id session request).2 (answers ++ [(id, outcome)])
        (last.ask id session request).2 := by
  have fresh := ours.fresh new
  induction drains with
  | @done manager quiet =>
    have alone : (manager.spawn id session request).2.Alone id ⟨session, request, .waiting⟩ :=
      ⟨calls_spawn fresh listed request, fun other different => by
        rw [calls_spawn_other different.symm fresh listed, quiet]
        rfl⟩
    rw [ask_of_listed fresh listed]
    exact alone.drains (ours.spawn new request).sound (by simp) (by simp [Phase.stepsLeft])
  | @answer manager after last first outcome answers head resumed goesOn ih =>
    obtain ⟨different, stays⟩ := ours.first?_spawn new listed head request
    have moved := ours.resume_spawn new different request
    have same := ours.listed first
    rw [resumed] at moved same
    obtain ⟨told, asked, drains⟩ :=
      ih (ours.resumed resumed) (same.trans listed) ((ours.resumed resumed).fresh new)
    exact ⟨told, asked, .answer stays moved drains⟩
  | @wait manager after last first answers head resumed goesOn ih =>
    obtain ⟨different, stays⟩ := ours.first?_spawn new listed head request
    have moved := ours.resume_spawn new different request
    have same := ours.listed first
    rw [resumed] at moved same
    obtain ⟨told, asked, drains⟩ :=
      ih (ours.resumed resumed) (same.trans listed) ((ours.resumed resumed).fresh new)
    exact ⟨told, asked, .wait stays moved drains⟩

end Manager

end RecordLocks
