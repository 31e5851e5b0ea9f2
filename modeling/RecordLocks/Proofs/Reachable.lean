import Mathlib.Algebra.Ring.Nat
import Mathlib.Data.List.Induction
import RecordLocks.Proofs.Preservation
namespace RecordLocks.Manager

variable {manager after : Manager} {id : CallId} {session : SessionId} {request : Request}
  {seat : Seat}

theorem resume_of_none (missing : manager.calls.get? id = none) :
    manager.resume id = (none, manager) := by
  simp [resume, missing]

theorem cancel_of_none (missing : manager.calls.get? id = none) : manager.cancel id = manager := by
  simp [cancel, missing]

theorem cancel_of_window {call : Call} (found : manager.calls.get? id = some call)
    {resource : ResourceId} (opened : call.phase.window? = some resource) :
    manager.cancel id =
      (manager.closeWindow call.session resource).forget id call.session := by
  simp [cancel, found, opened]

theorem cancel_of_outside {call : Call} (found : manager.calls.get? id = some call)
    (outside : call.phase.window? = none) : manager.cancel id = manager.forget id call.session := by
  simp [cancel, found, outside]

theorem store_cancel (manager : Manager) (id : CallId) :
    (manager.cancel id).store = manager.store := by
  cases found : manager.calls.get? id with
  | none => rw [cancel_of_none found]
  | some call =>
    cases opened : call.phase.window? with
    | none => simp [cancel_of_outside found opened]
    | some resource => simp [cancel_of_window found opened]

/-- What issuing a call does if its session is listed. A removal unlists the session. -/
theorem issue_of_listed (fresh : manager.calls.get? id = none)
    (seated : manager.seats.get? session = some seat) (listed : seat.listed = true) :
    manager.issue id session request =
      (none, (manager.setSeat session
        { seat with listed := decide (request ≠ .removeSession) }).setCall id
          ⟨session, request, .arriving⟩) := by
  have found : manager.listed? session = some seat := by
    simp [listed?, seated, Option.filter, listed]
  have new : manager.calls.contains id = false := by
    simp [Index.contains, fresh]
  by_cases removal : request = .removeSession
  · simp [issue, new, found, removal]
  · have same : { seat with listed := true } = seat := by
      rw [← listed]
    have kept : manager.setSeat session seat = manager := setSession_same seated
    simp [issue, new, found, removal, same, kept]

theorem issue_of_unlisted (fresh : manager.calls.get? id = none)
    (unlisted : ∀ seat, manager.seats.get? session = some seat → seat.listed = false) :
    manager.issue id session request =
      (some (.error (.sessionNotFound session)), manager) := by
  have missing : manager.listed? session = none := by
    cases seated : manager.seats.get? session with
    | none => simp [listed?, seated]
    | some seat => simp [listed?, seated, Option.filter, unlisted seat seated]
  simp [issue, Index.contains, fresh, missing]

theorem issue_of_used {call : Call} (used : manager.calls.get? id = some call) :
    manager.issue id session request = (none, manager) := by
  simp [issue, Index.contains, used]

/-- A new call finds its session, or is answered at once that there is none. -/
theorem issue_fresh (fresh : manager.calls.get? id = none) (session : SessionId)
    (request : Request) :
    (∃ seat, manager.seats.get? session = some seat ∧ seat.listed = true ∧
      manager.issue id session request =
        (none, (manager.setSeat session
          { seat with listed := decide (request ≠ .removeSession) }).setCall id
            ⟨session, request, .arriving⟩)) ∨
      (∀ seat, manager.seats.get? session = some seat → seat.listed = false) ∧
        manager.issue id session request =
          (some (.error (.sessionNotFound session)), manager) := by
  by_cases listed : ∃ seat, manager.seats.get? session = some seat ∧ seat.listed = true
  · obtain ⟨seat, seated, listed⟩ := listed
    exact .inl ⟨seat, seated, listed, issue_of_listed fresh seated listed⟩
  · right
    have unlisted : ∀ seat, manager.seats.get? session = some seat → seat.listed = false := by
      intro seat seated
      cases stays : seat.listed with
      | false => rfl
      | true => exact absurd ⟨seat, seated, stays⟩ listed
    exact ⟨unlisted, issue_of_unlisted fresh unlisted⟩

/-- Issuing a call changes nothing, or the call has found its session. -/
theorem issue_cases (manager : Manager) (id : CallId) (session : SessionId) (request : Request) :
    (manager.issue id session request).2 = manager ∨
      ∃ seat, manager.calls.get? id = none ∧ manager.seats.get? session = some seat ∧
        seat.listed = true ∧
        manager.issue id session request =
          (none, (manager.setSeat session
            { seat with listed := decide (request ≠ .removeSession) }).setCall id
              ⟨session, request, .arriving⟩) := by
  cases used : manager.calls.get? id with
  | some call => exact .inl (by rw [issue_of_used used])
  | none =>
    rcases issue_fresh used session request with ⟨seat, seated, listed, issued⟩ | ⟨-, refused⟩
    · exact .inr ⟨seat, rfl, seated, listed, issued⟩
    · exact .inl (by rw [refused])

theorem store_issue (manager : Manager) (id : CallId) (session : SessionId) (request : Request) :
    (manager.issue id session request).2.store = manager.store := by
  rcases issue_cases manager id session request with same | ⟨seat, -, -, -, issued⟩
  · rw [same]
  · rw [issued]
    rfl

theorem trail_issue (manager : Manager) (id : CallId) (session : SessionId) (request : Request) :
    (manager.issue id session request).2.trail = manager.trail := by
  rcases issue_cases manager id session request with same | ⟨seat, -, -, -, issued⟩
  · rw [same]
  · rw [issued]
    rfl

theorem store_enlist (manager : Manager) (session : SessionId) :
    (manager.enlist session).store = manager.store := by
  simp only [enlist]
  split <;> rfl

theorem apart_issue : Apart session manager (manager.issue id session request).2 := by
  rcases issue_cases manager id session request with same | ⟨seat, fresh, -, -, issued⟩
  · rw [same]
    exact .refl
  · rw [issued]
    exact .newCall (.setSeat _) rfl fresh rfl

theorem Sound.issue (sound : manager.Sound) : (manager.issue id session request).2.Sound := by
  have apart : Apart session manager (manager.issue id session request).2 := apart_issue
  rcases issue_cases manager id session request with same | ⟨seat, fresh, seated, listed, issued⟩
  · rw [same]
    exact sound
  rw [issued] at apart ⊢
  have here := sound.seats session seat seated
  have outside : id ∉ seat.line := by
    intro member
    obtain ⟨call, there, -⟩ := (here.line.mem_iff id).mp member
    rw [fresh] at there
    cases there
  have line : InLine (manager.calls.insert id ⟨session, request, .arriving⟩) session seat.line := by
    refine ⟨here.line.nodup, ?_, ?_⟩
    · intro other
      rw [Index.get?_insert]
      by_cases same : id = other
      · subst same
        simp [outside]
      · rw [if_neg same]
        exact here.line.mem_iff other
    · intro other member
      have different : id ≠ other := by
        rintro rfl
        exact outside (List.mem_of_mem_tail member)
      rw [Index.get?_insert, if_neg different]
      exact here.line.behind other member
  have phase : ((manager.setSeat session
      { seat with listed := decide (request ≠ .removeSession) }).setCall id
        ⟨session, request, .arriving⟩).phaseAt
          { seat with listed := decide (request ≠ .removeSession) } = manager.phaseAt seat := by
    cases split : seat.line with
    | nil => simp [phaseAt, served?, split]
    | cons first rest =>
      have different : id ≠ first := by
        rintro rfl
        exact outside (by simp [split])
      simp [phaseAt, served?, split, setCall, setSeat, Index.get?_insert, different]
  have reseated : ((manager.setSeat session
      { seat with listed := decide (request ≠ .removeSession) }).setCall id
        ⟨session, request, .arriving⟩).seats.get? session =
          some { seat with listed := decide (request ≠ .removeSession) } := by
    simp [setCall, setSeat, Index.get?_insert]
  apply sound.of_apart apart reseated
  · intro other there inside own
    have arrives : Call.Fits ⟨session, request, .arriving⟩ := trivial
    exact sound.fits_insert arrives inside
  · refine ⟨here.named, line, ?_, ?_, ?_⟩
    · rw [phase]
      exact here.tally
    · intro other phase there
      rw [setCall, Index.get?_insert] at there
      split at there
      · cases there
        simp
      · have unlisted := here.leaving other phase there
        rw [listed] at unlisted
        cases unlisted
    · intro closed
      have unlisted := (here.closed closed).1
      rw [listed] at unlisted
      cases unlisted

theorem Sound.cancel (sound : manager.Sound) : (manager.cancel id).Sound := by
  cases found : manager.calls.get? id with
  | none =>
    rw [cancel_of_none found]
    exact sound
  | some call =>
    obtain ⟨session, request, phase⟩ := call
    cases opened : phase.window? with
    | some resource =>
      rw [cancel_of_window found opened]
      exact sound.close found opened
    | none =>
      obtain ⟨seat, seated⟩ := sound.seated id _ found
      have here := sound.seats session seat seated
      rw [cancel_of_outside found opened]
      refine sound.drop found seated (.refl seated) ?_ here.closed
      split
      · rename_i head
        have tally := here.tally_served head found
        cases phase with
        | arriving | waiting => exact tally
        | loading | writing | reading | storing => cases opened
      · exact here.tally

/-- A new session has no calls and no locks. -/
theorem Sound.setSeat_start (sound : manager.Sound) (new : manager.seats.get? session = none)
    (user : String) : (manager.setSeat session ⟨.start session user, [], true, false⟩).Sound := by
  have idle : ∀ id call, manager.calls.get? id = some call → call.session ≠ session := by
    rintro id call found rfl
    obtain ⟨seat, seated⟩ := sound.seated id call found
    rw [new] at seated
    cases seated
  have bare : ∀ resource, manager.locks.holder resource ≠ some session := by
    intro resource held
    obtain ⟨seat, seated⟩ := sound.owned resource session held
    rw [new] at seated
    cases seated
  have reseated : (manager.setSeat session ⟨.start session user, [], true, false⟩).seats.get?
      session = some ⟨.start session user, [], true, false⟩ := by
    simp [setSeat, Index.get?_insert]
  apply sound.of_apart (.setSeat _) reseated
  · intro id call found own
    exact absurd own (idle id call found)
  · refine ⟨rfl, ?_, ?_, ?_, by simp⟩
    · refine ⟨List.nodup_nil, ?_, by simp⟩
      intro id
      simp only [List.not_mem_nil, false_iff]
      rintro ⟨call, found, own, -⟩
      exact idle id call found own
    · intro resource
      simpa [setSeat] using bare resource
    · intro id phase found
      exact absurd rfl (idle id _ found)

/-- The first `count` numbers have been given out, each to one session. -/
structure Numbered (count : Nat) (manager : Manager) : Prop where
  next : manager.nextSession = UInt64.ofNat count
  entrants : ∀ session user, manager.entrants.get? session = some user →
    session.number.toNat < count ∧ manager.seats.get? session = none
  seats : ∀ session seat, manager.seats.get? session = some seat → session.number.toNat < count

theorem numbered_start (store : RecordStore) : (start store).Numbered 0 := by
  refine ⟨rfl, ?_, ?_⟩
  · intro session user entered
    cases entered
  · intro session seat seated
    cases seated

theorem Numbered.of_apart {count : Nat} (numbered : manager.Numbered count)
    (apart : Apart session manager after) (seated : manager.seats.get? session = some seat) :
    after.Numbered count := by
  refine ⟨apart.nextSession.trans numbered.next, ?_, ?_⟩
  · intro other user entered
    rw [apart.entrants] at entered
    obtain ⟨below, new⟩ := numbered.entrants other user entered
    refine ⟨below, ?_⟩
    by_cases own : other = session
    · rw [own, seated] at new
      cases new
    · rw [apart.seats other own]
      exact new
  · intro other there found
    by_cases own : other = session
    · rw [own]
      exact numbered.seats session seat seated
    · rw [apart.seats other own] at found
      exact numbered.seats other there found

theorem Numbered.enter {count : Nat} (numbered : manager.Numbered count) (few : count < 2 ^ 64)
    (user : String) : (manager.enter user).2.Numbered (count + 1) := by
  have number : manager.nextSession.toNat = count := by
    rw [numbered.next]
    exact UInt64.toNat_ofNat_of_lt few
  constructor
  · simp only [Manager.enter, numbered.next]
    exact (UInt64.ofNat_add count 1).symm
  · intro other name entered
    simp only [Manager.enter, Index.get?_insert] at entered ⊢
    split at entered
    · rename_i same
      subst same
      refine ⟨by simp only [number]; omega, ?_⟩
      cases seated : manager.seats.get? ⟨manager.nextSession⟩ with
      | none => rfl
      | some seat =>
        have below := numbered.seats _ seat seated
        simp only [number] at below
        omega
    · obtain ⟨below, new⟩ := numbered.entrants other name entered
      exact ⟨by omega, new⟩
  · intro other seat seated
    have below := numbered.seats other seat seated
    omega

theorem Numbered.turnAway {count : Nat} (numbered : manager.Numbered count) :
    (manager.turnAway session).Numbered count := by
  refine ⟨numbered.next, ?_, numbered.seats⟩
  intro other user entered
  simp only [Manager.turnAway, Index.get?_erase] at entered
  split at entered
  · cases entered
  · exact numbered.entrants other user entered

theorem enlist_of_entrant {user : String} (entered : manager.entrants.get? session = some user) :
    manager.enlist session =
      ((manager.turnAway session).setSeat session ⟨.start session user, [], true, false⟩).record
        (.sessionStarted session user) := by
  simp [enlist, entered]

theorem Numbered.enlist {count : Nat} (numbered : manager.Numbered count) :
    (manager.enlist session).Numbered count := by
  cases entered : manager.entrants.get? session with
  | none =>
    rw [Manager.enlist, entered]
    exact numbered
  | some user =>
    rw [enlist_of_entrant entered]
    refine ⟨numbered.next, ?_, ?_⟩
    · intro other name waits
      simp only [record, setSeat, Manager.turnAway, Index.get?_erase] at waits
      split at waits
      · cases waits
      · rename_i different
        obtain ⟨below, new⟩ := numbered.entrants other name waits
        refine ⟨below, ?_⟩
        simpa [record, setSeat, Manager.turnAway, Index.get?_insert, different] using new
    · intro other seat seated
      simp only [record, setSeat, Manager.turnAway, Index.get?_insert] at seated
      split at seated
      · rename_i same
        rw [← same]
        exact (numbered.entrants session user entered).1
      · exact numbered.seats other seat seated

theorem Sound.enlist {count : Nat} (sound : manager.Sound) (numbered : manager.Numbered count) :
    (manager.enlist session).Sound := by
  cases entered : manager.entrants.get? session with
  | none =>
    rw [Manager.enlist, entered]
    exact sound
  | some user =>
    rw [enlist_of_entrant entered]
    have before : (manager.turnAway session).Sound := sound.of_eq rfl rfl rfl
    have new := (numbered.entrants session user entered).2
    exact (before.setSeat_start new user).of_eq rfl rfl rfl

theorem apart_cancel {call : Call} (found : manager.calls.get? id = some call) :
    Apart call.session manager (manager.cancel id) := by
  cases opened : call.phase.window? with
  | some resource =>
    rw [cancel_of_window found opened]
    exact .forget .closeWindow (calls_closeWindow _ _ _) found rfl
  | none =>
    rw [cancel_of_outside found opened]
    exact .forget .refl rfl found rfl

/-- What is done about a call changes nothing, or only what belongs to the session that it is a
call of. -/
theorem Sound.step_call (sound : manager.Sound) {act : Act} (call : act.isCall = true) :
    manager.step act = manager ∨
      ∃ caller seat, manager.seats.get? caller = some seat ∧
        Apart caller manager (manager.step act) := by
  cases act with
  | enter | enlist | turnAway | store => cases call
  | issue id session request =>
    rcases issue_cases manager id session request with same | ⟨seat, -, seated, -, -⟩
    · exact .inl same
    · exact .inr ⟨session, seat, seated, apart_issue⟩
  | resume id =>
    cases found : manager.calls.get? id with
    | none =>
      left
      rw [Manager.step, resume_of_none found]
    | some call =>
      obtain ⟨seat, seated⟩ := sound.seated id call found
      exact .inr ⟨call.session, seat, seated, (resume_advance sound found seated).apart found⟩
  | cancel id =>
    cases found : manager.calls.get? id with
    | none => exact .inl (cancel_of_none found)
    | some call =>
      obtain ⟨seat, seated⟩ := sound.seated id call found
      exact .inr ⟨call.session, seat, seated, apart_cancel found⟩

theorem calls_resume_other (sound : manager.Sound) {other : CallId} (different : other ≠ id) :
    (manager.resume id).2.calls.get? other = manager.calls.get? other := by
  cases found : manager.calls.get? id with
  | none => rw [resume_of_none found]
  | some call =>
    obtain ⟨seat, seated⟩ := sound.seated id call found
    exact (resume_advance sound found seated).calls_other different

theorem calls_cancel_other {other : CallId} (different : other ≠ id) :
    (manager.cancel id).calls.get? other = manager.calls.get? other := by
  cases found : manager.calls.get? id with
  | none => rw [cancel_of_none found]
  | some call =>
    cases opened : call.phase.window? with
    | none => simp [cancel_of_outside found opened, Index.get?_erase, different.symm]
    | some resource => simp [cancel_of_window found opened, Index.get?_erase, different.symm]

theorem Sound.step {count : Nat} (sound : manager.Sound) (numbered : manager.Numbered count)
    (act : Act) : (manager.step act).Sound := by
  cases act with
  | enter user => exact sound.of_eq rfl rfl rfl
  | enlist session => exact sound.enlist numbered
  | turnAway session => exact sound.of_eq rfl rfl rfl
  | issue id session request => exact sound.issue
  | resume id =>
    cases found : manager.calls.get? id with
    | none =>
      simp only [Manager.step, resume_of_none found]
      exact sound
    | some call => exact sound.resume found
  | cancel id => exact sound.cancel
  | store act => exact sound.of_eq rfl rfl rfl

theorem Numbered.step {count : Nat} (numbered : manager.Numbered count) (sound : manager.Sound)
    {act : Act} (few : count + Act.openings [act] ≤ 2 ^ 64) :
    (manager.step act).Numbered (count + Act.openings [act]) := by
  have called : act.isCall = true → (manager.step act).Numbered count := by
    intro call
    rcases sound.step_call call with same | ⟨caller, seat, seated, apart⟩
    · rw [same]
      exact numbered
    · exact numbered.of_apart apart seated
  cases act with
  | enter user => exact numbered.enter few user
  | enlist session => exact numbered.enlist
  | turnAway session => exact numbered.turnAway
  | issue | resume | cancel => exact called rfl
  | store act => exact ⟨numbered.next, numbered.entrants, numbered.seats⟩

/-- Numbers are words, so there are enough of them for `2 ^ 64` sessions. Within this limit every
run leaves a manager in which names, lines, copies and locks agree. -/
theorem sound_run (store : RecordStore) (acts : List Act) (few : Act.openings acts ≤ 2 ^ 64) :
    ((start store).run acts).Sound ∧ ((start store).run acts).Numbered (Act.openings acts) := by
  induction acts using List.reverseRecOn with
  | nil => exact ⟨sound_start store, numbered_start store⟩
  | append_singleton earlier act ih =>
    rw [Act.openings_append] at few
    obtain ⟨sound, numbered⟩ := ih (by omega)
    rw [run_append, run_singleton, Act.openings_append]
    exact ⟨sound.step numbered act, numbered.step sound few⟩

/-- What holds at the start and stays with each act holds after every run. -/
theorem run_induction (store : RecordStore) {holds : List Act → Prop} (begins : holds [])
    (goesOn : ∀ acts act, Act.openings acts ≤ 2 ^ 64 → ((start store).run acts).Sound →
      holds acts → holds (acts ++ [act]))
    (acts : List Act) (few : Act.openings acts ≤ 2 ^ 64) : holds acts := by
  induction acts using List.reverseRecOn with
  | nil => exact begins
  | append_singleton earlier act ih =>
    rw [Act.openings_append] at few
    have before : Act.openings earlier ≤ 2 ^ 64 := by omega
    exact goesOn earlier act before (sound_run store earlier before).1 (ih before)

end RecordLocks.Manager
