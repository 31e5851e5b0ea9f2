import RecordLocks.Proofs.Reachable
namespace RecordLocks.Manager

variable {manager : Manager} {session : SessionId} {seat : Seat} {count : Nat}

/-- The owner of the lock has been removed, and none of its calls can still release it. -/
def Orphaned (manager : Manager) (resource : ResourceId) (session : SessionId) : Prop :=
  manager.locks.holder resource = some session ∧ manager.listed? session = none ∧
    ¬ manager.Pending session

instance (manager : Manager) (resource : ResourceId) (session : SessionId) :
    Decidable (manager.Orphaned resource session) :=
  inferInstanceAs (Decidable (_ ∧ _ ∧ _))

/-- The act cancels a removal of the session that waits to be served. -/
def Abandons (manager : Manager) (act : Act) (session : SessionId) : Prop :=
  ∃ id phase, act = .cancel id ∧
    manager.calls.get? id = some ⟨session, .removeSession, phase⟩

/-- Some removal of the session has been cancelled in the run. -/
def Abandoned (manager : Manager) (acts : List Act) (session : SessionId) : Prop :=
  ∃ earlier act later, acts = earlier ++ act :: later ∧
    (manager.run earlier).Abandons act session

theorem abandoned_append {acts : List Act} {act : Act} :
    manager.Abandoned (acts ++ [act]) session ↔
      manager.Abandoned acts session ∨ (manager.run acts).Abandons act session := by
  constructor
  · rintro ⟨earlier, cancelling, later, split, abandons⟩
    rcases List.eq_nil_or_concat later with rfl | ⟨rest, last, rfl⟩
    · obtain ⟨rfl, same⟩ := List.append_inj' split rfl
      cases same
      exact .inr abandons
    · rw [List.concat_eq_append, ← List.cons_append, ← List.append_assoc] at split
      obtain ⟨rfl, -⟩ := List.append_inj' split rfl
      exact .inl ⟨earlier, cancelling, rest, rfl, abandons⟩
  · rintro (⟨earlier, cancelling, later, rfl, abandons⟩ | abandons)
    · exact ⟨earlier, cancelling, later ++ [act], by simp, abandons⟩
    · exact ⟨acts, act, [], rfl, abandons⟩

/-- A removal of the session has been issued and has not ended. -/
def Leaving (manager : Manager) (session : SessionId) : Prop :=
  ∃ id phase, manager.calls.get? id = some ⟨session, .removeSession, phase⟩

/-- Only its removal closes a session, and it ends with that. -/
theorem leaving_resume (sound : manager.Sound) (id : CallId) (leaving : manager.Leaving session) :
    (manager.resume id).2.Leaving session ∨
      ∃ seat, (manager.resume id).2.seats.get? session = some seat ∧ seat.closed = true := by
  obtain ⟨removal, phase, found⟩ := leaving
  by_cases same : removal = id
  · subst same
    obtain ⟨seat, seated⟩ := sound.seated removal _ found
    have fits := sound.fits removal _ found
    have advanced := resume_advance sound found seated
    generalize (manager.resume removal).1 = outcome at advanced
    generalize (manager.resume removal).2 = after at advanced
    cases advanced with
    | queued => exact .inl ⟨removal, .waiting, by simp [setCall, Index.get?_insert]⟩
    | behind => exact .inl ⟨removal, .waiting, found⟩
    | removed =>
      right
      simp [record, releaseAll, applyLocks, setSeat, Index.get?_insert]
    | shut head closed other => exact absurd rfl other
    | contended head live opens held foreign => cases opens
    | opened head live opens free => cases opens
    | notCheckedOut head live missing needs =>
      rcases needs with ⟨field, value, asked⟩ | asked <;> cases asked
    | vanished missing => cases fits
    | worked =>
      obtain ⟨field, value, asked⟩ := fits
      cases asked
    | readDone copied => cases fits
    | refused missing => rcases fits with ⟨field, value, asked⟩ | asked <;> cases asked
    | stored present => rcases fits with ⟨field, value, asked⟩ | asked <;> cases asked
  · exact .inl ⟨removal, phase, (calls_resume_other sound same).trans found⟩

/-- A removal goes on until it closes its session or is cancelled. -/
theorem leaving_step (sound : manager.Sound) (act : Act) (leaving : manager.Leaving session) :
    (manager.step act).Leaving session ∨ manager.Abandons act session ∨
      ∃ seat, (manager.step act).seats.get? session = some seat ∧ seat.closed = true := by
  obtain ⟨removal, phase, found⟩ := leaving
  cases act with
  | enter | turnAway | store => exact .inl ⟨removal, phase, found⟩
  | enlist entrant =>
    refine .inl ⟨removal, phase, ?_⟩
    simp only [step, enlist]
    split
    · exact found
    · exact found
  | issue id caller request =>
    refine .inl ⟨removal, phase, ?_⟩
    rcases issue_cases manager id caller request with same | ⟨seat, fresh, -, -, issued⟩
    · simp only [step, same]
      exact found
    · have different : id ≠ removal := by
        rintro rfl
        rw [fresh] at found
        cases found
      simp [step, issued, setCall, setSeat, Index.get?_insert, different, found]
  | resume id =>
    rcases leaving_resume sound id ⟨removal, phase, found⟩ with stays | closed
    · exact .inl stays
    · exact .inr (.inr closed)
  | cancel id =>
    by_cases same : removal = id
    · subst same
      exact .inr (.inl ⟨removal, phase, rfl, found⟩)
    · exact .inl ⟨removal, phase, (calls_cancel_other same).trans found⟩

/-- A session that has its place keeps it, is not listed again and does not open again. -/
theorem seat_step (sound : manager.Sound) (numbered : manager.Numbered count) (act : Act)
    (seated : manager.seats.get? session = some seat) :
    ∃ changed, (manager.step act).seats.get? session = some changed ∧
      (seat.closed = true → changed.closed = true) ∧
      (changed.listed = seat.listed ∨
        changed.listed = false ∧ (manager.step act).Leaving session) := by
  cases act with
  | enter | turnAway | store => exact ⟨seat, seated, fun closed => closed, .inl rfl⟩
  | enlist entrant =>
    refine ⟨seat, ?_, fun closed => closed, .inl rfl⟩
    simp only [step]
    cases entered : manager.entrants.get? entrant with
    | none =>
      rw [enlist, entered]
      exact seated
    | some user =>
      have different : entrant ≠ session := by
        rintro rfl
        rw [(numbered.entrants entrant user entered).2] at seated
        cases seated
      rw [enlist_of_entrant entered]
      simp [record, setSeat, turnAway, Index.get?_insert, different, seated]
  | issue id caller request =>
    simp only [step]
    rcases issue_cases manager id caller request with same | ⟨there, fresh, found, listed, issued⟩
    · rw [same]
      exact ⟨seat, seated, fun closed => closed, .inl rfl⟩
    · by_cases own : caller = session
      · subst own
        rw [seated] at found
        cases found
        rw [issued]
        refine ⟨{ seat with listed := decide (request ≠ .removeSession) },
          by simp [setCall, setSeat, Index.get?_insert], fun closed => closed, ?_⟩
        by_cases removal : request = .removeSession
        · right
          exact ⟨by simp [removal], id, .arriving, by simp [setCall, Index.get?_insert, removal]⟩
        · left
          simp [removal, listed]
      · have apart : Apart caller manager (manager.issue id caller request).2 := apart_issue
        exact ⟨seat, (apart.seats session (Ne.symm own)).trans seated, fun closed => closed,
          .inl rfl⟩
  | resume id =>
    simp only [step]
    cases found : manager.calls.get? id with
    | none =>
      rw [resume_of_none found]
      exact ⟨seat, seated, fun closed => closed, .inl rfl⟩
    | some call =>
      obtain ⟨there, placed⟩ := sound.seated id call found
      have advanced := resume_advance sound found placed
      by_cases own : call.session = session
      · subst own
        rw [seated] at placed
        cases placed
        obtain ⟨changed, reseated, listed, -, closed⟩ := advanced.reseated seated
        exact ⟨changed, reseated, closed, .inl listed⟩
      · exact ⟨seat, ((advanced.apart found).seats session (Ne.symm own)).trans seated,
          fun closed => closed, .inl rfl⟩
  | cancel id =>
    simp only [step]
    cases found : manager.calls.get? id with
    | none =>
      rw [cancel_of_none found]
      exact ⟨seat, seated, fun closed => closed, .inl rfl⟩
    | some call =>
      by_cases own : call.session = session
      · subst own
        cases opened : call.phase.window? with
        | none => simp [cancel_of_outside found opened, seated]
        | some resource => simp [cancel_of_window found opened, seated]
      · exact ⟨seat, ((apart_cancel found).seats session (Ne.symm own)).trans seated,
          fun closed => closed, .inl rfl⟩

/-- A session gets its place when it is listed. -/
theorem new_seat_listed (sound : manager.Sound) (act : Act)
    (new : manager.seats.get? session = none) {changed : Seat}
    (seated : (manager.step act).seats.get? session = some changed) : changed.listed = true := by
  have absent : manager.seats.get? session ≠ some changed := by
    rw [new]
    intro found
    cases found
  have uncalled : act.isCall = false := by
    by_contra call
    rcases sound.step_call (by simpa using call) with same | ⟨caller, there, placed, apart⟩
    · rw [same] at seated
      exact absent seated
    · have different : session ≠ caller := by
        rintro rfl
        rw [new] at placed
        cases placed
      rw [apart.seats session different] at seated
      exact absent seated
  cases act with
  | issue | resume | cancel => cases uncalled
  | enter | turnAway | store => exact absurd seated absent
  | enlist entrant =>
    simp only [step] at seated
    cases entered : manager.entrants.get? entrant with
    | none =>
      rw [enlist, entered] at seated
      exact absurd seated absent
    | some user =>
      rw [enlist_of_entrant entered] at seated
      simp only [record, setSeat, turnAway, Index.get?_insert, new] at seated
      split at seated
      · cases seated
        rfl
      · cases seated

/-- A session that is not listed any more is closed, or its removal goes on or was given up. -/
structure Departed (manager : Manager) (abandoned : SessionId → Prop) : Prop where
  gone : ∀ session seat, manager.seats.get? session = some seat → seat.listed = false →
    seat.closed = true ∨ manager.Leaving session ∨ abandoned session
  unlisted : ∀ session, abandoned session →
    ∃ seat, manager.seats.get? session = some seat ∧ seat.listed = false

theorem departed_step (sound : manager.Sound) (numbered : manager.Numbered count)
    {abandoned : SessionId → Prop} (departed : manager.Departed abandoned) (act : Act) :
    (manager.step act).Departed fun session =>
      abandoned session ∨ manager.Abandons act session := by
  have keeps : ∀ session, (∃ seat, manager.seats.get? session = some seat ∧ seat.listed = false) →
      ∃ seat, (manager.step act).seats.get? session = some seat ∧ seat.listed = false := by
    rintro session ⟨seat, seated, unlisted⟩
    obtain ⟨changed, reseated, -, same | ⟨gone, -⟩⟩ := seat_step sound numbered act seated
    · exact ⟨changed, reseated, same.trans unlisted⟩
    · exact ⟨changed, reseated, gone⟩
  constructor
  · intro session changed reseated gone
    cases seated : manager.seats.get? session with
    | none =>
      have listed := new_seat_listed sound act seated reseated
      rw [gone] at listed
      cases listed
    | some seat =>
      obtain ⟨there, same, closes, kept | ⟨-, leaving⟩⟩ := seat_step sound numbered act seated
      · rw [reseated] at same
        cases same
        -- It was gone before, so the act can only end its removal, by serving or cancelling it.
        rcases departed.gone session seat seated (kept.symm.trans gone) with
          closed | leaving | abandoned
        · exact .inl (closes closed)
        · rcases leaving_step sound act leaving with stays | abandons | ⟨there, same, closed⟩
          · exact .inr (.inl stays)
          · exact .inr (.inr (.inr abandons))
          · rw [reseated] at same
            cases same
            exact .inl closed
        · exact .inr (.inr (.inl abandoned))
      · exact .inr (.inl leaving)
  · rintro session (before | ⟨id, phase, -, found⟩)
    · exact keeps session (departed.unlisted session before)
    · obtain ⟨seat, seated⟩ := sound.seated id _ found
      have here := sound.seats session seat seated
      exact keeps session ⟨seat, seated, here.leaving id phase found⟩

theorem departed_run (store : RecordStore) (acts : List Act)
    (few : Act.openings acts ≤ 2 ^ 64) :
    ((start store).run acts).Departed ((start store).Abandoned acts) := by
  induction acts using List.reverseRecOn with
  | nil =>
    constructor
    · intro session seat seated
      cases seated
    · rintro session ⟨earlier, act, later, split, -⟩
      simp at split
  | append_singleton earlier act ih =>
    rw [Act.openings_append] at few
    have before : Act.openings earlier ≤ 2 ^ 64 := by omega
    obtain ⟨sound, numbered⟩ := sound_run store earlier before
    have departed := departed_step sound numbered (ih before) act
    rw [run_append, run_singleton]
    constructor
    · intro session seat seated unlisted
      rw [abandoned_append]
      exact departed.gone session seat seated unlisted
    · intro session abandoned
      exact departed.unlisted session (abandoned_append.mp abandoned)

theorem Orphaned.apart {after : Manager} {resource : ResourceId} {caller : SessionId}
    (orphaned : manager.Orphaned resource session) (apart : Apart caller manager after)
    (different : session ≠ caller) : after.Orphaned resource session := by
  obtain ⟨held, unlisted, quiet⟩ := orphaned
  refine ⟨(apart.locks resource session different).mpr held, ?_, ?_⟩
  · rw [listed?, apart.seats session different]
    exact unlisted
  · rintro ⟨id, call, found, own⟩
    exact quiet ⟨id, call, (apart.calls id call (own ▸ different)).mp found, own⟩

theorem Orphaned.step {resource : ResourceId} (orphaned : manager.Orphaned resource session)
    (sound : manager.Sound) (numbered : manager.Numbered count) (act : Act) :
    (manager.step act).Orphaned resource session := by
  obtain ⟨held, unlisted, quiet⟩ := orphaned
  obtain ⟨seat, seated⟩ := sound.owned resource session held
  have gone : seat.listed = false := by
    simpa [listed?, seated, Option.filter] using unlisted
  have idle : ∀ id call, manager.calls.get? id = some call → session ≠ call.session := by
    intro id call found own
    exact quiet ⟨id, call, found, own.symm⟩
  cases act with
  | enter | turnAway | store => exact ⟨held, unlisted, quiet⟩
  | enlist entrant =>
    rw [Manager.step]
    cases entered : manager.entrants.get? entrant with
    | none =>
      rw [enlist, entered]
      exact ⟨held, unlisted, quiet⟩
    | some user =>
      have different : entrant ≠ session := by
        intro same
        have new := (numbered.entrants entrant user entered).2
        rw [same, seated] at new
        cases new
      rw [enlist_of_entrant entered]
      refine ⟨held, ?_, quiet⟩
      simp [listed?, record, setSeat, turnAway, Index.get?_insert, different, seated, gone,
        Option.filter]
  | issue id caller request =>
    rw [Manager.step]
    rcases issue_cases manager id caller request with same | ⟨there, -, found, listed, -⟩
    · rw [same]
      exact ⟨held, unlisted, quiet⟩
    · have different : session ≠ caller := by
        intro same
        rw [← same, seated] at found
        cases found
        rw [gone] at listed
        cases listed
      exact Orphaned.apart ⟨held, unlisted, quiet⟩ apart_issue different
  | resume id =>
    rw [Manager.step]
    cases found : manager.calls.get? id with
    | none =>
      rw [resume_of_none found]
      exact ⟨held, unlisted, quiet⟩
    | some call =>
      obtain ⟨there, placed⟩ := sound.seated id call found
      exact Orphaned.apart ⟨held, unlisted, quiet⟩ ((resume_advance sound found placed).apart found)
        (idle id call found)
  | cancel id =>
    rw [Manager.step]
    cases found : manager.calls.get? id with
    | none =>
      rw [cancel_of_none found]
      exact ⟨held, unlisted, quiet⟩
    | some call =>
      exact Orphaned.apart ⟨held, unlisted, quiet⟩ (apart_cancel found) (idle id call found)

/-- Nothing that may still happen gives an orphaned lock back. -/
theorem orphaned_for_good (store : RecordStore) (acts later : List Act)
    (few : Act.openings (acts ++ later) ≤ 2 ^ 64) {resource : ResourceId}
    (orphaned : ((start store).run acts).Orphaned resource session) :
    ((start store).run (acts ++ later)).Orphaned resource session := by
  induction later using List.reverseRecOn with
  | nil =>
    rw [List.append_nil]
    exact orphaned
  | append_singleton earlier act ih =>
    rw [← List.append_assoc, Act.openings_append] at few
    obtain ⟨sound, numbered⟩ := sound_run store (acts ++ earlier) (by omega)
    rw [← List.append_assoc, run_append, run_singleton]
    exact (ih (by omega)).step sound numbered act

/-- A lock is orphaned exactly if a removal of its owner was cancelled before it was served, and
the calls that the owner had issued until then have ended. -/
theorem orphaned_iff_removal_cancelled (store : RecordStore) (acts : List Act)
    (few : Act.openings acts ≤ 2 ^ 64) (resource : ResourceId) (session : SessionId) :
    ((start store).run acts).Orphaned resource session ↔
      ((start store).run acts).locks.holder resource = some session ∧
        ¬ ((start store).run acts).Pending session ∧ (start store).Abandoned acts session := by
  have sound := (sound_run store acts few).1
  have departed := departed_run store acts few
  constructor
  · rintro ⟨held, unlisted, quiet⟩
    refine ⟨held, quiet, ?_⟩
    obtain ⟨seat, seated⟩ := sound.owned resource session held
    have gone : seat.listed = false := by
      simpa [listed?, seated, Option.filter] using unlisted
    rcases departed.gone session seat seated gone with closed | ⟨id, phase, found⟩ | abandoned
    · exact absurd held (((sound.seats session seat seated).closed closed).2 resource)
    · exact absurd ⟨id, _, found, rfl⟩ quiet
    · exact abandoned
  · rintro ⟨held, quiet, abandoned⟩
    obtain ⟨seat, seated, gone⟩ := departed.unlisted session abandoned
    exact ⟨held, by simp [listed?, seated, Option.filter, gone], quiet⟩

/-- A session has a record checked out and is at work on another one when its removal is issued.
The removal is cancelled while it stands behind that work, which then ends. -/
def removalGivenUp : List Act :=
  [.enter "ann", .enlist ⟨0⟩, .issue 0 ⟨0⟩ (.checkout 7), .resume 0, .resume 0, .resume 0,
    .issue 1 ⟨0⟩ (.write 8 .title "new"), .resume 1, .resume 1, .issue 2 ⟨0⟩ .removeSession,
    .resume 2, .cancel 2, .resume 1, .resume 1, .resume 1]

theorem removalGivenUp_orphans :
    Act.openings removalGivenUp ≤ 2 ^ 64 ∧
      ((start (.ofBooks [.titled 7 "one", .titled 8 "two"])).run
        removalGivenUp).Orphaned 7 ⟨0⟩ := by
  decide

theorem orphaned_iff_of_removalGivenUp :
    Act.openings removalGivenUp ≤ 2 ^ 64 ∧
      (start (.ofBooks [.titled 7 "one", .titled 8 "two"])).Abandoned removalGivenUp ⟨0⟩ := by
  have few : Act.openings removalGivenUp ≤ 2 ^ 64 := by decide
  have orphaned : ((start (.ofBooks [.titled 7 "one", .titled 8 "two"])).run
      removalGivenUp).Orphaned 7 ⟨0⟩ := by decide
  exact ⟨few, ((orphaned_iff_removal_cancelled _ _ few 7 ⟨0⟩).mp orphaned).2.2⟩

end RecordLocks.Manager
