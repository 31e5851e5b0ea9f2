import RecordLocks.Proofs.Alone
namespace RecordLocks.Manager

variable {manager : Manager} {session : SessionId} {seat : Seat} {resource : ResourceId}

/-- The session is served a call that has locked the resource and waits for the store to load it. -/
def IsLoading (manager : Manager) (session : SessionId) (seat : Seat) (resource : ResourceId) :
    Prop :=
  ∃ id request, seat.line.head? = some id ∧ request.opens? = some resource ∧
    manager.calls.get? id = some ⟨session, request, .loading resource⟩

theorem SoundSeat.copy_or_loading (sound : manager.SoundSeat session seat)
    (fits : ∀ id call, manager.calls.get? id = some call → call.Fits)
    (held : manager.locks.holder resource = some session) :
    (seat.session.copy? resource).isSome ∨ manager.IsLoading session seat resource := by
  rcases sound.tally.copy_or_loading held with copied | loading
  · exact .inl copied
  · right
    cases split : seat.line with
    | nil =>
      rw [phaseAt_of_empty split] at loading
      cases loading
    | cons first rest =>
      obtain ⟨call, found, own, -⟩ := (sound.line.mem_iff first).mp (by simp [split])
      have head : seat.line.head? = some first := by
        rw [split]
        rfl
      rw [phaseAt_head head found] at loading
      obtain ⟨_, request, phase⟩ := call
      cases own
      cases loading
      exact ⟨first, request, head, fits first _ found, found⟩

/-- A session without calls holds exactly the locks of its copies. -/
theorem SoundSeat.tally_of_not_pending (sound : manager.SoundSeat session seat)
    (quiet : ¬ manager.Pending session) :
    Phase.waiting.Tallies seat.session.copy?
      fun resource => manager.locks.holder resource = some session := by
  have tally := sound.tally
  rw [phaseAt_of_empty (sound.line_of_not_pending quiet)] at tally
  exact tally

theorem ask_locksHeld (seated : manager.seats.get? session = some seat)
    (listed : seat.listed = true) (live : seat.closed = false) (idle : seat.line = [])
    {id : CallId} (fresh : manager.calls.get? id = none) :
    (manager.ask id session .locksHeld).1 =
      some (.ok (.resources seat.session.checkedOut)) := by
  rw [ask_of_idle seated listed idle fresh]
  simp [finish, resume, setSeat, setCall, Index.get?_insert, isServed, serve, live, answer]

theorem mem_sessions (manager : Manager) (session : SessionId) (user : String)
    (resources : List ResourceId) :
    (session, user, resources) ∈ manager.sessions ↔
      ∃ seat, manager.listed? session = some seat ∧ user = seat.session.user ∧
        resources = manager.locks.heldBy session := by
  simp only [sessions, listedSeats, List.mem_map, Prod.mk.injEq]
  constructor
  · rintro ⟨⟨there, seat⟩, member, rfl, rfl, rfl⟩
    have found := Index.mem_toList.mp member
    rw [Index.get?_filter] at found
    exact ⟨seat, found, rfl, rfl⟩
  · rintro ⟨seat, found, rfl, rfl⟩
    refine ⟨(session, seat), Index.mem_toList.mpr ?_, rfl, rfl, rfl⟩
    rw [Index.get?_filter]
    exact found

/-- In every state that a run reaches, a session has the lock of each of its copies, and each of
its locks is for a copy or for the record that it is loading. So no resource is in two working
sets, and a listed session that is idle tells the same resources wherever it is asked. -/
theorem working_sets_match_locks (store : RecordStore) (acts : List Act)
    (few : Act.openings acts ≤ 2 ^ 64) :
    let manager := (start store).run acts
    (∀ session seat, manager.seats.get? session = some seat → ∀ resource,
      ((seat.session.copy? resource).isSome → manager.locks.holder resource = some session) ∧
      (manager.locks.holder resource = some session →
        (seat.session.copy? resource).isSome ∨ manager.IsLoading session seat resource)) ∧
    (∀ first second firstSeat secondSeat resource,
      manager.seats.get? first = some firstSeat → manager.seats.get? second = some secondSeat →
      (firstSeat.session.copy? resource).isSome → (secondSeat.session.copy? resource).isSome →
      first = second) ∧
    (∀ session seat, manager.listed? session = some seat → ¬ manager.Pending session →
      seat.session.checkedOut = manager.locks.heldBy session ∧
      (∀ id, manager.calls.get? id = none →
        (manager.ask id session .locksHeld).1 =
          some (.ok (.resources (manager.locks.heldBy session)))) ∧
      ∀ user resources, (session, user, resources) ∈ manager.sessions ↔
        user = seat.session.user ∧ resources = manager.locks.heldBy session) := by
  intro manager
  have sound : manager.Sound := (sound_run store acts few).1
  refine ⟨?_, ?_, ?_⟩
  · intro session seat seated resource
    have here := sound.seats session seat seated
    exact ⟨here.held_of_copy, here.copy_or_loading sound.fits⟩
  · intro first second firstSeat secondSeat resource firstSeated secondSeated one two
    have held := (sound.seats first firstSeat firstSeated).held_of_copy one
    have also := (sound.seats second secondSeat secondSeated).held_of_copy two
    rw [held] at also
    exact Option.some.inj also
  · intro session seat found quiet
    obtain ⟨seated, listed⟩ := Option.filter_eq_some_iff.mp found
    have here := sound.seats session seat seated
    have same := checkedOut_eq_heldBy (here.tally_of_not_pending quiet)
    have live : seat.closed = false := by
      cases closed : seat.closed with
      | false => rfl
      | true =>
        have unlisted := (here.closed closed).1
        rw [listed] at unlisted
        cases unlisted
    refine ⟨same, ?_, ?_⟩
    · intro id fresh
      rw [← same]
      exact ask_locksHeld seated listed live (here.line_of_not_pending quiet) fresh
    · intro user resources
      rw [mem_sessions, found]
      simp

/-- One session has checked a record out, and the other waits for another record. -/
def checkoutAndLoad : List Act :=
  [.enter "ann", .enlist ⟨0⟩, .enter "bob", .enlist ⟨1⟩, .issue 0 ⟨0⟩ (.checkout 7), .resume 0,
    .resume 0, .resume 0, .issue 1 ⟨1⟩ (.checkout 8), .resume 1, .resume 1]

theorem working_sets_match_locks_of_checkoutAndLoad :
    Act.openings checkoutAndLoad ≤ 2 ^ 64 ∧
      ∃ seat, ((start (.ofBooks [.titled 7 "old"])).run checkoutAndLoad).seats.get? ⟨1⟩ =
          some seat ∧
        ((start (.ofBooks [.titled 7 "old"])).run checkoutAndLoad).IsLoading ⟨1⟩ seat 8 ∧
        ((start (.ofBooks [.titled 7 "old"])).run checkoutAndLoad).locks.heldBy ⟨0⟩ = [7] := by
  have few : Act.openings checkoutAndLoad ≤ 2 ^ 64 := by decide
  obtain ⟨agree, -, idle⟩ :=
    working_sets_match_locks (.ofBooks [.titled 7 "old"]) checkoutAndLoad few
  refine ⟨few, ⟨.start ⟨1⟩ "bob", [1], true, false⟩, by rfl, ?_, ?_⟩
  · have locked := agree ⟨1⟩ ⟨.start ⟨1⟩ "bob", [1], true, false⟩ (by rfl) 8
    rcases locked.2 (by rfl) with copied | loading
    · cases copied
    · exact loading
  · have quiet : ¬ ((start (.ofBooks [.titled 7 "old"])).run checkoutAndLoad).Pending ⟨0⟩ := by
      decide
    exact (idle ⟨0⟩ _ (by rfl) quiet).1.symm

end RecordLocks.Manager
