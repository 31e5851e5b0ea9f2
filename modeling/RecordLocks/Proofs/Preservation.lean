import RecordLocks.Proofs.Advance
namespace RecordLocks

theorem mem_tail_of_mem_tail_erase {line : List CallId} {id other : CallId}
    (member : other ∈ (line.erase id).tail) : other ∈ line.tail := by
  cases line with
  | nil => cases member
  | cons first rest =>
    by_cases same : first = id
    · subst same
      rw [List.erase_cons_head] at member
      exact List.mem_of_mem_tail member
    · rw [List.erase_cons_tail (by simpa using same)] at member
      exact List.mem_of_mem_erase member

namespace InLine

variable {calls : Index CallId Call} {session : SessionId} {line : List CallId} {id : CallId}
  {request : Request} {phase : Phase}

theorem queue (sound : InLine calls session line)
    (found : calls.get? id = some ⟨session, request, .arriving⟩) :
    InLine (calls.insert id ⟨session, request, .waiting⟩) session (line ++ [id]) := by
  have outside : id ∉ line := by
    intro member
    obtain ⟨call, there, -, arrived⟩ := (sound.mem_iff id).mp member
    rw [found] at there
    cases there
    exact arrived rfl
  constructor
  · rw [List.nodup_append]
    refine ⟨sound.nodup, by simp, ?_⟩
    intro first member last here
    rw [List.mem_singleton.mp here]
    rintro rfl
    exact outside member
  · intro other
    rw [List.mem_append, List.mem_singleton, Index.get?_insert]
    by_cases same : id = other
    · subst same
      simp
    · rw [if_neg same, sound.mem_iff other]
      simp [Ne.symm same]
  · intro other member
    rw [Index.get?_insert]
    by_cases same : id = other
    · rw [if_pos same]
      exact ⟨request, rfl⟩
    · rw [if_neg same]
      cases line with
      | nil => cases member
      | cons first rest =>
        have inside : other ∈ rest ++ [id] := member
        rcases List.mem_append.mp inside with earlier | last
        · exact sound.behind other earlier
        · exact absurd (List.mem_singleton.mp last).symm same

theorem advance (sound : InLine calls session line) (head : line.head? = some id)
    (arrived : phase ≠ .arriving) :
    InLine (calls.insert id ⟨session, request, phase⟩) session line := by
  cases line with
  | nil => cases head
  | cons first rest =>
    cases head
    refine ⟨sound.nodup, ?_, ?_⟩
    · intro other
      rw [Index.get?_insert]
      by_cases same : id = other
      · subst same
        simp [arrived]
      · rw [if_neg same]
        exact sound.mem_iff other
    · intro other member
      have different : id ≠ other := by
        rintro rfl
        exact (List.nodup_cons.mp sound.nodup).1 member
      rw [Index.get?_insert, if_neg different]
      exact sound.behind other member

theorem leave (sound : InLine calls session line) :
    InLine (calls.erase id) session (line.erase id) := by
  refine ⟨sound.nodup.erase id, ?_, ?_⟩
  · intro other
    rw [sound.nodup.mem_erase_iff, sound.mem_iff other, Index.get?_erase]
    by_cases same : id = other
    · simp [same]
    · simp [same, Ne.symm same]
  · intro other member
    have different : other ≠ id :=
      (sound.nodup.mem_erase_iff.mp (List.mem_of_mem_tail member)).1
    rw [Index.get?_erase, if_neg different.symm]
    exact sound.behind other (mem_tail_of_mem_tail_erase member)

end InLine

namespace Manager

variable {manager after : Manager} {id : CallId} {session : SessionId} {request : Request}
  {phase : Phase} {seat changed : Seat}

theorem SoundSeat.apart {other : SessionId} (sound : manager.SoundSeat other seat)
    (apart : Apart session manager after) (different : other ≠ session) :
    after.SoundSeat other seat := by
  have same : ∀ id call, call.session = other →
      (after.calls.get? id = some call ↔ manager.calls.get? id = some call) :=
    fun id call own => apart.calls id call (own ▸ different)
  have line : InLine after.calls other seat.line := by
    refine ⟨sound.line.nodup, ?_, ?_⟩
    · intro id
      rw [sound.line.mem_iff id]
      constructor
      · rintro ⟨call, found, own, arrived⟩
        exact ⟨call, (same id call own).mpr found, own, arrived⟩
      · rintro ⟨call, found, own, arrived⟩
        exact ⟨call, (same id call own).mp found, own, arrived⟩
    · intro id member
      obtain ⟨request, waits⟩ := sound.line.behind id member
      exact ⟨request, (same id _ rfl).mpr waits⟩
  have phase : after.phaseAt seat = manager.phaseAt seat := by
    cases served : seat.line with
    | nil => simp [phaseAt, served?, served]
    | cons first rest =>
      obtain ⟨call, found, own, -⟩ := (sound.line.mem_iff first).mp (by simp [served])
      have head : seat.line.head? = some first := by rw [served]; rfl
      rw [phaseAt_head head found, phaseAt_head head ((same first call own).mpr found)]
  have held : ∀ resource, after.locks.holder resource = some other ↔
      manager.locks.holder resource = some other :=
    fun resource => apart.locks resource other different
  refine ⟨sound.named, line, ?_, ?_, ?_⟩
  · simp only [phase, held]
    exact sound.tally
  · intro id phase found
    exact sound.leaving id phase ((same id _ rfl).mp found)
  · simp only [ne_eq, held]
    exact sound.closed

/-- What only one session takes part in leaves a manager sound if it leaves this session so. -/
theorem Sound.of_apart (sound : manager.Sound) (apart : Apart session manager after)
    (seated : after.seats.get? session = some changed)
    (fits : ∀ id call, after.calls.get? id = some call → call.session = session → call.Fits)
    (here : after.SoundSeat session changed) : after.Sound := by
  constructor
  · intro id call found
    by_cases own : call.session = session
    · exact ⟨changed, by rw [own, seated]⟩
    · rw [apart.seats _ own]
      exact sound.seated id call ((apart.calls id call own).mp found)
  · intro resource owner held
    by_cases own : owner = session
    · exact ⟨changed, by rw [own, seated]⟩
    · rw [apart.seats _ own]
      exact sound.owned resource owner ((apart.locks resource owner own).mp held)
  · intro id call found
    by_cases own : call.session = session
    · exact fits id call found own
    · exact sound.fits id call ((apart.calls id call own).mp found)
  · intro other there found
    by_cases own : other = session
    · subst own
      rw [seated] at found
      cases found
      exact here
    · rw [apart.seats _ own] at found
      exact (sound.seats other there found).apart apart own

/-- The session works for the call that it serves, and its line stays as it is. -/
structure Reworked (session : SessionId) (seat changed : Seat) (before after : Manager) :
    Prop where
  apart : Apart session before after
  calls : after.calls = before.calls
  seated : after.seats.get? session = some changed
  line : changed.line = seat.line
  listed : changed.listed = seat.listed
  named : changed.session.id = seat.session.id

theorem Sound.fits_insert (sound : manager.Sound) {call : Call} (fits : call.Fits)
    {other : CallId} {there : Call}
    (found : (manager.calls.insert id call).get? other = some there) : there.Fits := by
  rw [Index.get?_insert] at found
  split at found
  · cases found
    exact fits
  · exact sound.fits other there found

theorem Sound.fits_erase (sound : manager.Sound) {other : CallId} {there : Call}
    (found : (manager.calls.erase id).get? other = some there) : there.Fits := by
  rw [Index.get?_erase] at found
  split at found
  · cases found
  · exact sound.fits other there found

/-- The call that the session serves goes on to another phase. -/
theorem Sound.advance (sound : manager.Sound)
    (found : manager.calls.get? id = some ⟨session, request, phase⟩)
    (seated : manager.seats.get? session = some seat) (head : seat.line.head? = some id)
    (reworked : Reworked session seat changed manager after) {next : Phase}
    (arrived : next ≠ .arriving) (fits : Call.Fits ⟨session, request, next⟩)
    (tally : next.Tallies changed.session.copy?
      fun resource => after.locks.holder resource = some session)
    (closed : changed.closed = true →
      changed.listed = false ∧ ∀ resource, after.locks.holder resource ≠ some session) :
    (after.setCall id ⟨session, request, next⟩).Sound := by
  have before := sound.seats session seat seated
  have apart : Apart session manager (after.setCall id ⟨session, request, next⟩) :=
    .setCall reworked.apart reworked.calls found rfl rfl
  apply sound.of_apart apart reworked.seated
  · intro other there inside own
    rw [setCall, reworked.calls] at inside
    exact sound.fits_insert fits inside
  · have line : InLine (after.setCall id ⟨session, request, next⟩).calls session changed.line := by
      rw [setCall, reworked.calls, reworked.line]
      exact before.line.advance head arrived
    have gone : (after.setCall id ⟨session, request, next⟩).calls.get? id =
        some ⟨session, request, next⟩ := by
      simp [setCall, Index.get?_insert]
    have served : (after.setCall id ⟨session, request, next⟩).phaseAt changed = next :=
      phaseAt_head (by rw [reworked.line, head]) gone
    refine ⟨reworked.named.trans before.named, line, ?_, ?_, closed⟩
    · rw [served]
      exact tally
    · intro other phase there
      rw [reworked.listed]
      rw [setCall, reworked.calls, Index.get?_insert] at there
      split at there
      · cases there
        exact before.leaving id _ found
      · exact before.leaving other phase there

theorem phaseAt_forget (line : InLine manager.calls session seat.line)
    (reworked : Reworked session seat changed manager after) :
    (after.forget id session).phaseAt { changed with line := changed.line.erase id } =
      if seat.line.head? = some id then .waiting else manager.phaseAt seat := by
  cases split : seat.line with
  | nil => simp [phaseAt, served?, reworked.line, split]
  | cons first rest =>
    by_cases head : first = id
    · subst head
      rw [List.head?_cons, if_pos rfl]
      cases rest with
      | nil => simp [phaseAt, served?, reworked.line, split]
      | cons next rest =>
        obtain ⟨other, waits⟩ := line.behind next (by simp [split])
        have different : first ≠ next := by
          have nodup := line.nodup
          rw [split] at nodup
          rintro rfl
          exact (List.nodup_cons.mp nodup).1 (by simp)
        have waiting : (after.forget first session).calls.get? next =
            some ⟨session, other, .waiting⟩ := by
          rw [calls_forget, reworked.calls, Index.get?_erase, if_neg different]
          exact waits
        exact phaseAt_head (by simp [reworked.line, split]) waiting
    · have stays : (first :: rest).erase id = first :: rest.erase id :=
        List.erase_cons_tail (by simpa using head)
      simp [phaseAt, served?, reworked.line, reworked.calls, split, stays, Index.get?_erase, head,
        Ne.symm head]

/-- A call of the session ends. -/
theorem Sound.drop (sound : manager.Sound)
    (found : manager.calls.get? id = some ⟨session, request, phase⟩)
    (seated : manager.seats.get? session = some seat)
    (reworked : Reworked session seat changed manager after)
    (tally : (if seat.line.head? = some id then .waiting else manager.phaseAt seat).Tallies
      changed.session.copy? fun resource => after.locks.holder resource = some session)
    (closed : changed.closed = true →
      changed.listed = false ∧ ∀ resource, after.locks.holder resource ≠ some session) :
    (after.forget id session).Sound := by
  have before := sound.seats session seat seated
  have apart : Apart session manager (after.forget id session) :=
    .forget reworked.apart reworked.calls found rfl
  have reseated : (after.forget id session).seats.get? session =
      some { changed with line := changed.line.erase id } := by
    simp [reworked.seated]
  apply sound.of_apart apart reseated
  · intro other there inside own
    rw [calls_forget, reworked.calls] at inside
    exact sound.fits_erase inside
  · refine ⟨reworked.named.trans before.named, ?_, ?_, ?_, ?_⟩
    · rw [calls_forget, reworked.calls, reworked.line]
      exact before.line.leave
    · rw [phaseAt_forget before.line reworked, locks_forget]
      exact tally
    · intro other phase there
      rw [calls_forget, reworked.calls, Index.get?_erase] at there
      split at there
      · cases there
      · exact reworked.listed.trans (before.leaving other phase there)
    · rw [locks_forget]
      exact closed

/-- The call that the session serves ends. -/
theorem Sound.leave (sound : manager.Sound)
    (found : manager.calls.get? id = some ⟨session, request, phase⟩)
    (seated : manager.seats.get? session = some seat) (head : seat.line.head? = some id)
    (reworked : Reworked session seat changed manager after)
    (tally : Phase.waiting.Tallies changed.session.copy?
      fun resource => after.locks.holder resource = some session)
    (closed : changed.closed = true →
      changed.listed = false ∧ ∀ resource, after.locks.holder resource ≠ some session) :
    (after.forget id session).Sound := by
  refine sound.drop found seated reworked ?_ closed
  rw [if_pos head]
  exact tally

namespace Reworked

variable {resource : ResourceId}

theorem refl (seated : manager.seats.get? session = some seat) :
    Reworked session seat seat manager manager :=
  ⟨.refl, rfl, seated, rfl, rfl, rfl⟩

theorem record (reworked : Reworked session seat changed manager after) (notice : Notice) :
    Reworked session seat changed manager (after.record notice) :=
  ⟨reworked.apart.record notice, reworked.calls, reworked.seated,
    reworked.line, reworked.listed, reworked.named⟩

theorem acquire (seated : manager.seats.get? session = some seat) :
    Reworked session seat seat manager (manager.acquire resource session).2 :=
  ⟨.acquire, rfl, seated, rfl, rfl, rfl⟩

theorem setSession {after : Session} (named : after.id = seat.session.id) :
    Reworked session seat { seat with session := after } manager
      (manager.setSession session seat after) :=
  ⟨.setSeat _, rfl, by simp [Manager.setSession, setSeat, Index.get?_insert], rfl, rfl, named⟩

theorem closeWindow (seated : manager.seats.get? session = some seat) :
    Reworked session seat { seat with session := (seat.session.release resource).2 } manager
      (manager.closeWindow session resource) :=
  ⟨.closeWindow, by simp, by simp [seated], rfl, rfl, rfl⟩

theorem remove (notice : Notice) :
    Reworked session seat { seat with session := seat.session.clear.2, closed := true } manager
      ((((manager.setSeat session
        { seat with session := seat.session.clear.2, closed := true }).releaseAll session).2).record
        notice) :=
  ⟨.record (.trans (.setSeat _) .releaseAll) _, rfl,
    by simp [Manager.record, Manager.releaseAll, applyLocks, setSeat, Index.get?_insert],
    rfl, rfl, rfl⟩

end Reworked

/-- Closing the only open window leaves a lock for each copy that remains. -/
theorem tallies_closeWindow {resource : ResourceId}
    (tally : phase.Tallies seat.session.copy?
      fun resource => manager.locks.holder resource = some session)
    (only : ∀ opened, phase.window? = some opened → opened = resource) :
    Phase.waiting.Tallies (seat.session.release resource).2.copy?
      fun other => (manager.closeWindow session resource).locks.holder other = some session := by
  intro other
  simp only [locks_closeWindow, LockTable.holder_release, Session.copy?_release]
  by_cases same : resource = other
  · simp [same]
  · simp only [same, false_and, if_false]
    constructor
    · intro held
      rcases tally.copy_or_loading held with copied | loading
      · exact copied
      · exact absurd (only other (by rw [loading]; rfl)).symm same
    · exact tally.held_of_copy

theorem SoundSeat.tally_served (sound : manager.SoundSeat session seat)
    (head : seat.line.head? = some id)
    (found : manager.calls.get? id = some ⟨session, request, phase⟩) :
    phase.Tallies seat.session.copy?
      fun resource => manager.locks.holder resource = some session := by
  have tally := sound.tally
  rw [phaseAt_head head found] at tally
  exact tally

theorem SoundSeat.live_of_window (sound : manager.SoundSeat session seat)
    (head : seat.line.head? = some id)
    (found : manager.calls.get? id = some ⟨session, request, phase⟩) {resource : ResourceId}
    (opened : phase.window? = some resource) : seat.closed = false := by
  have held := (sound.tally_served head found).held_of_window opened
  cases closed : seat.closed with
  | false => rfl
  | true => exact absurd held ((sound.closed closed).2 resource)

theorem tallies_acquire {resource : ResourceId}
    (tally : Phase.waiting.Tallies seat.session.copy?
      fun resource => manager.locks.holder resource = some session)
    (free : ∀ holder, manager.locks.holder resource = some holder → holder = session) :
    (Phase.loading resource).Tallies seat.session.copy?
      fun other => (manager.acquire resource session).2.locks.holder other = some session := by
  intro other
  simp only [acquire, applyLocks, LockTable.holder_acquire]
  by_cases same : resource = other
  · subst same
    cases held : manager.locks.holder resource with
    | none => simp
    | some holder => simp [free holder held]
  · rw [if_neg same]
    exact (tally other).trans (by simp [Ne.symm same])

theorem tallies_checkout {resource : ResourceId} {held : ResourceId → Prop}
    (tally : (Phase.loading resource).Tallies seat.session.copy? held) (book : Book)
    (other : ResourceId) :
    held other ↔ ((seat.session.checkout resource book).2.copy? other).isSome := by
  rw [tally other, Session.copy?_checkout]
  by_cases same : resource = other
  · simp [same]
  · simp [same, Ne.symm same]

theorem isSome_copy?_edit (session : Session) (resource other : ResourceId) (field : BookField)
    (value : String) :
    ((session.edit resource field value).2.copy? other).isSome =
      (session.copy? other).isSome := by
  rw [Session.copy?_edit]
  by_cases same : resource = other
  · subst same
    simp
  · simp [same]

theorem Sound.queue (sound : manager.Sound)
    (found : manager.calls.get? id = some ⟨session, request, .arriving⟩)
    (seated : manager.seats.get? session = some seat) :
    ((manager.setSeat session { seat with line := seat.line ++ [id] }).setCall id
      ⟨session, request, .waiting⟩).Sound := by
  have here := sound.seats session seat seated
  have apart : Apart session manager ((manager.setSeat session
      { seat with line := seat.line ++ [id] }).setCall id ⟨session, request, .waiting⟩) :=
    .setCall (.setSeat _) rfl found rfl rfl
  have reseated : ((manager.setSeat session { seat with line := seat.line ++ [id] }).setCall id
      ⟨session, request, .waiting⟩).seats.get? session =
        some { seat with line := seat.line ++ [id] } := by
    simp [setSeat, setCall, Index.get?_insert]
  have phase : ((manager.setSeat session { seat with line := seat.line ++ [id] }).setCall id
      ⟨session, request, .waiting⟩).phaseAt { seat with line := seat.line ++ [id] } =
        manager.phaseAt seat := by
    cases served : seat.line with
    | nil => simp [phaseAt, served?, served, setCall, Index.get?_insert]
    | cons first rest =>
      obtain ⟨call, there, -, arrived⟩ := (here.line.mem_iff first).mp (by simp [served])
      have different : id ≠ first := by
        rintro rfl
        rw [found] at there
        cases there
        exact arrived rfl
      simp [phaseAt, served?, served, setCall, setSeat, Index.get?_insert, different]
  apply sound.of_apart apart reseated
  · intro other there inside own
    have waits : Call.Fits ⟨session, request, .waiting⟩ := trivial
    exact sound.fits_insert waits inside
  · refine ⟨here.named, here.line.queue found, ?_, ?_, here.closed⟩
    · rw [phase]
      exact here.tally
    · intro other phase there
      rw [setCall, Index.get?_insert] at there
      split at there
      · cases there
        exact here.leaving id _ found
      · exact here.leaving other phase there

/-- Soundness does not depend on the store and on what is recorded. -/
theorem Sound.of_eq (sound : manager.Sound) (seats : after.seats = manager.seats)
    (locks : after.locks = manager.locks) (calls : after.calls = manager.calls) :
    after.Sound := by
  constructor
  · rw [seats, calls]
    exact sound.seated
  · rw [seats, locks]
    exact sound.owned
  · rw [calls]
    exact sound.fits
  · intro session seat seated
    rw [seats] at seated
    have here := sound.seats session seat seated
    have phase : after.phaseAt seat = manager.phaseAt seat := by
      simp only [phaseAt, served?, calls]
    refine ⟨here.named, calls ▸ here.line, ?_, calls ▸ here.leaving, locks ▸ here.closed⟩
    rw [phase, locks]
    exact here.tally

/-- A call whose window closes ends. -/
theorem Sound.close (sound : manager.Sound)
    (found : manager.calls.get? id = some ⟨session, request, phase⟩) {resource : ResourceId}
    (opened : phase.window? = some resource) :
    ((manager.closeWindow session resource).forget id session).Sound := by
  obtain ⟨seat, seated⟩ := sound.seated id _ found
  have here := sound.seats session seat seated
  have arrived : phase ≠ .arriving := by
    rintro rfl
    cases opened
  have working : phase ≠ .waiting := by
    rintro rfl
    cases opened
  have head := here.line.head_of_phase found rfl arrived working
  have live := here.live_of_window head found opened
  have only : ∀ other, phase.window? = some other → other = resource := by
    intro other there
    rw [opened] at there
    exact (Option.some.inj there).symm
  exact sound.leave found seated head (.closeWindow seated)
    (tallies_closeWindow (here.tally_served head found) only) (by simp [live])

theorem Sound.resume (sound : manager.Sound)
    (found : manager.calls.get? id = some ⟨session, request, phase⟩) :
    (manager.resume id).2.Sound := by
  obtain ⟨seat, seated⟩ := sound.seated id _ found
  have here := sound.seats session seat seated
  have fits := sound.fits id _ found
  have advanced := resume_advance sound found seated
  generalize (manager.resume id).1 = outcome at advanced
  generalize (manager.resume id).2 = after at advanced
  cases advanced with
  | queued => exact sound.queue found seated
  | behind blocked => exact sound
  | removed head =>
    apply sound.leave found seated head (.remove _)
    · intro other
      simp [record, releaseAll, applyLocks, setSeat]
    · intro closed
      refine ⟨here.leaving id _ found, ?_⟩
      intro other
      simp [record, releaseAll, applyLocks, setSeat]
  | shut head closed other =>
    exact sound.leave found seated head (.refl seated) (here.tally_served head found) here.closed
  | contended head live opens held foreign =>
    exact sound.leave found seated head ((Reworked.refl seated).record _)
      (here.tally_served head found) here.closed
  | opened head live opens free =>
    refine sound.advance found seated head (.acquire seated) (by simp) opens ?_ (by simp [live])
    exact tallies_acquire (here.tally_served head found) free
  | edited field value head live copied =>
    refine sound.leave found seated head (.setSession (Session.id_edit _ _ _ _)) ?_ (by simp [live])
    intro other
    rw [isSome_copy?_edit]
    exact here.tally_served head found other
  | notCheckedOut head live missing needs =>
    exact sound.leave found seated head (.refl seated) (here.tally_served head found) here.closed
  | committing head live copied =>
    exact sound.advance found seated head (.refl seated) (by simp) (.inr rfl)
      ⟨here.tally_served head found, copied⟩ here.closed
  | discarded head live copied =>
    exact sound.leave found seated head ((Reworked.closeWindow seated).record _)
      (tallies_closeWindow (here.tally_served head found) (by simp [Phase.window?]))
      (by simp [live])
  | nothingDiscarded head live missing =>
    exact sound.leave found seated head (.closeWindow seated)
      (tallies_closeWindow (here.tally_served head found) (by simp [Phase.window?]))
      (by simp [live])
  | told head live =>
    exact sound.leave found seated head (.refl seated) (here.tally_served head found) here.closed
  | vanished missing => exact sound.close found rfl
  | loadedToWrite field value stored =>
    have head := here.line.head_of_phase found rfl (by simp) (by simp)
    have live := here.live_of_window head found rfl
    refine sound.advance found seated head (.setSession (by simp)) (by simp) ⟨field, value, rfl⟩
      ⟨?_, by simp⟩ (by simp [live])
    intro other
    rw [isSome_copy?_edit]
    exact tallies_checkout (here.tally_served head found) _ other
  | loadedToRead stored =>
    have head := here.line.head_of_phase found rfl (by simp) (by simp)
    have live := here.live_of_window head found rfl
    refine sound.advance found seated head (.setSession (by simp)) (by simp) rfl
      ⟨?_, by simp⟩ (by simp [live])
    exact tallies_checkout (here.tally_served head found) _
  | checkedOut stored =>
    have head := here.line.head_of_phase found rfl (by simp) (by simp)
    have live := here.live_of_window head found rfl
    refine sound.leave found seated head (.setSession (by simp)) ?_ (by simp [live])
    exact tallies_checkout (here.tally_served head found) _
  | @worked request resource edited =>
    have head := here.line.head_of_phase found rfl (by simp) (by simp)
    have tally : (Phase.writing resource edited).Tallies _ _ := here.tally_served head found
    exact sound.advance found seated head (.refl seated) (by simp) (.inl fits) tally here.closed
  | readDone copied => exact sound.close found rfl
  | refused missing => exact sound.close found rfl
  | @stored request resource edited old present =>
    have stored : (({ manager with store := manager.store.put edited } : Manager).record
        (.committed session resource)).Sound :=
      sound.of_eq rfl rfl rfl
    exact stored.close found rfl

end Manager

end RecordLocks
