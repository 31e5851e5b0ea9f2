import RecordLocks.Manager.Timeline
import RecordLocks.Proofs.Drafts
import RecordLocks.Proofs.Footprint
namespace RecordLocks

/-- The request gives its record back when it ends so. Only a checkout that succeeds keeps it, and
an edit or a discard has no lock window. -/
def Request.Closes : Request → Ending → Prop
  | .write _ _ _, _ | .read _ _, _ | .commit _, _ => True
  | .checkout _, .answered (.ok _) => False
  | .checkout _, _ => True
  | _, _ => False

namespace Manager

/-- How an act ends the call that it is about, if it does. -/
def ending? (manager : Manager) : Act → Option Ending
  | .issue id session request => (manager.issue id session request).1.map .answered
  | .resume id => (manager.resume id).1.map .answered
  | .cancel id => if manager.calls.contains id then some .cancelled else none
  | _ => none

/-- The call has not been served yet. -/
def Queued (manager : Manager) (id : CallId) : Prop :=
  ∃ call, manager.calls.get? id = some call ∧ call.phase.window? = none

end Manager

/-- The managers before and after one of the acts that a call is made of. -/
structure Move where
  before : Manager
  after : Manager

/-- The acts of a run from the one that issues a call to the one that ends it. The call's own acts
are its moves, and what others do meanwhile is not. -/
inductive Course (id : CallId) : Manager → List Act → List Move → Move → Ending → Prop
  | ends {manager act ending} (about : act.call? = some id)
    (ended : manager.ending? act = some ending) :
    Course id manager [act] [] ⟨manager, manager.step act⟩ ending
  | goesOn {manager act rest moves last ending} (about : act.call? = some id)
    (waits : manager.ending? act = none)
    (course : Course id (manager.step act) rest moves last ending) :
    Course id manager (act :: rest) (⟨manager, manager.step act⟩ :: moves) last ending
  | aside {manager act rest moves last ending} (other : act.call? ≠ some id)
    (course : Course id (manager.step act) rest moves last ending) :
    Course id manager (act :: rest) moves last ending

/-- The call has ended without having got at its record: cancelled in its session's line, or by
the answer that there is no such session or no such copy. -/
def Fruitless (id : CallId) (before : Manager) : Ending → Prop
  | .cancelled => before.Queued id
  | .answered (.error (.sessionNotFound _)) | .answered (.error (.notCheckedOut _ _)) => True
  | .answered _ => False

def Ending.IsConflict (ending : Ending) : Prop :=
  ∃ resource holder, ending = .answered (.error (.lockConflict resource holder))

/-- The call has ended after it had its record locked or in hand. -/
def GotAt (id : CallId) (before : Manager) (ending : Ending) : Prop :=
  ¬ Fruitless id before ending ∧ ¬ ending.IsConflict

/-- What the last act of a call leaves. -/
structure CleanEnd (id : CallId) (session : SessionId) (request : Request) (resource : ResourceId)
    (before after : Manager) (ending : Ending) : Prop where
  fruitless : Fruitless id before ending → Manager.Idle id session before after
  contended : ∀ asked holder, ending = .answered (.error (.lockConflict asked holder)) →
    asked = resource ∧
      Manager.Idle id session (before.record (.lockContention resource holder session)) after
  closed : request.Closes ending → GotAt id before ending →
    after.locks.holder resource ≠ some session ∧ after.copy? session resource = none
  stores : ∀ reply, request.stores? = some resource → ending = .answered (.ok reply) →
    ∃ edited, reply = .book edited ∧ edited.id = resource ∧ before.store.contains resource ∧
      after.store = before.store.put edited
  spares : ¬ (request.stores? = some resource ∧ ∃ reply, ending = .answered (.ok reply)) →
    after.store = before.store
  within : Manager.Within session resource before after

/-- What a whole call leaves: its last act, and the moves before it. -/
structure CleanExit (id : CallId) (session : SessionId) (request : Request)
    (resource : ResourceId) (moves : List Move) (last : Move) (ending : Ending) : Prop where
  final : CleanEnd id session request resource last.before last.after ending
  idle : Fruitless id last.before ending ∨ ending.IsConflict →
    ∀ move ∈ moves, Manager.Idle id session move.before move.after
  spares : ∀ move ∈ moves, move.after.store = move.before.store
  within : ∀ move ∈ moves, Manager.Within session resource move.before move.after

namespace CleanEnd

open Manager

variable {before after : Manager} {id : CallId} {session : SessionId} {request : Request}
  {resource : ResourceId} {ending : Ending}

/-- The call has not got at its record and has changed nothing. -/
theorem turnedAway (fruitless : Fruitless id before ending) (peaceful : ¬ ending.IsConflict)
    (failed : ∀ reply, ending ≠ .answered (.ok reply)) (idle : Idle id session before after)
    (store : after.store = before.store) (within : Within session resource before after) :
    CleanEnd id session request resource before after ending := by
  constructor
  · exact fun _ => idle
  · intro asked holder conflict
    exact absurd ⟨asked, holder, conflict⟩ peaceful
  · intro closes got
    exact absurd fruitless got.1
  · intro reply stores succeeds
    exact absurd succeeds (failed reply)
  · exact fun _ => store
  · exact within

/-- The call has got at its record, and the store keeps its books. -/
theorem gotAt (got : GotAt id before ending)
    (closed : request.Closes ending →
      after.locks.holder resource ≠ some session ∧ after.copy? session resource = none)
    (failed : ¬ (request.stores? = some resource ∧ ∃ reply, ending = .answered (.ok reply)))
    (store : after.store = before.store) (within : Within session resource before after) :
    CleanEnd id session request resource before after ending := by
  constructor
  · intro fruitless
    exact absurd fruitless got.1
  · intro asked holder conflict
    exact absurd ⟨asked, holder, conflict⟩ got.2
  · exact fun closes _ => closed closes
  · intro reply stores succeeds
    exact absurd ⟨stores, reply, succeeds⟩ failed
  · exact fun _ => store
  · exact within

/-- The call closes its record's window and puts nothing into the store. -/
theorem closeWindow {manager : Manager} (got : GotAt id manager ending)
    (failed : ¬ (request.stores? = some resource ∧ ∃ reply, ending = .answered (.ok reply))) :
    CleanEnd id session request resource manager
      ((manager.closeWindow session resource).forget id session) ending := by
  apply gotAt got _ failed (by simp) Within.closeWindow.forget
  intro closes
  simp

end CleanEnd

theorem gotAt_ok {id : CallId} {before : Manager} {reply : Reply} :
    GotAt id before (.answered (.ok reply)) :=
  ⟨False.elim, by simp [Ending.IsConflict]⟩

theorem gotAt_recordNotFound {id : CallId} {before : Manager} {resource : ResourceId} :
    GotAt id before (.answered (.error (.recordNotFound resource))) :=
  ⟨False.elim, by simp [Ending.IsConflict]⟩

namespace Manager

variable {manager after : Manager} {id : CallId} {session : SessionId} {request : Request}
  {phase : Phase} {seat : Seat} {resource : ResourceId}

/-- A call whose window is open has got at its record. -/
theorem Advance.got_at {outcome : Outcome}
    (advanced : Advance manager id session seat request phase (some outcome) after)
    (opened : phase.window?.isSome) : GotAt id manager (.answered outcome) := by
  cases advanced with
  | removed | shut | contended | edited | notCheckedOut | discarded | nothingDiscarded | told =>
    cases opened
  | vanished | refused => exact gotAt_recordNotFound
  | checkedOut | readDone | stored => exact gotAt_ok

/-- The lock is refused, and nothing happens but that the refusal is recorded. -/
theorem clean_contended (sound : manager.Sound) (holder : SessionId) :
    CleanEnd id session request resource manager
      ((manager.record (.lockContention resource holder session)).forget id session)
      (.answered (.error (.lockConflict resource holder))) := by
  constructor
  · exact False.elim
  · intro asked other conflict
    cases conflict
    exact ⟨rfl, idle_forget (sound.of_eq rfl rfl rfl)⟩
  · intro closes got
    exact absurd ⟨resource, holder, rfl⟩ got.2
  · intro reply stores succeeds
    cases succeeds
  · intro failed
    simp
  · exact (Within.refl.record _).forget

/-- The store takes the book, and the record's window is closed. -/
theorem clean_stored {edited old : Book} (named : edited.id = resource)
    (present : manager.store.books.get? edited.id = some old)
    (stores : request.stores? = some resource) :
    CleanEnd id session request resource manager
      (((({ manager with store := manager.store.put edited }).record
        (.committed session resource)).closeWindow session resource).forget id session)
      (.answered (.ok (.book edited))) := by
  constructor
  · exact False.elim
  · intro asked holder conflict
    cases conflict
  · intro closes got
    simp
  · intro reply same succeeds
    cases succeeds
    refine ⟨edited, rfl, named, ?_, by simp⟩
    rw [RecordStore.contains, Index.contains, ← named, present]
    rfl
  · intro failed
    exact absurd ⟨stores, _, rfl⟩ failed
  · exact (((Within.put named).record _).trans Within.closeWindow).forget

/-- A call is answered: nothing but its own record's lock, copy and book is touched, and of those
is left what the answer tells. -/
theorem Advance.clean (sound : manager.Sound) (identified : manager.Identified)
    (found : manager.calls.get? id = some ⟨session, request, phase⟩)
    (seated : manager.seats.get? session = some seat)
    (target : request.target? = some resource) {outcome : Outcome}
    (advanced : Advance manager id session seat request phase (some outcome) after) :
    CleanEnd id session request resource manager after (.answered outcome) := by
  have fits := sound.fits id _ found
  have here := sound.seats session seat seated
  have opening : ∀ asked, request.opens? = some asked → asked = resource := by
    intro asked opens
    have same := Request.target?_of_opens opens
    rw [target] at same
    exact (Option.some.inj same).symm
  have window : ∀ asked, phase.window? = some asked → asked = resource := by
    intro asked opened
    have same := fits.target? opened
    rw [target] at same
    exact (Option.some.inj same).symm
  cases advanced with
  | removed | told => cases target
  | shut | notCheckedOut =>
    exact .turnedAway trivial (by simp [Ending.IsConflict]) (by simp) (idle_forget sound) (by simp)
      Within.refl.forget
  | contended head live opens held foreign =>
    cases opening _ opens
    exact clean_contended sound _
  | edited field value head live copied =>
    cases target
    apply CleanEnd.gotAt gotAt_ok False.elim (by simp [Request.stores?]) (by simp)
    apply Within.forget
    apply Within.setSession seated
    intro asked different
    simp [different]
  | discarded head live copied =>
    cases target
    exact .gotAt gotAt_ok False.elim (by simp [Request.stores?]) (by simp)
      (Within.closeWindow.record _).forget
  | nothingDiscarded head live missing =>
    cases target
    exact .closeWindow gotAt_ok (by simp [Request.stores?])
  | vanished missing =>
    cases window _ rfl
    exact .closeWindow gotAt_recordNotFound (by simp)
  | checkedOut stored =>
    cases target
    apply CleanEnd.gotAt gotAt_ok False.elim (by simp [Request.stores?]) (by simp)
    apply Within.forget
    apply Within.setSession seated
    intro asked different
    simp [different]
  | readDone copied =>
    cases fits
    cases target
    exact .closeWindow gotAt_ok (by simp [Request.stores?])
  | refused missing =>
    cases window _ rfl
    exact .closeWindow gotAt_recordNotFound (by simp)
  | @stored request asked edited old present =>
    cases window _ rfl
    have named : edited.id = resource := identified.id_storing sound found
    apply clean_stored named present
    rcases fits with ⟨field, value, rfl⟩ | rfl <;> rfl

theorem gotAt_cancel (found : manager.calls.get? id = some ⟨session, request, phase⟩)
    (opened : phase.window?.isSome) : GotAt id manager .cancelled := by
  refine ⟨?_, by simp [Ending.IsConflict]⟩
  rintro ⟨call, there, outside⟩
  rw [found] at there
  cases there
  rw [outside] at opened
  cases opened

/-- A cancelled call that has not been served changes nothing, and one that has been served
leaves neither a lock nor a copy. -/
theorem cancel_clean (sound : manager.Sound)
    (found : manager.calls.get? id = some ⟨session, request, phase⟩)
    (target : request.target? = some resource) :
    CleanEnd id session request resource manager (manager.cancel id) .cancelled := by
  cases opened : phase.window? with
  | none =>
    rw [cancel_of_outside found opened]
    exact .turnedAway ⟨_, found, opened⟩ (by simp [Ending.IsConflict]) (by simp)
      (idle_forget sound) (by simp) Within.refl.forget
  | some asked =>
    have same := (sound.fits id _ found).target? opened
    rw [target] at same
    cases same
    rw [cancel_of_window found opened]
    exact .closeWindow (gotAt_cancel found (by simp [opened])) (by simp)

theorem issue_request (fresh : manager.calls.get? id = none)
    (seated : manager.seats.get? session = some seat) (listed : seat.listed = true)
    (stays : request ≠ .removeSession) :
    manager.issue id session request =
      (none, manager.setCall id ⟨session, request, .arriving⟩) := by
  have same : { seat with listed := true } = seat := by
    rw [← listed]
  rw [issue_of_listed fresh seated listed]
  simp [stays, same, setSeat, Index.insert_of_get? seated]

/-- A call finds its session, or is answered at once that there is none. -/
theorem issue_clean (fresh : manager.calls.get? id = none)
    (target : request.target? = some resource) :
    (∃ outcome, manager.issue id session request = (some outcome, manager) ∧
      CleanEnd id session request resource manager manager (.answered outcome)) ∨
      manager.issue id session request =
        (none, manager.setCall id ⟨session, request, .arriving⟩) := by
  rcases issue_fresh fresh session request with
    ⟨seat, seated, listed, -⟩ | ⟨-, refused⟩
  · right
    apply issue_request fresh seated listed
    rintro rfl
    cases target
  · left
    refine ⟨_, refused, ?_⟩
    exact .turnedAway trivial (by simp [Ending.IsConflict]) (by simp) rfl rfl .refl

theorem calls_step_of_aside (sound : manager.Sound) {act : Act} (other : act.call? ≠ some id) :
    (manager.step act).calls.get? id = manager.calls.get? id := by
  cases act with
  | enter | turnAway | store => rfl
  | enlist session =>
    simp only [step, enlist]
    split <;> rfl
  | issue asked session request =>
    have different : asked ≠ id := fun same => other (congrArg some same)
    rcases issue_cases manager asked session request with same | ⟨seat, -, -, -, issued⟩
    · rw [step, same]
    · simp [step, issued, setCall, setSeat, Index.get?_insert, different]
  | resume asked => exact calls_resume_other sound fun same => other (congrArg some same.symm)
  | cancel asked => exact calls_cancel_other fun same => other (congrArg some same.symm)

end Manager

open Manager

variable {manager : Manager} {id : CallId} {session : SessionId} {request : Request}
  {phase : Phase} {resource : ResourceId} {acts : List Act} {moves : List Move} {last : Move}
  {ending : Ending}

theorem CleanExit.cons (exit : CleanExit id session request resource moves last ending)
    {move : Move} (spares : move.after.store = move.before.store)
    (within : Within session resource move.before move.after)
    (idle : Fruitless id last.before ending ∨ ending.IsConflict →
      Idle id session move.before move.after) :
    CleanExit id session request resource (move :: moves) last ending := by
  constructor
  · exact exit.final
  · intro early other member
    rcases List.mem_cons.mp member with rfl | later
    · exact idle early
    · exact exit.idle early other later
  · intro other member
    rcases List.mem_cons.mp member with rfl | later
    · exact spares
    · exact exit.spares other later
  · intro other member
    rcases List.mem_cons.mp member with rfl | later
    · exact within
    · exact exit.within other later

theorem CleanExit.single {before after : Manager}
    (final : CleanEnd id session request resource before after ending) :
    CleanExit id session request resource [] ⟨before, after⟩ ending := by
  constructor
  · exact final
  · intro early move member
    cases member
  · intro move member
    cases member
  · intro move member
    cases member

/-- From wherever a call has got to, its course leads to a clean exit. -/
theorem Course.clean (course : Course id manager acts moves last ending) {count : Nat}
    (sound : manager.Sound) (numbered : manager.Numbered count) (identified : manager.Identified)
    (few : count + Act.openings acts ≤ 2 ^ 64)
    (found : manager.calls.get? id = some ⟨session, request, phase⟩)
    (target : request.target? = some resource) :
    CleanExit id session request resource moves last ending ∧
      (phase.window?.isSome → GotAt id last.before ending) := by
  obtain ⟨seat, seated⟩ := sound.seated id _ found
  induction course generalizing count phase seat with
  | @ends manager act ending about ended =>
    cases act with
    | enter | enlist | turnAway | store => cases about
    | issue asked caller other =>
      cases about
      simp [ending?, issue_of_used found] at ended
    | resume asked =>
      cases about
      obtain ⟨outcome, answered, rfl⟩ := Option.map_eq_some_iff.mp ended
      have advanced := resume_advance sound found seated
      rw [answered] at advanced
      exact ⟨.single (advanced.clean sound identified found seated target), advanced.got_at⟩
    | cancel asked =>
      cases about
      simp only [ending?, Index.contains, found, Option.isSome_some, if_true,
        Option.some.injEq] at ended
      subst ended
      exact ⟨.single (cancel_clean sound found target), gotAt_cancel found⟩
  | @goesOn manager act rest moves last ending about waits course ih =>
    rw [Act.openings_cons, ← Nat.add_assoc] at few
    have soundly := sound.step numbered act
    have counted : (manager.step act).Numbered (count + Act.openings [act]) :=
      numbered.step sound (by omega)
    have named := identified.step sound act
    cases act with
    | enter | enlist | turnAway | store => cases about
    | issue asked caller other =>
      cases about
      have still : manager.step (.issue id caller other) = manager := by
        rw [step, issue_of_used found]
      rw [still] at soundly counted named ih ⊢
      obtain ⟨exit, got⟩ := ih soundly counted named few found seat seated
      exact ⟨exit.cons rfl .refl fun _ => rfl, got⟩
    | resume asked =>
      cases about
      have advanced := resume_advance sound found seated
      rw [Option.map_eq_none_iff.mp waits] at advanced
      obtain ⟨next, goes, store, within, idle⟩ :=
        advanced.goes_on sound found seated target
      obtain ⟨changed, reseated⟩ := soundly.seated id _ goes
      obtain ⟨exit, got⟩ := ih soundly counted named few goes changed reseated
      constructor
      · apply exit.cons store within
        intro early
        cases opened : next.window? with
        | none => exact (idle opened).2
        | some asked =>
          obtain ⟨served, peaceful⟩ := got (by simp [opened])
          exact (early.elim served peaceful).elim
      · intro opened
        apply got
        rw [Option.isSome_iff_ne_none] at opened ⊢
        exact fun outside => opened (idle outside).1
    | cancel asked =>
      cases about
      simp [ending?, Index.contains, found] at waits
  | @aside manager act rest moves last ending other course ih =>
    rw [Act.openings_cons, ← Nat.add_assoc] at few
    have soundly := sound.step numbered act
    have counted : (manager.step act).Numbered (count + Act.openings [act]) :=
      numbered.step sound (by omega)
    have still := (calls_step_of_aside sound other).trans found
    obtain ⟨changed, reseated⟩ := soundly.seated id _ still
    exact ih soundly counted (identified.step sound act) few still changed reseated

namespace Manager

/-- However a call ends, it has kept to its own record: the locks, copies and books of other
records and those of other sessions are not touched. A call that is cancelled before it is served,
or whose session or copy is not there, has changed nothing; one whose lock is refused has had the
refusal recorded. One that gets at its record and does not keep it leaves neither a lock nor a
copy of it, and only a write or a commit that succeeds stores a book, the one that it returns. -/
theorem every_exit_is_clean (books : List Book) (earlier course : List Act)
    (few : Act.openings (earlier ++ .issue id session request :: course) ≤ 2 ^ 64)
    (fresh : ((start (.ofBooks books)).run earlier).calls.get? id = none)
    (target : request.target? = some resource)
    (ended : Course id ((start (.ofBooks books)).run earlier)
      (.issue id session request :: course) moves last ending) :
    CleanExit id session request resource moves last ending := by
  rw [Act.openings_append, Act.openings_cons, ← Nat.add_assoc] at few
  obtain ⟨sound, numbered⟩ := sound_run (.ofBooks books) earlier (by omega)
  have identified := identified_run books earlier (by omega)
  generalize (start (.ofBooks books)).run earlier = manager at fresh ended sound numbered identified
  rcases issue_clean fresh target with ⟨outcome, answered, clean⟩ | issued
  · have step : manager.step (.issue id session request) = manager := by
      rw [Manager.step, answered]
    cases ended with
    | ends about ended =>
      simp only [ending?, answered, Option.map_some, Option.some.injEq] at ended
      subst ended
      rw [step]
      exact .single clean
    | goesOn about waits ended => simp [ending?, answered] at waits
    | aside other ended => exact absurd rfl other
  · have step : manager.step (.issue id session request) =
        manager.setCall id ⟨session, request, .arriving⟩ := by
      rw [Manager.step, issued]
    have soundly := sound.step numbered (.issue id session request)
    have counted : (manager.step (.issue id session request)).Numbered
        (Act.openings earlier + Act.openings [.issue id session request]) :=
      numbered.step sound (by omega)
    have named := identified.step sound (.issue id session request)
    rw [step] at soundly counted named
    cases ended with
    | ends about ended => simp [ending?, issued] at ended
    | goesOn about waits ended =>
      rw [step] at ended ⊢
      obtain ⟨exit, -⟩ := ended.clean soundly counted named few (calls_setCall _ _ _) target
      exact exit.cons rfl (Within.refl.setCall _) fun _ => idle_setCall _
    | aside other ended => exact absurd rfl other

/-- Two sessions, the first of which has a record checked out. -/
def checkoutByFirst : List Act :=
  [.enter "ann", .enlist ⟨0⟩, .enter "bob", .enlist ⟨1⟩, .issue 0 ⟨0⟩ (.checkout 7), .resume 0,
    .resume 0, .resume 0]

/-- A write of that session after its issue, which is cancelled while it loads the record. In the
meantime the other session has been refused the lock. -/
def cancelledWrite : List Act :=
  [.resume 1, .resume 1, .issue 2 ⟨1⟩ (.read 7 .title), .resume 2, .resume 2, .cancel 1]

theorem every_exit_is_clean_of_cancelledWrite :
    Act.openings (checkoutByFirst ++ .issue 1 ⟨0⟩ (.write 7 .title "new") :: cancelledWrite) ≤
        2 ^ 64 ∧
      ((start (.ofBooks [.titled 7 "old"])).run checkoutByFirst).calls.get? 1 = none ∧
      (Request.write 7 .title "new").target? = some 7 ∧
      ∃ moves last,
        Course 1 ((start (.ofBooks [.titled 7 "old"])).run checkoutByFirst)
          (.issue 1 ⟨0⟩ (.write 7 .title "new") :: cancelledWrite) moves last .cancelled ∧
        last.before.locks.holder 7 = some ⟨0⟩ ∧ last.after.locks.holder 7 ≠ some ⟨0⟩ ∧
        last.after.copy? ⟨0⟩ 7 = none := by
  have few : Act.openings (checkoutByFirst ++
      .issue 1 ⟨0⟩ (.write 7 .title "new") :: cancelledWrite) ≤ 2 ^ 64 := by decide
  have fresh : ((start (.ofBooks [.titled 7 "old"])).run checkoutByFirst).calls.get? 1 = none := by
    decide
  obtain ⟨moves, last, course, held, served⟩ : ∃ moves last,
      Course 1 ((start (.ofBooks [.titled 7 "old"])).run checkoutByFirst)
        (.issue 1 ⟨0⟩ (.write 7 .title "new") :: cancelledWrite) moves last .cancelled ∧
      last.before.locks.holder 7 = some ⟨0⟩ ∧ ¬ last.before.Queued 1 := by
    refine ⟨_, _, .goesOn rfl rfl (.goesOn rfl rfl (.goesOn rfl rfl (.aside (by decide)
      (.aside (by decide) (.aside (by decide) (.ends rfl rfl)))))), by decide, ?_⟩
    rintro ⟨call, found, outside⟩
    cases found
    cases outside
  have clean := every_exit_is_clean [.titled 7 "old"] checkoutByFirst cancelledWrite few fresh rfl
    course
  exact ⟨few, fresh, rfl, moves, last, course, held,
    clean.final.closed trivial ⟨served, by simp [Ending.IsConflict]⟩⟩

end Manager

end RecordLocks
