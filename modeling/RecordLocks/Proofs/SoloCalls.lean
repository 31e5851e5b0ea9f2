import RecordLocks.Proofs.Determined
import RecordLocks.Proofs.Alone
namespace RecordLocks

namespace Session

/-- When a copy is given up, nothing is left of how it was come by. -/
theorem release_checkout (session : Session) (resource : ResourceId) (book : Book) :
    ((session.checkout resource book).2.release resource).2 = (session.release resource).2 := by
  simp only [checkout, release]
  split
  · rfl
  · simp

theorem release_edit (session : Session) (resource : ResourceId) (field : BookField)
    (value : String) :
    ((session.edit resource field value).2.release resource).2 = (session.release resource).2 := by
  simp only [edit, release]
  split
  · rfl
  · simp

/-- Who has no copy has nothing to give up. -/
theorem release_of_none {session : Session} {resource : ResourceId}
    (missing : session.copy? resource = none) : (session.release resource).2 = session := by
  rw [release, Index.erase_of_none missing]

end Session

theorem RecordStore.contains_of_stored {store : RecordStore} {resource : ResourceId}
    {book other : Book} (stored : store.books.get? resource = some book)
    (named : other.id = resource) : store.contains other.id = true := by
  rw [named, contains, Index.contains, stored]
  rfl

namespace Manager

/-- A listed session that no call is for, and a number that no call has. -/
structure AtLeisure (manager : Manager) (id : CallId) (session : SessionId) (seat : Seat) :
    Prop where
  fresh : manager.calls.get? id = none
  seated : manager.seats.get? session = some seat
  line : seat.line = []
  listed : seat.listed = true
  live : seat.closed = false

/-- A session serves its only call and has come to these copies. -/
def serving (manager : Manager) (id : CallId) (session : SessionId) (seat : Seat)
    (copies : Session) (request : Request) (phase : Phase) : Manager :=
  (manager.setSession session { seat with line := [id] } copies).setCall id
    ⟨session, request, phase⟩

variable {manager : Manager} {id : CallId} {session holder : SessionId} {seat : Seat}
  {copies : Session} {request : Request} {phase : Phase} {resource : ResourceId}
  {book copy : Book}

theorem calls_serving : (manager.serving id session seat copies request phase).calls.get? id =
    some ⟨session, request, phase⟩ := by
  simp [serving, setCall, Index.get?_insert]

theorem seats_serving : (manager.serving id session seat copies request phase).seats.get? session =
    some { seat with line := [id], session := copies } := by
  simp [serving, setCall, setSession, setSeat, Index.get?_insert]

theorem await_serving (next : Phase) :
    (manager.serving id session seat copies request phase).await id ⟨session, request, phase⟩ next =
      (none, manager.serving id session seat copies request next) := by
  simp [serving, await, setCall]

theorem setSession_serving (edited : Session) :
    (manager.serving id session seat copies request phase).setSession session
        { seat with line := [id], session := copies } edited =
      manager.serving id session seat edited request phase := by
  simp [serving, setSession, setCall, setSeat]

theorem closeWindow_serving :
    (manager.serving id session seat copies request phase).closeWindow session resource =
      (manager.release resource session).2.serving id session seat (copies.release resource).2
        request phase := by
  rw [closeWindow, seats_serving]
  simp only [setSession_serving]
  rfl

/-- When its call has been answered the session is as it was, but for its copies. -/
theorem answer_serving (fresh : manager.calls.get? id = none) (line : seat.line = [])
    (outcome : Outcome) :
    (manager.serving id session seat copies request phase).answer id session outcome =
      (some outcome, manager.setSession session seat copies) := by
  have empty : ([id] : List CallId).erase id = seat.line := by simp [line]
  rw [answer, forget, seats_serving]
  simp only [empty, serving, setCall, setSession, setSeat, Index.insert_insert, Index.erase_insert,
    Index.erase_of_none fresh]

/-- What nobody has locked, no other session has. -/
theorem free_of_unlocked (unlocked : manager.locks.holder resource = none) (session : SessionId) :
    ∀ holder, manager.locks.holder resource = some holder → holder = session := by
  intro holder held
  rw [unlocked] at held
  cases held

theorem stays_of_opens (opens : request.opens? = some resource) : request ≠ .removeSession := by
  rintro rfl
  cases opens

theorem resume_waiting (request : Request) :
    (manager.serving id session seat copies request .waiting).resume id =
      (manager.serving id session seat copies request .waiting).serve id
        ⟨session, request, .waiting⟩ { seat with line := [id], session := copies } :=
  resume_served calls_serving seats_serving rfl

theorem resume_opens (live : seat.closed = false) (opens : request.opens? = some resource) :
    (manager.serving id session seat copies request .waiting).resume id =
      (manager.serving id session seat copies request .waiting).openWindow id
        ⟨session, request, .waiting⟩ resource := by
  rw [resume_waiting]
  exact serve_opens opens live

theorem resume_edit (live : seat.closed = false) (field : BookField) (value : String) :
    (manager.serving id session seat copies (.edit resource field value) .waiting).resume id =
      (manager.serving id session seat copies (.edit resource field value) .waiting).serveEdit id
        ⟨session, .edit resource field value, .waiting⟩
        { seat with line := [id], session := copies } resource field value := by
  rw [resume_waiting]
  simp [serve, live]

theorem resume_commit (live : seat.closed = false) :
    (manager.serving id session seat copies (.commit resource) .waiting).resume id =
      (manager.serving id session seat copies (.commit resource) .waiting).serveCommit id
        ⟨session, .commit resource, .waiting⟩ { seat with line := [id], session := copies }
        resource := by
  rw [resume_waiting]
  simp [serve, live]

theorem resume_loading (request : Request) :
    (manager.serving id session seat copies request (.loading resource)).resume id =
      (manager.serving id session seat copies request (.loading resource)).load id
        ⟨session, request, .loading resource⟩ { seat with line := [id], session := copies }
        resource := by
  simp only [resume, calls_serving, seats_serving]

/-- The session of a call that loads a record takes it among its copies. -/
theorem resume_stored (stored : manager.store.books.get? resource = some book) (request : Request) :
    (manager.serving id session seat copies request (.loading resource)).resume id =
      (manager.serving id session seat copies request (.loading resource)).proceed id
        ⟨session, request, .loading resource⟩ { seat with line := [id], session := copies }
        resource book := by
  have found : (manager.serving id session seat copies request (.loading resource)).store.get
      resource = .ok book := by
    show manager.store.get resource = _
    rw [RecordStore.get, stored]
  rw [resume_loading, load, found]

/-- A loaded record is edited at once. -/
theorem resume_loaded_write (stored : manager.store.books.get? resource = some book)
    (field : BookField) (value : String)
    (edited : copy = ((copies.copy? resource).getD book).set field value) :
    (manager.serving id session seat copies (.write resource field value)
        (.loading resource)).resume id =
      (none, manager.serving id session seat
        ((copies.checkout resource book).2.edit resource field value).2
        (.write resource field value) (.writing resource copy)) := by
  have copied : (copies.checkout resource book).2.copy? resource =
      some ((copies.copy? resource).getD book) := by
    simp
  rw [resume_stored stored, proceed]
  simp only [Session.edit_of_copy copied, setSession_serving, edited]
  exact await_serving _

theorem resume_writing (request : Request) :
    (manager.serving id session seat copies request (.writing resource copy)).resume id =
      (none, manager.serving id session seat copies request (.storing resource copy)) := by
  simp only [resume, calls_serving, seats_serving]
  exact await_serving _

theorem resume_loaded_read (stored : manager.store.books.get? resource = some book)
    (field : BookField) :
    (manager.serving id session seat copies (.read resource field) (.loading resource)).resume id =
      (none, manager.serving id session seat (copies.checkout resource book).2
        (.read resource field) (.reading resource field)) := by
  rw [resume_stored stored, proceed]
  simp only [setSession_serving]
  exact await_serving _

/-- What is left when a record is given up that has only been looked at. -/
def yielded (manager : Manager) (session : SessionId) (seat : Seat) (resource : ResourceId) :
    Manager :=
  (manager.release resource session).2.setSession session seat (seat.session.release resource).2

/-- What is left when a session leaves: its seat is kept, unlisted and closed. -/
def departed (manager : Manager) (session : SessionId) (seat : Seat) : Manager :=
  let after := ((manager.releaseAll session).2.record
    (.sessionRemoved session (manager.locks.heldBy session)))
  after.setSeat session ⟨seat.session.clear.2, [], false, true⟩

/-- What is left when an edited record goes to the store and is given up. -/
def committed (manager : Manager) (session : SessionId) (seat : Seat) (resource : ResourceId)
    (edited : Book) : Manager :=
  yielded (({ manager with store := manager.store.put edited }).record
    (.committed session resource)) session seat resource

namespace AtLeisure

theorem of_same (leisure : manager.AtLeisure id session seat) {other : Manager}
    (calls : other.calls = manager.calls) (seats : other.seats = manager.seats) :
    other.AtLeisure id session seat := by
  refine ⟨?_, ?_, leisure.line, leisure.listed, leisure.live⟩
  · rw [calls, leisure.fresh]
  · rw [seats, leisure.seated]

theorem acquired (leisure : manager.AtLeisure id session seat) (resource : ResourceId) :
    (manager.acquire resource session).2.AtLeisure id session seat :=
  leisure.of_same rfl rfl

theorem yielded_of_none (leisure : manager.AtLeisure id session seat)
    (missing : seat.session.copy? resource = none) :
    manager.yielded session seat resource = (manager.release resource session).2 := by
  have seated : (manager.release resource session).2.seats.get? session = some seat :=
    leisure.seated
  rw [yielded, Session.release_of_none missing, setSession_same seated]

theorem ask_eq (leisure : manager.AtLeisure id session seat) (stays : request ≠ .removeSession) :
    manager.ask id session request =
      (manager.serving id session seat seat.session request .waiting).finish 4 id := by
  rw [ask_of_idle leisure.seated leisure.listed leisure.line leisure.fresh, serving]
  simp [stays, leisure.listed, setSession]

/-- A request for a record that another session has is refused at once. -/
theorem resume_contended (leisure : manager.AtLeisure id session seat)
    (opens : request.opens? = some resource)
    (held : manager.locks.holder resource = some holder) (foreign : holder ≠ session) :
    (manager.serving id session seat seat.session request .waiting).resume id =
      (some (.error (.lockConflict resource holder)),
        manager.record (.lockContention resource holder session)) := by
  have refused : (manager.serving id session seat seat.session request .waiting).acquire resource
      session = (.error ⟨resource, holder⟩,
        (manager.record (.lockContention resource holder session)).serving id session seat
          seat.session request .waiting) := by
    have asked : (manager.serving id session seat seat.session request .waiting).locks =
        manager.locks := rfl
    rw [acquire, applyLocks, asked, LockTable.acquire_of_other held foreign]
    rfl
  have fresh : (manager.record (.lockContention resource holder session)).calls.get? id = none :=
    leisure.fresh
  have seated : (manager.record (.lockContention resource holder session)).seats.get? session =
    some seat := leisure.seated
  rw [resume_opens leisure.live opens, openWindow, refused]
  simp only [answer_serving fresh leisure.line, setSession_same seated]
  rfl

theorem ask_contended (leisure : manager.AtLeisure id session seat)
    (opens : request.opens? = some resource)
    (held : manager.locks.holder resource = some holder) (foreign : holder ≠ session) :
    manager.ask id session request =
      (some (.error (.lockConflict resource holder)),
        manager.record (.lockContention resource holder session)) := by
  rw [leisure.ask_eq (stays_of_opens opens), finish, leisure.resume_contended opens held foreign]

/-- A request for a record that no other session has locks it. -/
theorem resume_granted (leisure : manager.AtLeisure id session seat)
    (opens : request.opens? = some resource)
    (free : ∀ holder, manager.locks.holder resource = some holder → holder = session) :
    (manager.serving id session seat seat.session request .waiting).resume id =
      (none, (manager.acquire resource session).2.serving id session seat seat.session request
        (.loading resource)) := by
  have granted : (manager.serving id session seat seat.session request .waiting).acquire resource
      session = (.ok (), (manager.acquire resource session).2.serving id session seat
        seat.session request .waiting) :=
    acquire_of_granted free
  rw [resume_opens leisure.live opens, openWindow, granted]
  exact await_serving _

theorem ask_granted (leisure : manager.AtLeisure id session seat)
    (opens : request.opens? = some resource)
    (free : ∀ holder, manager.locks.holder resource = some holder → holder = session) :
    manager.ask id session request =
      ((manager.acquire resource session).2.serving id session seat seat.session request
        (.loading resource)).finish 3 id := by
  rw [leisure.ask_eq (stays_of_opens opens),
    finish_of_wait (leisure.resume_granted opens free)]

theorem ask_vanished (leisure : manager.AtLeisure id session seat)
    (opens : request.opens? = some resource)
    (free : ∀ holder, manager.locks.holder resource = some holder → holder = session)
    (missing : manager.store.books.get? resource = none) :
    manager.ask id session request =
      (some (.error (.recordNotFound resource)),
        (manager.acquire resource session).2.yielded session seat resource) := by
  have failed : ((manager.acquire resource session).2.serving id session seat seat.session request
      (.loading resource)).store.get resource = .error (.recordNotFound resource) := by
    show manager.store.get resource = _
    rw [RecordStore.get, missing]
  have fresh : ((manager.acquire resource session).2.release resource session).2.calls.get? id =
    none := leisure.fresh
  rw [leisure.ask_granted opens free, finish, resume_loading, load, failed]
  simp only [closeWindow_serving, answer_serving fresh leisure.line]
  rfl

theorem ask_checkout (leisure : manager.AtLeisure id session seat)
    (free : ∀ holder, manager.locks.holder resource = some holder → holder = session)
    (stored : manager.store.books.get? resource = some book) :
    manager.ask id session (.checkout resource) =
      (some (.ok (.book ((seat.session.copy? resource).getD book))),
        (manager.acquire resource session).2.setSession session seat
          (seat.session.checkout resource book).2) := by
  have copied : (seat.session.checkout resource book).2.copy? resource =
      some ((seat.session.copy? resource).getD book) := by
    simp
  have fresh : (manager.acquire resource session).2.calls.get? id = none := leisure.fresh
  have found : (manager.acquire resource session).2.store.books.get? resource = some book := stored
  rw [leisure.ask_granted rfl free, finish, resume_stored found, proceed]
  simp only [copied, setSession_serving, answer_serving fresh leisure.line]

theorem ask_edit (leisure : manager.AtLeisure id session seat)
    (copied : seat.session.copy? resource = some copy) (field : BookField) (value : String) :
    manager.ask id session (.edit resource field value) =
      (some (.ok (.book (copy.set field value))),
        manager.setSession session seat (seat.session.edit resource field value).2) := by
  rw [leisure.ask_eq (by simp), finish, resume_edit leisure.live]
  simp only [serveEdit, Session.edit_of_copy copied, setSession_serving,
    answer_serving leisure.fresh leisure.line]
  rfl

/-- A record that has been read is given up. -/
theorem resume_reading (leisure : manager.AtLeisure id session seat) (resource : ResourceId)
    (book : Book) (request : Request) (field : BookField) :
    (manager.serving id session seat (seat.session.checkout resource book).2 request
      (.reading resource field)).resume id =
      (some (.ok (.text (((seat.session.copy? resource).getD book).get field))),
        manager.yielded session seat resource) := by
  have fresh : (manager.release resource session).2.calls.get? id = none := leisure.fresh
  have copied : (seat.session.checkout resource book).2.copy? resource =
      some ((seat.session.copy? resource).getD book) := by
    simp
  simp only [resume, calls_serving, seats_serving, finishRead, closeWindow_serving,
    answer_serving fresh leisure.line, Session.readField, copied,
    seat.session.release_checkout resource book]
  rfl

theorem resume_removeSession (leisure : manager.AtLeisure id session seat) :
    (manager.serving id session { seat with listed := false } seat.session .removeSession
        .waiting).resume id =
      (some (.ok (.resources (manager.locks.heldBy session))), manager.departed session seat) := by
  have released : ∀ cleared, ((manager.serving id session { seat with listed := false }
      seat.session .removeSession .waiting).setSeat session
        ⟨cleared, [id], false, true⟩).releaseAll session =
      (manager.locks.heldBy session,
        (manager.releaseAll session).2.serving id session ⟨cleared, [], false, true⟩ cleared
          .removeSession .waiting) := by
    intro cleared
    simp [serving, setSession, setSeat, setCall, releaseAll, applyLocks, LockTable.releaseAll]
  have gone : ((manager.releaseAll session).2.record
      (.sessionRemoved session (manager.locks.heldBy session))).calls.get? id = none :=
    leisure.fresh
  rw [resume_waiting, serve, serveRemoval]
  simp only [released]
  exact answer_serving gone rfl _

theorem resume_storing (leisure : manager.AtLeisure id session seat)
    (present : manager.store.contains copy.id = true) (request : Request)
    (dropped : (copies.release resource).2 = (seat.session.release resource).2) :
    (manager.serving id session seat copies request (.storing resource copy)).resume id =
      (some (.ok (.book copy)), committed manager session seat resource copy) := by
  have updated : (manager.serving id session seat copies request
      (.storing resource copy)).store.update copy = (.ok (), manager.store.put copy) := by
    show manager.store.update copy = _
    rw [RecordStore.update, if_pos present]
  have moved : ({ manager.serving id session seat copies request (.storing resource copy) with
      store := manager.store.put copy }).record (.committed session resource) =
        (({ manager with store := manager.store.put copy }).record
          (.committed session resource)).serving id session seat copies request
            (.storing resource copy) := rfl
  have fresh : (({ manager with store := manager.store.put copy }.record
      (.committed session resource)).release resource session).2.calls.get? id = none :=
    leisure.fresh
  simp only [resume, calls_serving, seats_serving, finishWrite, updated, moved,
    closeWindow_serving]
  rw [answer_serving fresh leisure.line, dropped]
  rfl

theorem ask_commit (leisure : manager.AtLeisure id session seat)
    (copied : seat.session.copy? resource = some copy)
    (held : manager.locks.holder resource = some session)
    (present : manager.store.contains copy.id = true) :
    manager.ask id session (.commit resource) =
      (some (.ok (.book copy)), committed manager session seat resource copy) := by
  have own : (manager.serving id session seat seat.session (.commit resource) .waiting).acquire
      resource session =
        (.ok (), manager.serving id session seat seat.session (.commit resource) .waiting) :=
    acquire_of_own held
  have waits : (manager.serving id session seat seat.session (.commit resource) .waiting).resume
      id = (none, manager.serving id session seat seat.session (.commit resource)
        (.storing resource copy)) := by
    rw [resume_commit leisure.live]
    simp only [serveCommit, copied, own]
    exact await_serving _
  rw [leisure.ask_eq (by simp), finish_of_wait waits, finish,
    resume_storing leisure present _ rfl]

theorem ask_write (leisure : manager.AtLeisure id session seat)
    (free : ∀ holder, manager.locks.holder resource = some holder → holder = session)
    (stored : manager.store.books.get? resource = some book)
    (field : BookField) (value : String)
    (edited : copy = ((seat.session.copy? resource).getD book).set field value)
    (present : manager.store.contains copy.id = true) :
    manager.ask id session (.write resource field value) =
      (some (.ok (.book copy)),
        committed (manager.acquire resource session).2 session seat resource copy) := by
  have dropped : (((seat.session.checkout resource book).2.edit resource field value).2.release
      resource).2 = (seat.session.release resource).2 := by
    rw [Session.release_edit, Session.release_checkout]
  have found : (manager.acquire resource session).2.store.books.get? resource = some book := stored
  rw [leisure.ask_granted rfl free,
    finish_of_wait (resume_loaded_write found field value edited),
    finish_of_wait (resume_writing _), finish,
    (leisure.acquired resource).resume_storing present _ dropped]

end AtLeisure

end Manager

end RecordLocks
