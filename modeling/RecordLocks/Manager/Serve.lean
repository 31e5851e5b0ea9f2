import RecordLocks.Manager.State
namespace RecordLocks.Manager

def forget (manager : Manager) (id : CallId) (session : SessionId) : Manager :=
  let calls := manager.calls.erase id
  match manager.seats.get? session with
  | none => { manager with calls := calls }
  | some seat =>
    { manager.setSeat session { seat with line := seat.line.erase id } with calls := calls }

def answer (manager : Manager) (id : CallId) (session : SessionId) (outcome : Outcome) :
    Option Outcome × Manager :=
  (some outcome, manager.forget id session)

def await (manager : Manager) (id : CallId) (call : Call) (phase : Phase) :
    Option Outcome × Manager :=
  (none, manager.setCall id { call with phase := phase })

/-- The end of a lock window: first the working copy goes, then the lock. -/
def closeWindow (manager : Manager) (session : SessionId) (resource : ResourceId) : Manager :=
  let without :=
    match manager.seats.get? session with
    | none => manager
    | some seat => manager.setSession session seat (seat.session.release resource).2
  (without.release resource session).2

def openWindow (manager : Manager) (id : CallId) (call : Call) (resource : ResourceId) :
    Option Outcome × Manager :=
  match manager.acquire resource call.session with
  | (.error conflict, after) => after.answer id call.session (.error conflict.toError)
  | (.ok (), after) => after.await id call (.loading resource)

def serveEdit (manager : Manager) (id : CallId) (call : Call) (seat : Seat)
    (resource : ResourceId) (field : BookField) (value : String) : Option Outcome × Manager :=
  let (edited, session) := seat.session.edit resource field value
  (manager.setSession call.session seat session).answer id call.session (edited.map .book)

def serveCommit (manager : Manager) (id : CallId) (call : Call) (seat : Seat)
    (resource : ResourceId) : Option Outcome × Manager :=
  match seat.session.copy? resource with
  | none => manager.answer id call.session (.error (seat.session.notCheckedOut resource))
  | some book =>
    match manager.acquire resource call.session with
    | (.error conflict, after) => after.answer id call.session (.error conflict.toError)
    | (.ok (), after) => after.await id call (.storing resource book)

def serveDiscard (manager : Manager) (id : CallId) (call : Call) (seat : Seat)
    (resource : ResourceId) : Option Outcome × Manager :=
  let (dropped, session) := seat.session.release resource
  let unlocked := ((manager.setSession call.session seat session).release resource call.session).2
  let after :=
    if dropped.isSome then unlocked.record (.discarded call.session resource) else unlocked
  after.answer id call.session (.ok (.flag dropped.isSome))

def serveRemoval (manager : Manager) (id : CallId) (call : Call) (seat : Seat) :
    Option Outcome × Manager :=
  let cleared := { seat with session := seat.session.clear.2, closed := true }
  let (released, after) := (manager.setSeat call.session cleared).releaseAll call.session
  (after.record (.sessionRemoved call.session released)).answer id call.session
    (.ok (.resources released))

def serve (manager : Manager) (id : CallId) (call : Call) (seat : Seat) :
    Option Outcome × Manager :=
  match call.request with
  | .removeSession => manager.serveRemoval id call seat
  | request =>
    if seat.closed then manager.answer id call.session (.error (.sessionNotFound call.session))
    else
      match request with
      | .write resource _ _ | .read resource _ | .checkout resource =>
        manager.openWindow id call resource
      | .edit resource field value => manager.serveEdit id call seat resource field value
      | .commit resource => manager.serveCommit id call seat resource
      | .discard resource => manager.serveDiscard id call seat resource
      | .locksHeld | .removeSession =>
        manager.answer id call.session (.ok (.resources seat.session.checkedOut))

def proceed (manager : Manager) (id : CallId) (call : Call) (seat : Seat)
    (resource : ResourceId) (book : Book) : Option Outcome × Manager :=
  let session := (seat.session.checkout resource book).2
  let loaded := manager.setSession call.session seat session
  match call.request with
  | .write _ field value =>
    match session.edit resource field value with
    | (.ok edited, session) =>
      (manager.setSession call.session seat session).await id call (.writing resource edited)
    | (.error error, _) =>
      (loaded.closeWindow call.session resource).answer id call.session (.error error)
  | .read _ field => loaded.await id call (.reading resource field)
  | _ =>
    match session.copy? resource with
    | some copy => loaded.answer id call.session (.ok (.book copy))
    | none => loaded.answer id call.session (.error (session.notCheckedOut resource))

def load (manager : Manager) (id : CallId) (call : Call) (seat : Seat)
    (resource : ResourceId) : Option Outcome × Manager :=
  match manager.store.get resource with
  | .error error =>
    (manager.closeWindow call.session resource).answer id call.session (.error error)
  | .ok book => manager.proceed id call seat resource book

def finishRead (manager : Manager) (id : CallId) (call : Call) (seat : Seat)
    (resource : ResourceId) (field : BookField) : Option Outcome × Manager :=
  (manager.closeWindow call.session resource).answer id call.session
    ((seat.session.readField resource field).map .text)

def finishWrite (manager : Manager) (id : CallId) (call : Call) (resource : ResourceId)
    (edited : Book) : Option Outcome × Manager :=
  match manager.store.update edited with
  | (.error error, _) =>
    (manager.closeWindow call.session resource).answer id call.session (.error error)
  | (.ok (), store) =>
    let stored := { manager with store := store }.record (.committed call.session resource)
    (stored.closeWindow call.session resource).answer id call.session (.ok (.book edited))

/-- A call looks its session up. A removal unlists the session in the same moment. -/
def issue (manager : Manager) (id : CallId) (session : SessionId) (request : Request) :
    Option Outcome × Manager :=
  if manager.calls.contains id then (none, manager)
  else
    match manager.listed? session with
    | none => (some (.error (.sessionNotFound session)), manager)
    | some seat =>
      let found :=
        if request = .removeSession then manager.setSeat session { seat with listed := false }
        else manager
      (none, found.setCall id ⟨session, request, .arriving⟩)

def isServed (seat : Seat) (id : CallId) : Bool := seat.line.head? = some id

/-- The next step of a call, which answers with its outcome when it ends. A call that waits
behind others does nothing. -/
def resume (manager : Manager) (id : CallId) : Option Outcome × Manager :=
  match manager.calls.get? id with
  | none => (none, manager)
  | some call =>
    match manager.seats.get? call.session with
    | none => (none, manager)
    | some seat =>
      match call.phase with
      | .arriving =>
        let queued := { seat with line := seat.line ++ [id] }
        (manager.setSeat call.session queued).await id call .waiting
      | .waiting => if isServed seat id then manager.serve id call seat else (none, manager)
      | .loading resource => manager.load id call seat resource
      | .writing resource edited => manager.await id call (.storing resource edited)
      | .reading resource field => manager.finishRead id call seat resource field
      | .storing resource edited => manager.finishWrite id call resource edited

/-- A call that is cancelled ends its lock window and leaves the line. -/
def cancel (manager : Manager) (id : CallId) : Manager :=
  match manager.calls.get? id with
  | none => manager
  | some call =>
    match call.phase.window? with
    | none => manager.forget id call.session
    | some resource => (manager.closeWindow call.session resource).forget id call.session

/-- Whether a call is at rest only because it has not been resumed, not for want of time. -/
def isReady (manager : Manager) (id : CallId) : Bool :=
  match manager.calls.get? id with
  | none => false
  | some call =>
    match call.phase with
    | .arriving => true
    | .waiting => (manager.seats.get? call.session).any (isServed · id)
    | _ => false

end RecordLocks.Manager
