import RecordLocks.LockTable
import RecordLocks.RecordStore
import RecordLocks.Session
namespace RecordLocks

/-- What a session may ask for. Each request has its session for itself while it is served. -/
inductive Request where
  | write (resource : ResourceId) (field : BookField) (value : String)
  | read (resource : ResourceId) (field : BookField)
  | checkout (resource : ResourceId)
  | edit (resource : ResourceId) (field : BookField) (value : String)
  | commit (resource : ResourceId)
  | discard (resource : ResourceId)
  | locksHeld
  | removeSession
  deriving DecidableEq, Repr

inductive Reply where
  | book (book : Book)
  | text (text : String)
  | flag (value : Bool)
  | resources (resources : List ResourceId)
  | done
  deriving DecidableEq, Repr

abbrev Outcome := Except AccessError Reply

abbrev CallId := Nat

/-- How far a request has come: it has found its session, it stands in the session's line, it has
locked the record and waits for the store to load it, it works on the record, or it waits for the
store to take the edited record. -/
inductive Phase where
  | arriving
  | waiting
  | loading (resource : ResourceId)
  | writing (resource : ResourceId) (edited : Book)
  | reading (resource : ResourceId) (field : BookField)
  | storing (resource : ResourceId) (edited : Book)
  deriving DecidableEq, Repr

def Phase.window? : Phase → Option ResourceId
  | arriving | waiting => none
  | loading resource | writing resource _ | reading resource _ | storing resource _ =>
    some resource

structure Call where
  session : SessionId
  request : Request
  phase : Phase
  deriving DecidableEq, Repr

/-- A session with the calls that stand in line for it; the first of them is being served. -/
structure Seat where
  session : Session
  line : List CallId
  listed : Bool
  closed : Bool
  deriving DecidableEq

/-- Sessions working on shared records. An entrant has the number of its session, and the session
is not listed yet. -/
structure Manager where
  store : RecordStore
  locks : LockTable
  trail : List Notice
  nextSession : UInt64
  entrants : Index SessionId String
  seats : Index SessionId Seat
  calls : Index CallId Call
  deriving DecidableEq

namespace Manager

def start (store : RecordStore) : Manager := ⟨store, .empty, [], 0, ∅, ∅, ∅⟩

def record (manager : Manager) (notice : Notice) : Manager :=
  { manager with trail := manager.trail ++ [notice] }

def applyLocks (manager : Manager) (change : LockTable.Change α) : α × Manager :=
  (change.answer,
    { manager with locks := change.table, trail := manager.trail ++ change.notices })

def acquire (manager : Manager) (resource : ResourceId) (owner : SessionId) :
    Except LockConflict Unit × Manager :=
  manager.applyLocks (manager.locks.acquire resource owner)

def release (manager : Manager) (resource : ResourceId) (owner : SessionId) : Bool × Manager :=
  manager.applyLocks (manager.locks.release resource owner)

def releaseAll (manager : Manager) (owner : SessionId) : List ResourceId × Manager :=
  manager.applyLocks (manager.locks.releaseAll owner)

def setSeat (manager : Manager) (id : SessionId) (seat : Seat) : Manager :=
  { manager with seats := manager.seats.insert id seat }

def setSession (manager : Manager) (id : SessionId) (seat : Seat) (session : Session) : Manager :=
  manager.setSeat id { seat with session := session }

def setCall (manager : Manager) (id : CallId) (call : Call) : Manager :=
  { manager with calls := manager.calls.insert id call }

def listed? (manager : Manager) (id : SessionId) : Option Seat :=
  (manager.seats.get? id).filter (·.listed)

def enter (manager : Manager) (user : String) : SessionId × Manager :=
  let id : SessionId := ⟨manager.nextSession⟩
  (id, { manager with
    nextSession := manager.nextSession + 1
    entrants := manager.entrants.insert id user })

/-- An entrant that does not wait to be listed; its number stays used. -/
def turnAway (manager : Manager) (id : SessionId) : Manager :=
  { manager with entrants := manager.entrants.erase id }

def enlist (manager : Manager) (id : SessionId) : Manager :=
  match manager.entrants.get? id with
  | none => manager
  | some user =>
    ((manager.turnAway id).setSeat id ⟨.start id user, [], true, false⟩).record
      (.sessionStarted id user)

def openSession (manager : Manager) (user : String) : SessionId × Manager :=
  let (id, entered) := manager.enter user
  (id, entered.enlist id)

def listedSeats (manager : Manager) : List (SessionId × Seat) :=
  (manager.seats.filter fun _ seat => seat.listed).toList

def sessionCount (manager : Manager) : Nat := manager.listedSeats.length

def sessions (manager : Manager) : List (SessionId × String × List ResourceId) :=
  manager.listedSeats.map fun (id, seat) => (id, seat.session.user, manager.locks.heldBy id)

end Manager

end RecordLocks
