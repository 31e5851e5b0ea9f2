import RecordLocks.Json.Coded
namespace RecordLocks

inductive LockEventKind where
  | acquired
  | released
  | contention
  deriving DecidableEq, Repr

namespace LockEventKind

def all : List LockEventKind := [acquired, released, contention]

def name : LockEventKind → String
  | acquired => "lock_acquired"
  | released => "lock_released"
  | contention => "lock_contention"

end LockEventKind

inductive SessionEventKind where
  | started
  | removed
  | committed
  | discarded
  deriving DecidableEq, Repr

namespace SessionEventKind

def all : List SessionEventKind := [started, removed, committed, discarded]

/-- The name in the audit trail. -/
def name : SessionEventKind → String
  | started => "session_started"
  | removed => "session_removed"
  | committed => "record_committed"
  | discarded => "record_discarded"

/-- The name in a written event. -/
def code : SessionEventKind → String
  | started => "started"
  | removed => "removed"
  | committed => "committed"
  | discarded => "discarded"

end SessionEventKind

inductive Notice where
  | lockAcquired (resource : ResourceId) (holder : SessionId)
  | lockReleased (resource : ResourceId) (holder : SessionId)
  | lockContention (resource : ResourceId) (holder blocked : SessionId)
  | sessionStarted (session : SessionId) (user : String)
  | sessionRemoved (session : SessionId) (released : List ResourceId)
  | committed (session : SessionId) (resource : ResourceId)
  | discarded (session : SessionId) (resource : ResourceId)
  deriving DecidableEq, Repr

namespace Notice

def kind : Notice → String
  | lockAcquired _ _ => LockEventKind.acquired.name
  | lockReleased _ _ => LockEventKind.released.name
  | lockContention _ _ _ => LockEventKind.contention.name
  | sessionStarted _ _ => SessionEventKind.started.name
  | sessionRemoved _ _ => SessionEventKind.removed.name
  | committed _ _ => SessionEventKind.committed.name
  | discarded _ _ => SessionEventKind.discarded.name

def aggregate : Notice → String
  | lockAcquired resource _ | lockReleased resource _ | lockContention resource _ _ =>
    resourceKey resource
  | sessionStarted session _ | sessionRemoved session _ | committed session _
  | discarded session _ => session.key

/-- The particulars of an entry; those of a release tell for how long the lock was held. -/
def data (heldFor : Json) : Notice → Json
  | lockAcquired _ holder => .object [("holder_id", .text holder.text)]
  | lockReleased _ holder =>
    .object [("duration_ms", heldFor), ("holder_id", .text holder.text)]
  | lockContention _ holder blocked =>
    .object [("blocked_holder", .text blocked.text), ("current_holder", .text holder.text)]
  | sessionStarted _ user => .object [("user_name", .text user)]
  | sessionRemoved _ released => .object [("released", .array (released.map .word))]
  | committed _ resource => .object [("resource", .word resource)]
  | discarded _ resource => .object [("resource", .word resource)]

end Notice

end RecordLocks
