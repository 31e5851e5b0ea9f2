import RecordLocks.LockTable
namespace RecordLocks

open Json (Document)

instance : Coded LockStatus :=
  ⟨fun status => .text status.name, Document.variant? (LockStatus.all.map fun s => (s.name, s))⟩

instance : Coded LockEventKind :=
  ⟨fun kind => .text kind.name, Document.variant? (LockEventKind.all.map fun k => (k.name, k))⟩

instance : Coded SessionEventKind :=
  ⟨fun kind => .text kind.code,
    Document.variant? (SessionEventKind.all.map fun k => (k.code, k))⟩

/-- A lock as it is listed. -/
structure LockInfo where
  resource : ResourceId
  owner : SessionId
  acquiredAt : Instant
  deriving DecidableEq

def LockInfo.key (info : LockInfo) : String := resourceKey info.resource

instance : Coded LockInfo where
  encode info := .object
    [("resource", Coded.encode info.resource), ("owner", Coded.encode info.owner),
      ("acquired_at", Coded.encode info.acquiredAt)]
  decode document := do
    match ← document.fields? ["resource", "owner", "acquired_at"] false with
    | [some resource, some owner, some acquiredAt] =>
      return ⟨← Coded.decode resource, ← Coded.decode owner, ← Coded.decode acquiredAt⟩
    | _ => none

/-- A session as it is listed. -/
structure SessionInfo where
  id : SessionId
  user : String
  checkedOut : List ResourceId
  createdAt : Instant
  deriving DecidableEq

instance : Coded SessionInfo where
  encode info := .object
    [("id", Coded.encode info.id), ("user_name", Coded.encode info.user),
      ("checked_out", Coded.encode info.checkedOut), ("created_at", Coded.encode info.createdAt)]
  decode document := do
    match ← document.fields? ["id", "user_name", "checked_out", "created_at"] false with
    | [some id, some user, some checkedOut, some createdAt] =>
      return ⟨← Coded.decode id, ← Coded.decode user, ← Coded.decode checkedOut,
        ← Coded.decode createdAt⟩
    | _ => none

/-- What any event tells the event store. -/
class DomainEvent (α : Type) where
  kind : α → String
  aggregate : α → String
  time : α → Instant
  data : α → Option Json

structure LockEvent where
  id : Uuid
  resource : ResourceId
  kind : LockEventKind
  data : Option Json
  createdAt : Instant

structure SessionEvent where
  id : Uuid
  session : SessionId
  kind : SessionEventKind
  data : Option Json
  createdAt : Instant

structure StoredEvent where
  id : Uuid
  aggregate : String
  kind : String
  data : Option Json
  createdAt : Instant

instance : DomainEvent LockEvent :=
  ⟨(·.kind.name), (resourceKey ·.resource), (·.createdAt), (·.data)⟩

instance : DomainEvent SessionEvent :=
  ⟨(·.kind.name), (·.session.key), (·.createdAt), (·.data)⟩

def StoredEvent.ofEvent [DomainEvent α] (id : Uuid) (event : α) : StoredEvent :=
  ⟨id, DomainEvent.aggregate event, DomainEvent.kind event, DomainEvent.data event,
    DomainEvent.time event⟩

namespace LockEvent

def acquired (id : Uuid) (time : Instant) (resource : ResourceId) (holder : SessionId) :
    LockEvent :=
  ⟨id, resource, .acquired, some ((Notice.lockAcquired resource holder).data .null), time⟩

def released (id : Uuid) (time : Instant) (resource : ResourceId) (holder : SessionId)
    (heldFor : UInt64) : LockEvent :=
  ⟨id, resource, .released,
    some ((Notice.lockReleased resource holder).data (.word heldFor)), time⟩

def contention (id : Uuid) (time : Instant) (resource : ResourceId) (holder blocked : SessionId) :
    LockEvent :=
  ⟨id, resource, .contention,
    some ((Notice.lockContention resource holder blocked).data .null), time⟩

end LockEvent

namespace SessionEvent

def started (id : Uuid) (time : Instant) (session : SessionId) (user : String) : SessionEvent :=
  ⟨id, session, .started, some ((Notice.sessionStarted session user).data .null), time⟩

def removed (id : Uuid) (time : Instant) (session : SessionId) (released : List ResourceId) :
    SessionEvent :=
  ⟨id, session, .removed, some ((Notice.sessionRemoved session released).data .null), time⟩

def committed (id : Uuid) (time : Instant) (session : SessionId) (resource : ResourceId) :
    SessionEvent :=
  ⟨id, session, .committed, some ((Notice.committed session resource).data .null), time⟩

def discarded (id : Uuid) (time : Instant) (session : SessionId) (resource : ResourceId) :
    SessionEvent :=
  ⟨id, session, .discarded, some ((Notice.discarded session resource).data .null), time⟩

end SessionEvent

/-- The record around the data takes one of the levels to which JSON may nest. -/
def dataDepth : Nat := Json.depthLimit - 1

/-- Missing data and null are the same. -/
def decodeData : Option Document → Option (Option Json)
  | none | some .null => some none
  | some document => (document.value? dataDepth).map some

instance : Coded LockEvent where
  encode event := .object
    [("id", Coded.encode event.id), ("resource", Coded.encode event.resource),
      ("event_type", Coded.encode event.kind), ("data", event.data.getD .null),
      ("created_at", Coded.encode event.createdAt)]
  decode document := do
    match ← document.fields? ["id", "resource", "event_type", "data", "created_at"] false with
    | [some id, some resource, some kind, data, some createdAt] =>
      return ⟨← Coded.decode id, ← Coded.decode resource, ← Coded.decode kind,
        ← decodeData data, ← Coded.decode createdAt⟩
    | _ => none

instance : Coded SessionEvent where
  encode event := .object
    [("id", Coded.encode event.id), ("session_id", Coded.encode event.session),
      ("event_type", Coded.encode event.kind), ("data", event.data.getD .null),
      ("created_at", Coded.encode event.createdAt)]
  decode document := do
    match ← document.fields? ["id", "session_id", "event_type", "data", "created_at"] false with
    | [some id, some session, some kind, data, some createdAt] =>
      return ⟨← Coded.decode id, ← Coded.decode session, ← Coded.decode kind,
        ← decodeData data, ← Coded.decode createdAt⟩
    | _ => none

instance : Coded StoredEvent where
  encode event := .object
    [("id", Coded.encode event.id), ("aggregate_id", Coded.encode event.aggregate),
      ("event_type", Coded.encode event.kind), ("data", event.data.getD .null),
      ("created_at", Coded.encode event.createdAt)]
  decode document := do
    match ← document.fields? ["id", "aggregate_id", "event_type", "data", "created_at"] false with
    | [some id, some aggregate, some kind, data, some createdAt] =>
      return ⟨← Coded.decode id, ← Coded.decode aggregate, ← Coded.decode kind,
        ← decodeData data, ← Coded.decode createdAt⟩
    | _ => none

end RecordLocks
