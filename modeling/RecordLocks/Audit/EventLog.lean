import RecordLocks.Audit.Event
namespace RecordLocks

class Logged (α : Type) where
  aggregate : α → String
  kind : α → String

instance : Logged Notice := ⟨Notice.aggregate, Notice.kind⟩

instance : Logged StoredEvent := ⟨(·.aggregate), (·.kind)⟩

/-- Entries in the order in which they were recorded. -/
abbrev EventLog (α : Type) := List α

namespace EventLog

def record (log : EventLog α) (entry : α) : EventLog α := log ++ [entry]

def recordEvent [DomainEvent β] (log : EventLog StoredEvent) (id : Uuid) (event : β) :
    EventLog StoredEvent :=
  record log (StoredEvent.ofEvent id event)

def about [Logged α] (log : EventLog α) (aggregate : String) : EventLog α :=
  log.filter fun entry => Logged.aggregate entry = aggregate

def ofKind [Logged α] (log : EventLog α) (kind : String) : EventLog α :=
  log.filter fun entry => Logged.kind entry = kind

end EventLog

end RecordLocks
