import RecordLocks.Ids
namespace RecordLocks

/-- Why a request on shared records was refused. -/
inductive AccessError where
  | sessionNotFound (session : SessionId)
  | recordNotFound (resource : ResourceId)
  | notCheckedOut (session : SessionId) (resource : ResourceId)
  | duplicateRecord (resource : ResourceId)
  | lockConflict (resource : ResourceId) (holder : SessionId)
  | invalidField (name : String)
  deriving DecidableEq, Repr

namespace AccessError

def message : AccessError → String
  | sessionNotFound session => s!"Session '{session.text}' not found. It may have been removed."
  | recordNotFound resource => s!"Record {idText resource} not found in the record store."
  | notCheckedOut session resource =>
    s!"Session '{session.text}' does not have record {idText resource} checked out."
  | duplicateRecord resource => s!"Duplicate record with id {idText resource}."
  | lockConflict resource holder =>
    s!"Another user has lock on resource {idText resource} (held by session '{holder.text}')."
  | invalidField name =>
    s!"'{name}' is not a valid book field. Expected one of: Title, Author."

def code : AccessError → String
  | sessionNotFound _ => "E001"
  | recordNotFound _ => "E002"
  | notCheckedOut _ _ => "E003"
  | duplicateRecord _ => "E004"
  | lockConflict _ _ => "E300"
  | invalidField _ => "E800"

def suggestion : AccessError → Option String
  | sessionNotFound _ => some "Open a new session and retry"
  | lockConflict _ _ => some "Retry once the other session has finished"
  | invalidField _ => some "Use one of: Title, Author"
  | notCheckedOut _ resource => some s!"Check out record {idText resource} first"
  | recordNotFound _ | duplicateRecord _ => none

def isLockConflict : AccessError → Bool
  | lockConflict _ _ => true
  | _ => false

end AccessError

end RecordLocks
