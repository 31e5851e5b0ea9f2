import RecordLocks.Audit.Notice
namespace RecordLocks

/-- The holder of a resource, named to the session that could not have it. -/
structure LockConflict where
  resource : ResourceId
  holder : SessionId
  deriving DecidableEq, Repr

namespace LockConflict

def message (conflict : LockConflict) : String :=
  s!"Lock cannot be obtained on resource {idText conflict.resource}: " ++
    s!"held by session '{conflict.holder.text}'"

def code : String := "E300"

def toError (conflict : LockConflict) : AccessError :=
  .lockConflict conflict.resource conflict.holder

end LockConflict

inductive LockStatus where
  | available
  | heldBySelf
  | heldByOther
  deriving DecidableEq, Repr

namespace LockStatus

def all : List LockStatus := [available, heldBySelf, heldByOther]

def name : LockStatus → String
  | available => "available"
  | heldBySelf => "held_by_self"
  | heldByOther => "held_by_other"

end LockStatus

/-- Which session owns which resource. -/
structure LockTable where
  owners : Index ResourceId SessionId
  deriving DecidableEq

namespace LockTable

/-- What an operation answers, the table after it and what it records. -/
structure Change (α : Type) where
  answer : α
  table : LockTable
  notices : List Notice

def empty : LockTable := ⟨∅⟩

instance : Inhabited LockTable := ⟨empty⟩

def holder (table : LockTable) (resource : ResourceId) : Option SessionId :=
  table.owners.get? resource

/-- An owner may acquire again what it holds, which changes nothing. -/
def acquire (table : LockTable) (resource : ResourceId) (owner : SessionId) :
    Change (Except LockConflict Unit) :=
  match table.holder resource with
  | none =>
    ⟨.ok (), ⟨table.owners.insert resource owner⟩, [.lockAcquired resource owner]⟩
  | some holder =>
    if holder = owner then ⟨.ok (), table, []⟩
    else ⟨.error ⟨resource, holder⟩, table, [.lockContention resource holder owner]⟩

/-- Only what the owner holds is released; one release undoes any number of acquisitions. -/
def release (table : LockTable) (resource : ResourceId) (owner : SessionId) : Change Bool :=
  if table.holder resource = some owner then
    ⟨true, ⟨table.owners.erase resource⟩, [.lockReleased resource owner]⟩
  else ⟨false, table, []⟩

def heldBy (table : LockTable) (owner : SessionId) : List ResourceId :=
  (table.owners.filter fun _ holder => holder = owner).keys

def releaseAll (table : LockTable) (owner : SessionId) : Change (List ResourceId) :=
  let released := table.heldBy owner
  ⟨released, ⟨table.owners.filter fun _ holder => holder ≠ owner⟩,
    released.map (.lockReleased · owner)⟩

def status (table : LockTable) (resource : ResourceId) (owner : SessionId) : LockStatus :=
  match table.holder resource with
  | none => .available
  | some holder => if holder = owner then .heldBySelf else .heldByOther

def snapshot (table : LockTable) : List (ResourceId × SessionId) := table.owners.toList

def size (table : LockTable) : Nat := table.owners.size

def isEmpty (table : LockTable) : Bool := table.size == 0

@[simp] theorem holder_empty (resource : ResourceId) : empty.holder resource = none := rfl

theorem acquire_of_free {table : LockTable} {resource : ResourceId}
    (free : table.holder resource = none) (owner : SessionId) :
    table.acquire resource owner =
      ⟨.ok (), ⟨table.owners.insert resource owner⟩, [.lockAcquired resource owner]⟩ := by
  simp [acquire, free]

theorem acquire_of_own {table : LockTable} {resource : ResourceId} {owner : SessionId}
    (held : table.holder resource = some owner) :
    table.acquire resource owner = ⟨.ok (), table, []⟩ := by
  simp [acquire, held]

theorem acquire_of_other {table : LockTable} {resource : ResourceId} {holder owner : SessionId}
    (held : table.holder resource = some holder) (other : holder ≠ owner) :
    table.acquire resource owner =
      ⟨.error ⟨resource, holder⟩, table, [.lockContention resource holder owner]⟩ := by
  simp [acquire, held, other]

@[simp] theorem holder_acquire (table : LockTable) (resource other : ResourceId)
    (owner : SessionId) :
    (table.acquire resource owner).table.holder other =
      if resource = other then some ((table.holder resource).getD owner)
      else table.holder other := by
  cases held : table.holder resource with
  | none =>
    rw [acquire_of_free held]
    exact Index.get?_insert table.owners resource other owner
  | some holder =>
    have same : (table.acquire resource owner).table = table := by
      by_cases own : holder = owner
      · rw [acquire_of_own (own ▸ held)]
      · rw [acquire_of_other held own]
    rw [same]
    by_cases here : resource = other
    · simp [← here, held]
    · simp [here]

theorem release_of_own {table : LockTable} {resource : ResourceId} {owner : SessionId}
    (held : table.holder resource = some owner) :
    table.release resource owner =
      ⟨true, ⟨table.owners.erase resource⟩, [.lockReleased resource owner]⟩ := by
  simp [release, held]

theorem release_of_other {table : LockTable} {resource : ResourceId} {owner : SessionId}
    (other : table.holder resource ≠ some owner) :
    table.release resource owner = ⟨false, table, []⟩ := by
  simp [release, other]

@[simp] theorem holder_release (table : LockTable) (resource other : ResourceId)
    (owner : SessionId) :
    (table.release resource owner).table.holder other =
      if resource = other ∧ table.holder other = some owner then none
      else table.holder other := by
  by_cases held : table.holder resource = some owner
  · rw [release_of_own held]
    refine (Index.get?_erase table.owners resource other).trans ?_
    by_cases same : resource = other
    · subst same
      simp [held]
    · simp [same, holder]
  · rw [release_of_other held]
    by_cases same : resource = other
    · subst same
      simp [held]
    · simp [same]

@[simp] theorem holder_releaseAll (table : LockTable) (resource : ResourceId)
    (owner : SessionId) :
    (table.releaseAll owner).table.holder resource =
      if table.holder resource = some owner then none else table.holder resource := by
  refine (Index.get?_filter table.owners _ resource).trans ?_
  change Option.filter _ (table.holder resource) = _
  cases table.holder resource with
  | none => simp
  | some holder => by_cases own : holder = owner <;> simp [Option.filter, own]

theorem mem_heldBy {table : LockTable} {resource : ResourceId} {owner : SessionId} :
    resource ∈ table.heldBy owner ↔ table.holder resource = some owner := by
  rw [heldBy, Index.mem_keys, Index.contains, Index.get?_filter]
  change (Option.filter _ (table.holder resource)).isSome ↔ _
  cases table.holder resource with
  | none => simp
  | some holder => by_cases own : holder = owner <;> simp [Option.filter, own]

end LockTable

end RecordLocks
