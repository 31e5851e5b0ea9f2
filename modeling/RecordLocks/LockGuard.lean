import RecordLocks.LockTable
namespace RecordLocks

structure LockGuard where
  resource : ResourceId
  owner : SessionId
  deriving DecidableEq, Repr

def LockGuard.text (guard : LockGuard) : String :=
  s!"Lock[resource:{idText guard.resource} by {guard.owner.text}]"

/-- A lock table, its audit trail and the guards given out, numbered in that order. A guard that
has ended leaves its number free. -/
structure GuardedTable where
  table : LockTable
  trail : List Notice
  guards : List (Option LockGuard)

namespace GuardedTable

def empty : GuardedTable := ⟨.empty, [], []⟩

def apply (desk : GuardedTable) (change : LockTable.Change α) : α × GuardedTable :=
  (change.answer, { desk with table := change.table, trail := desk.trail ++ change.notices })

def acquire (desk : GuardedTable) (resource : ResourceId) (owner : SessionId) :
    Except LockConflict Unit × GuardedTable :=
  desk.apply (desk.table.acquire resource owner)

def release (desk : GuardedTable) (resource : ResourceId) (owner : SessionId) :
    Bool × GuardedTable :=
  desk.apply (desk.table.release resource owner)

def releaseAll (desk : GuardedTable) (owner : SessionId) : List ResourceId × GuardedTable :=
  desk.apply (desk.table.releaseAll owner)

def lock (desk : GuardedTable) (resource : ResourceId) (owner : SessionId) :
    Except LockConflict (Nat × LockGuard) × GuardedTable :=
  match desk.acquire resource owner with
  | (.error conflict, after) => (.error conflict, after)
  | (.ok (), after) =>
    let guard := ⟨resource, owner⟩
    (.ok (desk.guards.length, guard), { after with guards := desk.guards ++ [some guard] })

def guard? (desk : GuardedTable) (number : Nat) : Option LockGuard :=
  (desk.guards[number]?).join

def forget (desk : GuardedTable) (number : Nat) : GuardedTable :=
  { desk with guards := desk.guards.set number none }

/-- Ends a guard and with it the lock, if the owner still holds it. -/
def endGuard (desk : GuardedTable) (number : Nat) : Bool × GuardedTable :=
  match desk.guard? number with
  | none => (false, desk)
  | some guard => (true, ((desk.release guard.resource guard.owner).2).forget number)

def persist (desk : GuardedTable) (number : Nat) : Bool × GuardedTable :=
  match desk.guard? number with
  | none => (false, desk)
  | some _ => (true, desk.forget number)

def endAll (desk : GuardedTable) : GuardedTable :=
  (List.range desk.guards.length).foldl (fun desk number => (desk.endGuard number).2) desk

end GuardedTable

end RecordLocks
