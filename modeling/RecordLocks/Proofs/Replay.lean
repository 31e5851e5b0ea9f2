import Mathlib.Data.List.Induction
import RecordLocks.LockGuard
import RecordLocks.Proofs.Run
namespace RecordLocks

/-- A lock that could not be had: who holds it and who asked for it. -/
structure Refusal where
  resource : ResourceId
  holder : SessionId
  blocked : SessionId
  deriving DecidableEq, Repr

/-- The refusal in an answer to one who asked for a lock. -/
def refusalOf (blocked : SessionId) : Except LockConflict α → Option Refusal
  | .error conflict => some ⟨conflict.resource, conflict.holder, blocked⟩
  | .ok _ => none

namespace Notice

def refusal? : Notice → Option Refusal
  | lockContention resource holder blocked => some ⟨resource, holder, blocked⟩
  | _ => none

/-- The entry tells that a lock was taken or given back. -/
def isMove : Notice → Bool
  | lockAcquired _ _ | lockReleased _ _ => true
  | _ => false

/-- The entry is about sessions and records, not about locks. -/
def isAside : Notice → Bool
  | sessionStarted _ _ | sessionRemoved _ _ | committed _ _ | discarded _ _ => true
  | _ => false

theorem refusal?_aside {notice : Notice} (aside : notice.isAside = true) :
    notice.refusal? = none := by
  cases notice with
  | lockAcquired | lockReleased | lockContention => cases aside
  | sessionStarted | sessionRemoved | committed | discarded => rfl

theorem isMove_aside {notice : Notice} (aside : notice.isAside = true) :
    notice.isMove = false := by
  cases notice with
  | lockAcquired | lockReleased | lockContention => cases aside
  | sessionStarted | sessionRemoved | committed | discarded => rfl

end Notice

namespace LockTable

/-- Does again what an entry of the trail tells. -/
def redo (table : LockTable) : Notice → LockTable
  | .lockAcquired resource holder => ⟨table.owners.insert resource holder⟩
  | .lockReleased resource _ => ⟨table.owners.erase resource⟩
  | _ => table

/-- The table that a trail leads to, from the empty one. -/
def replay (trail : List Notice) : LockTable := trail.foldl redo empty

/-- What an entry tells can happen to the table. -/
def Admits (table : LockTable) : Notice → Prop
  | .lockAcquired resource _ => table.holder resource = none
  | .lockReleased resource holder => table.holder resource = some holder
  | .lockContention resource holder blocked =>
    table.holder resource = some holder ∧ holder ≠ blocked
  | _ => True

@[simp] theorem replay_nil : replay [] = empty := rfl

@[simp] theorem replay_append_singleton (trail : List Notice) (notice : Notice) :
    replay (trail ++ [notice]) = (replay trail).redo notice := by
  simp [replay]

theorem holder_redo_acquired (table : LockTable) (resource other : ResourceId)
    (owner : SessionId) :
    (table.redo (.lockAcquired resource owner)).holder other =
      if resource = other then some owner else table.holder other :=
  Index.get?_insert table.owners resource other owner

theorem holder_redo_released (table : LockTable) (resource other : ResourceId)
    (owner : SessionId) :
    (table.redo (.lockReleased resource owner)).holder other =
      if resource = other then none else table.holder other :=
  Index.get?_erase table.owners resource other

theorem redo_aside (table : LockTable) {notice : Notice} (aside : notice.isAside = true) :
    table.redo notice = table := by
  cases notice with
  | lockAcquired | lockReleased | lockContention => cases aside
  | sessionStarted | sessionRemoved | committed | discarded => rfl

theorem admits_aside (table : LockTable) {notice : Notice} (aside : notice.isAside = true) :
    table.Admits notice := by
  cases notice with
  | lockAcquired | lockReleased | lockContention => cases aside
  | sessionStarted | sessionRemoved | committed | discarded => trivial

theorem ext_holder {first second : LockTable}
    (same : ∀ resource, first.holder resource = second.holder resource) : first = second := by
  obtain ⟨owners⟩ := first
  obtain ⟨others⟩ := second
  congr 1
  exact Index.ext_get? same

theorem nodup_heldBy (table : LockTable) (owner : SessionId) : (table.heldBy owner).Nodup := by
  apply List.Pairwise.imp _ (Index.keys_ascending _)
  rintro first second less rfl
  exact Nat.lt_irrefl _ less

end LockTable

/-- A trail tells the whole story of a table: it leads to the table, each entry tells of
something that could happen when it was made, and the refusals in it are those given. -/
structure Audited (table : LockTable) (trail : List Notice) (refusals : List Refusal) : Prop where
  replays : LockTable.replay trail = table
  admits : ∀ earlier notice later, trail = earlier ++ notice :: later →
    (LockTable.replay earlier).Admits notice
  refusals : trail.filterMap Notice.refusal? = refusals

namespace Audited

variable {table : LockTable} {trail : List Notice} {refusals : List Refusal}

theorem empty : Audited .empty [] [] := by
  constructor
  · rfl
  · intro earlier notice later split
    simp at split
  · rfl

theorem note (audited : Audited table trail refusals) (notice : Notice)
    (admitted : table.Admits notice) :
    Audited (table.redo notice) (trail ++ [notice]) (refusals ++ notice.refusal?.toList) := by
  constructor
  · rw [LockTable.replay_append_singleton, audited.replays]
  · intro earlier told later split
    rcases List.eq_nil_or_concat later with rfl | ⟨rest, last, rfl⟩
    · obtain ⟨rfl, same⟩ := List.append_inj' split rfl
      cases same
      rw [audited.replays]
      exact admitted
    · rw [List.concat_eq_append, ← List.cons_append, ← List.append_assoc] at split
      obtain ⟨rfl, -⟩ := List.append_inj' split rfl
      exact audited.admits earlier told rest rfl
  · rw [List.filterMap_append, audited.refusals]
    cases notice <;> rfl

end Audited

/-- The entries tell how one table came from another, with the refusals given on the way. A table
that stays as it is has no lock taken or given back. -/
structure Told (before : LockTable) (notices : List Notice) (after : LockTable)
    (refusals : List Refusal) : Prop where
  audited : ∀ {trail past}, Audited before trail past →
    Audited after (trail ++ notices) (past ++ refusals)
  still : after = before → ∀ notice ∈ notices, notice.isMove = false

namespace Told

variable {before after table : LockTable} {notices : List Notice} {refusals : List Refusal}
  {resource : ResourceId} {owner : SessionId}

theorem nothing : Told table [] table [] := by
  constructor
  · intro trail past audited
    simpa using audited
  · simp

/-- One entry tells one change of the table. -/
theorem single (notice : Notice) (admitted : table.Admits notice)
    (moves : table.redo notice = table → notice.isMove = false) :
    Told table [notice] (table.redo notice) notice.refusal?.toList := by
  constructor
  · intro trail past audited
    exact audited.note notice admitted
  · intro same told member
    rw [List.mem_singleton.mp member]
    exact moves same

theorem aside {notice : Notice} (aside : notice.isAside = true) : Told table [notice] table [] := by
  have told : Told table [notice] (table.redo notice) notice.refusal?.toList :=
    single notice (LockTable.admits_aside table aside) fun _ => Notice.isMove_aside aside
  rw [LockTable.redo_aside table aside, Notice.refusal?_aside aside] at told
  exact told

theorem followed {notice : Notice} (told : Told before notices after refusals)
    (aside : notice.isAside = true) : Told before (notices ++ [notice]) after refusals := by
  constructor
  · intro trail past audited
    have last := (Told.aside aside).audited (told.audited audited)
    simpa using last
  · intro same other member
    rcases List.mem_append.mp member with earlier | last
    · exact told.still same other earlier
    · rw [List.mem_singleton.mp last]
      exact Notice.isMove_aside aside

theorem preceded {notice : Notice} (told : Told before notices after refusals)
    (aside : notice.isAside = true) : Told before (notice :: notices) after refusals := by
  constructor
  · intro trail past audited
    have rest := told.audited ((Told.aside aside).audited audited)
    simpa using rest
  · intro same other member
    rcases List.mem_cons.mp member with rfl | later
    · exact Notice.isMove_aside aside
    · exact told.still same other later

/-- The lock is free and taken, or it is the owner's and stays, or it is refused. -/
theorem acquire (table : LockTable) (resource : ResourceId) (owner : SessionId) :
    Told table (table.acquire resource owner).notices (table.acquire resource owner).table
      (refusalOf owner (table.acquire resource owner).answer).toList := by
  cases held : table.holder resource with
  | none =>
    rw [LockTable.acquire_of_free held]
    apply single (.lockAcquired resource owner) held
    intro same
    have taken : (table.redo (.lockAcquired resource owner)).holder resource = some owner := by
      rw [LockTable.holder_redo_acquired, if_pos rfl]
    rw [same, held] at taken
    cases taken
  | some holder =>
    by_cases own : holder = owner
    · rw [LockTable.acquire_of_own (own ▸ held)]
      exact nothing
    · rw [LockTable.acquire_of_other held own]
      exact single (.lockContention resource holder owner) ⟨held, own⟩ fun _ => rfl

theorem release (table : LockTable) (resource : ResourceId) (owner : SessionId) :
    Told table (table.release resource owner).notices (table.release resource owner).table [] := by
  by_cases held : table.holder resource = some owner
  · rw [LockTable.release_of_own held]
    apply single (.lockReleased resource owner) held
    intro same
    have gone : (table.redo (.lockReleased resource owner)).holder resource = none := by
      rw [LockTable.holder_redo_released, if_pos rfl]
    rw [same, held] at gone
    cases gone
  · rw [LockTable.release_of_other held]
    exact nothing

/-- Giving back one lock after the other is told lock by lock. -/
theorem releases (table : LockTable) (owner : SessionId) {resources : List ResourceId}
    (held : ∀ resource ∈ resources, table.holder resource = some owner)
    (nodup : resources.Nodup) {trail : List Notice} {past : List Refusal}
    (audited : Audited table trail past) :
    ∃ after : LockTable,
      Audited after (trail ++ resources.map (.lockReleased · owner)) past ∧
      ∀ other, after.holder other = if other ∈ resources then none else table.holder other := by
  induction resources generalizing table trail with
  | nil => exact ⟨table, by simpa using audited, by simp⟩
  | cons first rest ih =>
    obtain ⟨fresh, nodup⟩ := List.nodup_cons.mp nodup
    have told : Audited (table.redo (.lockReleased first owner))
        (trail ++ [.lockReleased first owner]) past := by
      simpa [Notice.refusal?] using
        audited.note (.lockReleased first owner) (held first (by simp))
    have stays : ∀ resource ∈ rest,
        (table.redo (.lockReleased first owner)).holder resource = some owner := by
      intro resource member
      have different : first ≠ resource := by
        rintro rfl
        exact fresh member
      rw [LockTable.holder_redo_released, if_neg different]
      exact held resource (by simp [member])
    obtain ⟨after, last, gone⟩ := ih _ stays nodup told
    refine ⟨after, by simpa using last, ?_⟩
    intro other
    rw [gone other, LockTable.holder_redo_released]
    by_cases here : first = other
    · simp [← here]
    · simp [here, Ne.symm here]

theorem releaseAll (table : LockTable) (owner : SessionId) :
    Told table (table.releaseAll owner).notices (table.releaseAll owner).table [] := by
  constructor
  · intro trail past audited
    obtain ⟨after, told, gone⟩ := releases table owner
      (fun resource member => LockTable.mem_heldBy.mp member) (table.nodup_heldBy owner) audited
    have same : after = (table.releaseAll owner).table := by
      apply LockTable.ext_holder
      intro resource
      rw [gone resource, LockTable.holder_releaseAll]
      simp only [LockTable.mem_heldBy]
    rw [← same, List.append_nil]
    exact told
  · intro same notice member
    obtain ⟨resource, inside, -⟩ := List.mem_map.mp member
    have held := LockTable.mem_heldBy.mp inside
    have gone := LockTable.holder_releaseAll table resource owner
    rw [if_pos held, same, held] at gone
    cases gone

end Told

end RecordLocks
