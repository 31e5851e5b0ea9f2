import Mathlib.Data.List.Sort
import RecordLocks.Proofs.Replay
namespace RecordLocks

/-- What is asked of a lock table without guards. -/
inductive LockRequest where
  | acquire (resource : ResourceId) (owner : SessionId)
  | release (resource : ResourceId) (owner : SessionId)
  | releaseAll (owner : SessionId)
  deriving DecidableEq, Repr

/-- Who holds what, as a map and nothing else. -/
abbrev Holders := ResourceId → Option SessionId

/-- A resource goes to the first who asks for it, until this one gives it back. -/
def LockRequest.change (holders : Holders) : LockRequest → Holders
  | acquire resource owner =>
    if holders resource = none then Function.update holders resource (some owner) else holders
  | release resource owner =>
    if holders resource = some owner then Function.update holders resource none else holders
  | releaseAll owner => fun resource =>
    if holders resource = some owner then none else holders resource

namespace LockTable

variable (table : LockTable) (resource : ResourceId) (owner : SessionId)

def ask : LockRequest → LockTable
  | .acquire resource owner => (table.acquire resource owner).table
  | .release resource owner => (table.release resource owner).table
  | .releaseAll owner => (table.releaseAll owner).table

def askAll (requests : List LockRequest) : LockTable := requests.foldl ask table

theorem holder_ask (request : LockRequest) :
    (table.ask request).holder = request.change table.holder := by
  funext other
  cases request with
  | acquire resource owner =>
    simp only [ask, holder_acquire, LockRequest.change]
    cases held : table.holder resource with
    | none =>
      simp only [Option.getD_none, if_true, Function.update_apply]
      exact if_congr eq_comm rfl rfl
    | some holder =>
      by_cases here : resource = other
      · simp [← here, held]
      · simp [here]
  | release resource owner =>
    simp only [ask, holder_release, LockRequest.change]
    by_cases held : table.holder resource = some owner
    · rw [if_pos held, Function.update_apply]
      by_cases here : resource = other
      · simp [← here, held]
      · simp [here, Ne.symm here]
    · rw [if_neg held]
      by_cases here : resource = other
      · simp [← here, held]
      · simp [here]
  | releaseAll owner =>
    simp only [ask, holder_releaseAll, LockRequest.change]

theorem holder_askAll (requests : List LockRequest) :
    (table.askAll requests).holder = requests.foldl LockRequest.change table.holder := by
  induction requests generalizing table with
  | nil => rfl
  | cons request requests ih =>
    have further := ih (table.ask request)
    rw [holder_ask] at further
    exact further

theorem mem_snapshot :
    (resource, owner) ∈ table.snapshot ↔ table.holder resource = some owner :=
  Index.mem_toList

theorem snapshot_ascending : table.snapshot.Pairwise fun a b => a.1 < b.1 :=
  table.owners.ascending

theorem heldBy_eq :
    table.heldBy owner = (table.snapshot.filter fun lock => lock.2 = owner).map Prod.fst := rfl

theorem heldBy_ascending : (table.heldBy owner).Pairwise (· < ·) :=
  (table.owners.filter fun _ holder => holder = owner).keys_ascending

/-- What is free or the owner's own is taken, and nothing else is changed; what another one holds is
refused with the name of its holder, and nothing is changed at all. -/
structure Acquires : Prop where
  succeeds : (table.acquire resource owner).answer = .ok () ↔
    table.holder resource = none ∨ table.holder resource = some owner
  taken : (table.acquire resource owner).answer = .ok () →
    (table.acquire resource owner).table.holder =
      Function.update table.holder resource (some owner)
  refused : ∀ conflict, (table.acquire resource owner).answer = .error conflict →
    conflict.resource = resource ∧ table.holder resource = some conflict.holder ∧
      conflict.holder ≠ owner ∧ (table.acquire resource owner).table = table

theorem acquires : table.Acquires resource owner := by
  have changed := table.holder_ask (.acquire resource owner)
  simp only [ask, LockRequest.change] at changed
  cases held : table.holder resource with
  | none =>
    rw [if_pos held] at changed
    have answer := congrArg Change.answer (acquire_of_free held owner)
    refine ⟨by simp [answer, held], fun _ => changed, ?_⟩
    intro conflict refused
    rw [answer] at refused
    cases refused
  | some holder =>
    by_cases own : holder = owner
    · subst own
      have same := acquire_of_own held
      refine ⟨by simp [same, held], ?_, ?_⟩
      · intro _
        rw [same, ← held, Function.update_eq_self]
      · intro conflict refused
        rw [same] at refused
        cases refused
    · have refusal := acquire_of_other held own
      refine ⟨by simp [refusal, held, own], ?_, ?_⟩
      · intro taken
        rw [refusal] at taken
        cases taken
      · intro conflict refused
        rw [refusal] at refused ⊢
        cases refused
        exact ⟨rfl, held, own, rfl⟩

/-- What the owner holds is freed and nothing else is changed; what it does not hold stays. -/
structure Releases : Prop where
  succeeds : (table.release resource owner).answer = true ↔ table.holder resource = some owner
  freed : (table.release resource owner).answer = true →
    (table.release resource owner).table.holder = Function.update table.holder resource none
  kept : (table.release resource owner).answer = false →
    (table.release resource owner).table = table

theorem releases : table.Releases resource owner := by
  have changed := table.holder_ask (.release resource owner)
  simp only [ask, LockRequest.change] at changed
  by_cases held : table.holder resource = some owner
  · rw [if_pos held] at changed
    have answer := congrArg Change.answer (release_of_own held)
    exact ⟨by simp [answer, held], fun _ => changed, by simp [answer]⟩
  · have same := release_of_other held
    exact ⟨by simp [same, held], by simp [same], by simp [same]⟩

/-- To take a lock again, however often, is to do nothing, and to give it back once is enough. -/
structure HeldOnce : Prop where
  again : table.holder resource = some owner → ∀ times,
    (fun taken => (acquire taken resource owner).table)^[times] table = table
  freed : (table.acquire resource owner).answer = .ok () → ∀ times,
    let after := ((fun taken => (acquire taken resource owner).table)^[times + 1] table).release
      resource owner
    after.answer = true ∧ after.table.holder resource = none

theorem acquire_again (held : table.holder resource = some owner) (times : Nat) :
    (fun taken => (acquire taken resource owner).table)^[times] table = table := by
  apply Function.iterate_fixed
  rw [acquire_of_own held]

theorem heldOnce : table.HeldOnce resource owner := by
  refine ⟨table.acquire_again resource owner, ?_⟩
  intro answer times
  have held : (table.acquire resource owner).table.holder resource = some owner := by
    rw [(table.acquires resource owner).taken answer, Function.update_self]
  have released := releases (table.acquire resource owner).table resource owner
  have succeeds := released.succeeds.mpr held
  simp only [Function.iterate_succ_apply, acquire_again _ resource owner held]
  refine ⟨succeeds, ?_⟩
  rw [released.freed succeeds, Function.update_self]

/-- What the owner holds is listed and freed, as if it had been released one by one. -/
structure ReleasesAll : Prop where
  listed : (table.releaseAll owner).answer = table.heldBy owner
  freed : ∀ resource, (table.releaseAll owner).table.holder resource =
    if table.holder resource = some owner then none else table.holder resource
  singly : (table.releaseAll owner).table =
    table.askAll ((table.heldBy owner).map (.release · owner))

theorem holder_releases (resources : List ResourceId) :
    (table.askAll (resources.map (.release · owner))).holder resource =
      if resource ∈ resources ∧ table.holder resource = some owner then none
      else table.holder resource := by
  induction resources generalizing table with
  | nil => simp [askAll]
  | cons first resources ih =>
    have further := ih (table.release first owner).table
    rw [holder_release] at further
    refine further.trans ?_
    by_cases here : first = resource
    · subst here
      by_cases held : table.holder first = some owner <;> simp [held]
    · simp [here, Ne.symm here]

theorem releasesAll : table.ReleasesAll owner := by
  refine ⟨rfl, fun resource => table.holder_releaseAll resource owner, ?_⟩
  apply ext_holder
  intro resource
  rw [holder_releaseAll, holder_releases]
  refine if_congr ?_ rfl rfl
  rw [mem_heldBy, and_self]

/-- The views of a table show one map. It does not matter in which order its entries are gone
through to be sorted. -/
structure ConsistentViews : Prop where
  ascending : table.snapshot.Pairwise fun a b => a.1 < b.1
  size : table.snapshot.length = table.size
  lists : ∀ resource owner, (resource, owner) ∈ table.snapshot ↔ table.holder resource = some owner
  heldBy : ∀ owner, table.heldBy owner =
    (table.snapshot.filter fun lock => lock.2 = owner).map Prod.fst
  heldAscending : ∀ owner, (table.heldBy owner).Pairwise (· < ·)
  sorted : ∀ entries : List (ResourceId × SessionId), entries.Perm table.snapshot →
    entries.mergeSort (fun a b => a.1 ≤ b.1) = table.snapshot ∧
      ∀ owner, ((entries.filter fun lock => lock.2 = owner).map Prod.fst).mergeSort (· ≤ ·) =
        table.heldBy owner
  available : ∀ resource owner, table.status resource owner = .available ↔
    table.holder resource = none
  heldBySelf : ∀ resource owner, table.status resource owner = .heldBySelf ↔
    table.holder resource = some owner
  heldByOther : ∀ resource owner, table.status resource owner = .heldByOther ↔
    ∃ other, table.holder resource = some other ∧ other ≠ owner
  isEmpty : table.isEmpty = true ↔ table.size = 0
  partition : ∀ resource, (∃ lock ∈ table.snapshot, lock.1 = resource) ↔
    ∃! owner, resource ∈ table.heldBy owner

theorem status_cases :
    (table.holder resource = none ∧ table.status resource owner = .available) ∨
    (table.holder resource = some owner ∧ table.status resource owner = .heldBySelf) ∨
    (∃ other, table.holder resource = some other ∧ other ≠ owner ∧
      table.status resource owner = .heldByOther) := by
  simp only [status]
  cases table.holder resource with
  | none => exact .inl ⟨rfl, rfl⟩
  | some holder =>
    by_cases own : holder = owner
    · exact .inr (.inl (by simp [own]))
    · exact .inr (.inr ⟨holder, rfl, own, by simp [own]⟩)

theorem existsUnique_heldBy :
    (∃ lock ∈ table.snapshot, lock.1 = resource) ↔ ∃! owner, resource ∈ table.heldBy owner := by
  constructor
  · rintro ⟨⟨_, owner⟩, member, rfl⟩
    have held := (table.mem_snapshot _ owner).mp member
    refine ⟨owner, mem_heldBy.mpr held, ?_⟩
    intro other holds
    rw [mem_heldBy, held] at holds
    exact (Option.some.inj holds).symm
  · rintro ⟨owner, holds, -⟩
    exact ⟨(resource, owner), (table.mem_snapshot resource owner).mpr (mem_heldBy.mp holds), rfl⟩

/-- However its elements come, a list is sorted in one way only if no two of its keys are equal. -/
theorem mergeSort_eq {α : Type} (key : α → UInt64) {elements ascending : List α}
    (same : elements.Perm ascending) (distinct : ascending.Pairwise fun a b => key a < key b) :
    elements.mergeSort (fun a b => key a ≤ key b) = ascending := by
  have sorted :
      (elements.mergeSort fun a b => key a ≤ key b).Pairwise fun a b => key a ≤ key b := by
    have transitive : ∀ a b c : α, decide (key a ≤ key b) = true → decide (key b ≤ key c) = true →
        decide (key a ≤ key c) = true := by
      simp only [decide_eq_true_eq]
      exact fun a b c => UInt64.le_trans
    have total : ∀ a b : α, (decide (key a ≤ key b) || decide (key b ≤ key a)) = true := by
      simpa using fun a b => UInt64.le_total (key a) (key b)
    simpa using List.pairwise_mergeSort transitive total elements
  have injective : ∀ a ∈ ascending, ∀ b ∈ ascending, key a = key b → a = b := by
    have keys : (ascending.map key).Nodup :=
      (distinct.map key fun _ _ less => less).imp fun less => UInt64.ne_of_lt less
    exact fun a memberA b memberB => List.inj_on_of_nodup_map keys memberA memberB
  have again := (List.mergeSort_perm elements fun a b => decide (key a ≤ key b)).trans same
  refine List.Perm.eq_of_pairwise ?_ sorted (distinct.imp fun less => UInt64.le_of_lt less) again
  intro a b memberA memberB below above
  exact injective a (again.mem_iff.mp memberA) b memberB (UInt64.le_antisymm below above)

theorem sort_entries {entries : List (ResourceId × SessionId)}
    (same : entries.Perm table.snapshot) :
    entries.mergeSort (fun a b => a.1 ≤ b.1) = table.snapshot ∧
      ∀ owner, ((entries.filter fun lock => lock.2 = owner).map Prod.fst).mergeSort (· ≤ ·) =
        table.heldBy owner := by
  refine ⟨mergeSort_eq Prod.fst same table.snapshot_ascending, ?_⟩
  intro owner
  have owned := (same.filter fun lock => lock.2 = owner).map Prod.fst
  exact mergeSort_eq id owned (table.heldBy_ascending owner)

theorem consistentViews : table.ConsistentViews where
  ascending := table.snapshot_ascending
  size := rfl
  lists := table.mem_snapshot
  heldBy := table.heldBy_eq
  heldAscending := table.heldBy_ascending
  sorted _ same := table.sort_entries same
  available resource owner := by
    rcases table.status_cases resource owner with ⟨holder, status⟩ | ⟨holder, status⟩ |
      ⟨other, holder, -, status⟩
    all_goals simp [holder, status]
  heldBySelf resource owner := by
    rcases table.status_cases resource owner with ⟨holder, status⟩ | ⟨holder, status⟩ |
      ⟨other, holder, different, status⟩
    · simp [holder, status]
    · simp [holder, status]
    · simp [holder, status, different]
  heldByOther resource owner := by
    rcases table.status_cases resource owner with ⟨holder, status⟩ | ⟨holder, status⟩ |
      ⟨other, holder, different, status⟩
    · simp [holder, status]
    · simp [holder, status]
    · simp [holder, status, different]
  isEmpty := beq_iff_eq
  partition := table.existsUnique_heldBy

/-- A lock table is a map from resources to their holders, whatever has been taken and given back:
each request changes the map at the resources it is about and answers what the map says, and all
views show this map. -/
theorem table_is_partial_map (requests : List LockRequest) :
    let table := empty.askAll requests
    table.holder = requests.foldl LockRequest.change (fun _ => none) ∧
    (∀ resource owner, table.Acquires resource owner) ∧
    (∀ resource owner, table.Releases resource owner) ∧
    (∀ owner, table.ReleasesAll owner) ∧
    (∀ resource owner, table.HeldOnce resource owner) ∧
    table.ConsistentViews :=
  ⟨holder_askAll empty requests, acquires _, releases _, releasesAll _, heldOnce _,
    consistentViews _⟩

end LockTable

end RecordLocks
