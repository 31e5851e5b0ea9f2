import RecordLocks.Proofs.AuditTrail
import RecordLocks.Proofs.LockViews
namespace RecordLocks

/-- A guard in the hands of whoever got it. It is armed until it has given its lock back or has been
told to leave it. -/
structure HeldGuard where
  right : LockGuard
  armed : Bool

namespace HeldGuard

variable (held : HeldGuard) (desk : GuardedTable)

/-- Only an armed guard gives its lock back, and only once. -/
def giveBack : HeldGuard × GuardedTable :=
  if held.armed then
    ({ held with armed := false }, (desk.release held.right.resource held.right.owner).2)
  else (held, desk)

def drop : GuardedTable := (held.giveBack desk).2

/-- A guard that is released is dropped all the same. -/
def release : GuardedTable :=
  let (spent, after) := held.giveBack desk
  spent.drop after

def persist : GuardedTable := { held with armed := false }.drop desk

end HeldGuard

namespace LockRequest

variable {holders : Holders} {resource : ResourceId} {owner : SessionId} {request : LockRequest}

/-- Nobody comes to hold a resource but by acquiring it while it is free. -/
theorem change_takes (before : holders resource ≠ some owner)
    (after : request.change holders resource = some owner) :
    request = .acquire resource owner ∧ holders resource = none := by
  cases request with
  | acquire other asker =>
    simp only [change] at after
    split at after
    · rename_i free
      rw [Function.update_apply] at after
      split at after
      · rename_i here
        subst here
        cases after
        exact ⟨rfl, free⟩
      · exact absurd after before
    · exact absurd after before
  | release other asker =>
    simp only [change] at after
    split at after
    · rw [Function.update_apply] at after
      split at after
      · cases after
      · exact absurd after before
    · exact absurd after before
  | releaseAll asker =>
    simp only [change] at after
    split at after
    · cases after
    · exact absurd after before

/-- Whoever holds a resource holds it still when somebody acquires anything. -/
theorem change_acquire_of_held {other : ResourceId} {asker : SessionId}
    (held : holders resource = some owner) :
    (LockRequest.acquire other asker).change holders resource = some owner := by
  simp only [change]
  split
  · rename_i free
    rw [Function.update_of_ne, held]
    rintro rfl
    rw [free] at held
    cases held
  · exact held

end LockRequest

namespace GuardedTable

variable {desk : GuardedTable} {deeds earlier recent : List Deed} {deed : Deed}
  {resource : ResourceId} {owner : SessionId} {number other : Nat} {guard : LockGuard}

theorem run_append (desk : GuardedTable) (earlier later : List Deed) :
    desk.run (earlier ++ later) = (desk.run earlier).run later :=
  List.foldl_append

theorem run_concat (desk : GuardedTable) (deeds : List Deed) (deed : Deed) :
    desk.run (deeds ++ [deed]) = (desk.run deeds).step deed :=
  desk.run_append deeds [deed]

/-- What a deed asks of the table. -/
def request? (desk : GuardedTable) : Deed → Option LockRequest
  | .acquire resource owner | .lock resource owner => some (.acquire resource owner)
  | .release resource owner => some (.release resource owner)
  | .releaseAll owner => some (.releaseAll owner)
  | .endGuard number => (desk.guard? number).map fun guard => .release guard.resource guard.owner
  | .persist _ => none

theorem table_persist (desk : GuardedTable) (number : Nat) :
    (desk.persist number).2.table = desk.table := by
  rw [persist]
  cases desk.guard? number <;> rfl

theorem table_step (desk : GuardedTable) (deed : Deed) :
    (desk.step deed).table = ((desk.request? deed).map desk.table.ask).getD desk.table := by
  cases deed with
  | acquire | release | releaseAll => rfl
  | lock resource owner => exact (desk.lock_eq resource owner).1
  | endGuard number =>
    cases found : desk.guard? number with
    | none => simp [step, endGuard, request?, found]
    | some guard =>
      simp only [step, request?, found, endGuard_of_guard desk found]
      rfl
  | persist number => exact desk.table_persist number

theorem holder_step (desk : GuardedTable) (deed : Deed) :
    (desk.step deed).table.holder =
      ((desk.request? deed).map (·.change desk.table.holder)).getD desk.table.holder := by
  rw [table_step]
  cases desk.request? deed with
  | none => rfl
  | some request => exact desk.table.holder_ask request

theorem guard?_forget (desk : GuardedTable) (number other : Nat) :
    (desk.forget number).guard? other = if number = other then none else desk.guard? other := by
  simp only [forget, guard?, List.getElem?_set]
  split
  · split <;> rfl
  · rfl

/-- Whoever locks a resource gets a guard with a number of its own, or nothing. -/
theorem lock_cases (desk : GuardedTable) (resource : ResourceId) (owner : SessionId) :
    (desk.lock resource owner).2.guards = desk.guards ++ [some ⟨resource, owner⟩] ∧
        (desk.table.acquire resource owner).answer = .ok () ∨
      (desk.lock resource owner).2.guards = desk.guards ∧
        ∃ conflict, (desk.table.acquire resource owner).answer = .error conflict := by
  simp only [lock, acquire, apply]
  cases (desk.table.acquire resource owner).answer with
  | error conflict => exact .inr ⟨rfl, conflict, rfl⟩
  | ok => exact .inl ⟨rfl, rfl⟩

/-- A guard that has ended is gone, if there was one, and the others stay. -/
theorem guard?_of_ended {after : GuardedTable}
    (nothing : desk.guard? number = none → after = desk)
    (forgotten : ∀ guard, desk.guard? number = some guard →
      after.guards = (desk.forget number).guards) (other : Nat) :
    after.guard? other = if number = other then none else desk.guard? other := by
  cases found : desk.guard? number with
  | none =>
    rw [nothing found]
    by_cases same : number = other
    · rw [if_pos same, ← same, found]
    · rw [if_neg same]
  | some guard =>
    rw [guard?, forgotten guard found]
    exact desk.guard?_forget number other

theorem guard?_endGuard (desk : GuardedTable) (number other : Nat) :
    (desk.endGuard number).2.guard? other = if number = other then none else desk.guard? other := by
  refine guard?_of_ended (fun missing => by rw [endGuard, missing]) ?_ other
  intro guard found
  rw [endGuard_of_guard desk found]
  rfl

theorem guard?_persist (desk : GuardedTable) (number other : Nat) :
    (desk.persist number).2.guard? other = if number = other then none else desk.guard? other := by
  refine guard?_of_ended (fun missing => by rw [persist, missing]) ?_ other
  intro guard found
  rw [persist, found]

theorem guard?_append {after : GuardedTable} (grown : after.guards = desk.guards ++ [some guard])
    (number : Nat) :
    after.guard? number = if number = desk.guards.length then some guard else desk.guard? number := by
  rw [guard?, grown, guard?]
  by_cases last : number = desk.guards.length
  · simp [last]
  · rw [if_neg last]
    rcases Nat.lt_or_gt_of_ne last with within | beyond
    · rw [List.getElem?_append_left within]
    · rw [List.getElem?_eq_none (by simp; omega), List.getElem?_eq_none (by omega)]

/-- A guard stays until it ends. -/
theorem guard?_step (found : desk.guard? number = some guard) (deed : Deed) :
    (desk.step deed).guard? number = some guard ∨ deed = .endGuard number ∨
      deed = .persist number := by
  cases deed with
  | acquire | release | releaseAll => exact .inl found
  | lock resource owner =>
    rcases desk.lock_cases resource owner with ⟨grown, -⟩ | ⟨same, -⟩
    · have earlier : number ≠ desk.guards.length := by
        rintro rfl
        simp [guard?] at found
      exact .inl ((guard?_append grown number).trans ((if_neg earlier).trans found))
    · left
      simp only [step, guard?, same]
      exact found
  | endGuard other =>
    by_cases same : other = number
    · exact .inr (.inl (congrArg Deed.endGuard same))
    · exact .inl ((desk.guard?_endGuard other number).trans ((if_neg same).trans found))
  | persist other =>
    by_cases same : other = number
    · exact .inr (.inr (congrArg Deed.persist same))
    · exact .inl ((desk.guard?_persist other number).trans ((if_neg same).trans found))

/-- A guard for the lock has not ended. -/
def Guarded (desk : GuardedTable) (resource : ResourceId) (owner : SessionId) : Prop :=
  ∃ number, desk.guard? number = some ⟨resource, owner⟩

/-- The deed has the lock stay without a guard: it takes the lock directly, or a guard for it ends and
leaves it. -/
def Leaves (desk : GuardedTable) (resource : ResourceId) (owner : SessionId) : Deed → Prop
  | .acquire other asker =>
    (other = resource ∧ asker = owner) ∧ (desk.acquire other asker).1 = .ok ()
  | .persist number => desk.guard? number = some ⟨resource, owner⟩
  | _ => False

/-- One of the deeds has the lock stay without a guard. -/
def LeftBy (desk : GuardedTable) (deeds : List Deed) (resource : ResourceId) (owner : SessionId) :
    Prop :=
  ∃ earlier deed later, deeds = earlier ++ deed :: later ∧
    (desk.run earlier).Leaves resource owner deed

/-- The first of the deeds takes the lock, and it is held ever since. -/
structure HeldSince (desk : GuardedTable) (deeds : List Deed) (resource : ResourceId)
    (owner : SessionId) : Prop where
  before : desk.table.holder resource ≠ some owner
  since : ∀ done, done ≠ [] → done <+: deeds →
    (desk.run done).table.holder resource = some owner

theorem LeftBy.concat (left : desk.LeftBy deeds resource owner) (deed : Deed) :
    desk.LeftBy (deeds ++ [deed]) resource owner := by
  obtain ⟨earlier, leaving, later, rfl, leaves⟩ := left
  exact ⟨earlier, leaving, later ++ [deed], by simp, leaves⟩

theorem LeftBy.last (leaves : (desk.run deeds).Leaves resource owner deed) :
    desk.LeftBy (deeds ++ [deed]) resource owner :=
  ⟨deeds, deed, [], rfl, leaves⟩

theorem LeftBy.of_recent (left : (desk.run earlier).LeftBy recent resource owner) :
    desk.LeftBy (earlier ++ recent) resource owner := by
  obtain ⟨between, deed, later, rfl, leaves⟩ := left
  refine ⟨earlier ++ between, deed, later, by simp, ?_⟩
  rw [run_append]
  exact leaves

theorem HeldSince.concat (held : desk.HeldSince deeds resource owner)
    (still : (desk.run (deeds ++ [deed])).table.holder resource = some owner) :
    desk.HeldSince (deeds ++ [deed]) resource owner := by
  refine ⟨held.before, ?_⟩
  intro done filled part
  rcases List.prefix_concat_iff.mp part with rfl | part
  · exact still
  · exact held.since done filled part

/-- Whoever comes to hold a resource has acquired it or locked it. -/
theorem step_takes (before : desk.table.holder resource ≠ some owner)
    (after : (desk.step deed).table.holder resource = some owner) :
    deed = .acquire resource owner ∧ desk.Leaves resource owner deed ∨
      deed = .lock resource owner ∧ (desk.step deed).Guarded resource owner := by
  rw [holder_step] at after
  cases asked : desk.request? deed with
  | none =>
    rw [asked] at after
    exact absurd after before
  | some request =>
    rw [asked] at after
    obtain ⟨rfl, free⟩ := LockRequest.change_takes before after
    have answer := congrArg LockTable.Change.answer (LockTable.acquire_of_free free owner)
    cases deed with
    | acquire other asker =>
      obtain ⟨rfl, rfl⟩ : other = resource ∧ asker = owner := by simpa [request?] using asked
      exact .inl ⟨rfl, ⟨rfl, rfl⟩, answer⟩
    | lock other asker =>
      obtain ⟨rfl, rfl⟩ : other = resource ∧ asker = owner := by simpa [request?] using asked
      refine .inr ⟨rfl, desk.guards.length, ?_⟩
      rcases desk.lock_cases other asker with ⟨grown, -⟩ | ⟨-, conflict, refused⟩
      · exact (guard?_append grown _).trans (if_pos rfl)
      · rw [refused] at answer
        cases answer
    | release | releaseAll | persist => simp [request?] at asked
    | endGuard number => simp [request?] at asked

theorem holder_endGuard (found : desk.guard? number = some guard) (resource : ResourceId) :
    (desk.endGuard number).2.table.holder resource =
      if guard.resource = resource ∧ desk.table.holder resource = some guard.owner then none
      else desk.table.holder resource := by
  rw [endGuard_of_guard desk found]
  exact desk.table.holder_release guard.resource resource guard.owner

/-- A lock whose guard has ended is gone, or its guard has left it. -/
theorem guarded_step (guarded : desk.Guarded resource owner)
    (after : (desk.step deed).table.holder resource = some owner) :
    (desk.step deed).Guarded resource owner ∨ desk.Leaves resource owner deed := by
  obtain ⟨number, found⟩ := guarded
  rcases guard?_step found deed with stays | rfl | rfl
  · exact .inl ⟨number, stays⟩
  · have gone := holder_endGuard found resource
    have after : (desk.endGuard number).2.table.holder resource = some owner := after
    rw [after] at gone
    split at gone
    · cases gone
    · rename_i other
      exact absurd ⟨rfl, gone.symm⟩ other
  · exact .inr found

/-- A lock that is held has been held since a deed took it, and since then it has a guard or has been
left without one. -/
theorem backed (deeds : List Deed)
    (held : (empty.run deeds).table.holder resource = some owner) :
    ∃ earlier recent, deeds = earlier ++ recent ∧
      (empty.run earlier).HeldSince recent resource owner ∧
      ((empty.run deeds).Guarded resource owner ∨
        (empty.run earlier).LeftBy recent resource owner) := by
  induction deeds using List.reverseRecOn with
  | nil => cases held
  | append_singleton deeds deed ih =>
    rw [run_concat] at held ⊢
    by_cases before : (empty.run deeds).table.holder resource = some owner
    · obtain ⟨earlier, recent, rfl, since, backing⟩ := ih before
      have still : ((empty.run earlier).run (recent ++ [deed])).table.holder resource =
          some owner := by
        rw [run_concat, ← run_append]
        exact held
      refine ⟨earlier, recent ++ [deed], by simp, since.concat still, ?_⟩
      rcases backing with guarded | left
      · rcases guarded_step guarded held with stays | leaves
        · exact .inl stays
        · rw [run_append] at leaves
          exact .inr (.last leaves)
      · exact .inr (left.concat deed)
    · refine ⟨deeds, [deed], rfl, ⟨before, ?_⟩, ?_⟩
      · intro done filled part
        have last : done <+: [] ++ [deed] := part
        rcases List.prefix_concat_iff.mp last with rfl | nothing
        · exact held
        · exact absurd (List.prefix_nil.mp nothing) filled
      · rcases step_takes before held with ⟨-, leaves⟩ | ⟨-, guarded⟩
        · have leaves : ((empty.run deeds).run []).Leaves resource owner deed := leaves
          exact .inr (.last leaves)
        · exact .inl guarded

/-- When no guard is left and no lock was left without one, nothing is locked. -/
theorem empty_of_unguarded (ended : ∀ number, (empty.run deeds).guard? number = none)
    (none_left : ∀ resource owner, ¬ empty.LeftBy deeds resource owner) :
    (empty.run deeds).table = .empty := by
  apply LockTable.ext_holder
  intro resource
  rw [LockTable.holder_empty, Option.eq_none_iff_forall_ne_some]
  intro owner held
  obtain ⟨earlier, recent, rfl, -, ⟨number, found⟩ | left⟩ := backed deeds held
  · rw [ended] at found
    cases found
  · exact none_left resource owner left.of_recent

/-- Nobody locks what they hold already, and nothing is given back but by guards. -/
def Orderly (desk : GuardedTable) : Deed → Prop
  | .lock resource owner => desk.table.holder resource ≠ some owner
  | .release resource owner => (desk.release resource owner).1 = false
  | .releaseAll owner => (desk.releaseAll owner).1 = []
  | _ => True

/-- Each guard stands for a lock of its own. -/
structure GuardsHold (desk : GuardedTable) : Prop where
  held : ∀ number guard, desk.guard? number = some guard →
    desk.table.holder guard.resource = some guard.owner
  distinct : ∀ first second guard other, desk.guard? first = some guard →
    desk.guard? second = some other → guard.resource = other.resource → first = second

namespace GuardsHold

variable {after : GuardedTable}

/-- Guards that stay do no harm while their locks stay. -/
theorem of_fewer (hold : desk.GuardsHold)
    (fewer : ∀ number guard, after.guard? number = some guard → desk.guard? number = some guard)
    (kept : ∀ number guard, after.guard? number = some guard →
      desk.table.holder guard.resource = some guard.owner →
      after.table.holder guard.resource = some guard.owner) : after.GuardsHold where
  held number guard found := kept number guard found (hold.held number guard (fewer _ _ found))
  distinct first second guard other found present :=
    hold.distinct first second guard other (fewer _ _ found) (fewer _ _ present)

theorem of_eq (hold : desk.GuardsHold) (guards : after.guards = desk.guards)
    (table : after.table = desk.table) : after.GuardsHold := by
  refine hold.of_fewer ?_ ?_
  · intro number guard found
    simpa only [guard?, guards] using found
  · intro number guard found held
    rw [table]
    exact held

/-- Whoever locks a free resource gets the only guard for it. -/
theorem lock (hold : desk.GuardsHold) (foreign : desk.table.holder resource ≠ some owner) :
    (desk.lock resource owner).2.GuardsHold := by
  have table := (desk.lock_eq resource owner).1
  rcases desk.lock_cases resource owner with ⟨grown, granted⟩ | ⟨same, conflict, refused⟩
  · have free : desk.table.holder resource = none :=
      ((desk.table.acquires resource owner).succeeds.mp granted).resolve_right foreign
    have taken := (desk.table.acquires resource owner).taken granted
    rw [← table] at taken
    have new := guard?_append grown
    -- An earlier guard is for another resource, since the new one's was free.
    have apart : ∀ {number : Nat} {guard : LockGuard}, desk.guard? number = some guard →
        guard.resource ≠ resource := by
      intro number guard found same
      have held := hold.held number guard found
      rw [same, free] at held
      cases held
    constructor
    · intro number guard found
      rw [taken]
      rw [new] at found
      split at found
      · obtain rfl := Option.some.inj found
        rw [Function.update_self]
      · rw [Function.update_of_ne (apart found)]
        exact hold.held number guard found
    · intro first second guard other found present same
      rw [new] at found present
      split at found <;> split at present
      · rename_i here there
        rw [here, there]
      · obtain rfl := Option.some.inj found
        exact absurd same.symm (apart present)
      · obtain rfl := Option.some.inj present
        exact absurd same (apart found)
      · exact hold.distinct first second guard other found present same
  · have kept := ((desk.table.acquires resource owner).refused conflict refused).2.2.2
    exact hold.of_eq same (table.trans kept)

/-- A guard that ends takes no lock from another one. -/
theorem endGuard (hold : desk.GuardsHold) (number : Nat) :
    (desk.endGuard number).2.GuardsHold := by
  cases found : desk.guard? number with
  | none =>
    rw [GuardedTable.endGuard, found]
    exact hold
  | some ended =>
    have others : ∀ {other : Nat} {guard : LockGuard},
        (desk.endGuard number).2.guard? other = some guard →
          number ≠ other ∧ desk.guard? other = some guard := by
      intro other guard stays
      rw [guard?_endGuard] at stays
      exact Option.ite_none_left_eq_some.mp stays
    refine hold.of_fewer (fun _ _ stays => (others stays).2) ?_
    intro other guard stays held
    obtain ⟨different, stays⟩ := others stays
    rw [holder_endGuard found, if_neg]
    · exact held
    · rintro ⟨same, -⟩
      exact different (hold.distinct number other ended guard found stays same)

theorem persist (hold : desk.GuardsHold) (number : Nat) : (desk.persist number).2.GuardsHold := by
  refine hold.of_fewer ?_ ?_
  · intro other guard stays
    rw [guard?_persist] at stays
    exact (Option.ite_none_left_eq_some.mp stays).2
  · intro other guard stays held
    rw [table_persist]
    exact held

theorem step (hold : desk.GuardsHold) (orderly : desk.Orderly deed) :
    (desk.step deed).GuardsHold := by
  cases deed with
  | acquire resource owner =>
    refine hold.of_fewer (fun _ _ found => found) ?_
    intro number guard found held
    rw [holder_step]
    exact LockRequest.change_acquire_of_held held
  | lock resource owner => exact hold.lock orderly
  | release resource owner =>
    exact hold.of_eq rfl ((desk.table.releases resource owner).kept orderly)
  | releaseAll owner =>
    have idle : desk.Idle (.releaseAll owner) := orderly
    exact hold.of_eq rfl (desk.idle_step idle).1
  | endGuard number => exact hold.endGuard number
  | persist number => exact hold.persist number

end GuardsHold

theorem guardsHold_run (orderly : ∀ earlier deed later, deeds = earlier ++ deed :: later →
    (empty.run earlier).Orderly deed) : (empty.run deeds).GuardsHold := by
  induction deeds using List.reverseRecOn with
  | nil =>
    constructor
    · intro number guard found
      simp [run, empty, guard?] at found
    · intro first second guard other found
      simp [run, empty, guard?] at found
  | append_singleton deeds deed ih =>
    rw [run_concat]
    refine (ih ?_).step (orderly deeds deed [] rfl)
    rintro earlier between later rfl
    exact orderly earlier between (later ++ [deed]) (by simp)

/-- The end of a guard: it goes by being dropped or by being released, which is the same, and takes
its lock with it if its owner has it still, but nothing that is locked otherwise. -/
structure EndsAlone (desk : GuardedTable) (number : Nat) (guard : LockGuard) : Prop where
  dropped : (desk.endGuard number).2 = (HeldGuard.drop ⟨guard, true⟩ desk).forget number
  released : (desk.endGuard number).2 = (HeldGuard.release ⟨guard, true⟩ desk).forget number
  persisted : (desk.persist number).2 = (HeldGuard.persist ⟨guard, true⟩ desk).forget number
  own : (desk.endGuard number).2.table.holder guard.resource ≠ some guard.owner
  others : ∀ resource,
    resource ≠ guard.resource ∨ desk.table.holder resource ≠ some guard.owner →
      (desk.endGuard number).2.table.holder resource = desk.table.holder resource

theorem endsAlone (found : desk.guard? number = some guard) : desk.EndsAlone number guard := by
  refine ⟨?_, ?_, ?_, ?_, ?_⟩
  · exact endGuard_of_guard desk found
  · exact endGuard_of_guard desk found
  · rw [persist, found]
    rfl
  · rw [holder_endGuard found]
    split
    · simp
    · rename_i other
      exact fun held => other ⟨rfl, held⟩
  · intro resource different
    rw [holder_endGuard found, if_neg]
    rintro ⟨rfl, own⟩
    exact different.elim (· rfl) (· own)

/-- Whatever is done with a table and its guards: a lock that is held has a guard, unless since it
was taken it has also been acquired directly or a guard for it has been told to leave it, so that
without such locks nothing is left when all guards have ended; a guard that ends takes nothing from
others, also when its own lock has long gone to somebody else; and where nobody locks what they hold
and nothing is given back but by guards, each guard stands for a lock of its own. -/
theorem guards_neither_leak_nor_steal (deeds : List Deed) :
    let desk := empty.run deeds
    (∀ resource owner, desk.table.holder resource = some owner →
      ∃ earlier recent, deeds = earlier ++ recent ∧
        (empty.run earlier).HeldSince recent resource owner ∧
        (desk.Guarded resource owner ∨ (empty.run earlier).LeftBy recent resource owner)) ∧
    ((∀ number, desk.guard? number = none) →
      (∀ resource owner, ¬ empty.LeftBy deeds resource owner) → desk.table = .empty) ∧
    (∀ number guard, desk.guard? number = some guard → desk.EndsAlone number guard) ∧
    (∀ number, (desk.persist number).2.table = desk.table) ∧
    ((∀ earlier deed later, deeds = earlier ++ deed :: later →
      (empty.run earlier).Orderly deed) → desk.GuardsHold) := by
  intro desk
  refine ⟨?_, empty_of_unguarded, ?_, desk.table_persist, guardsHold_run⟩
  · exact fun resource owner => backed deeds
  · exact fun number guard => endsAlone

/-- A lock goes from one owner to another. -/
def handover : List Deed := [.lock 7 ⟨0⟩, .endGuard 0, .lock 7 ⟨1⟩]

/-- A guard whose lock was retaken ends without harm; the first guard of an orderly handover leaves
nothing behind, and the second one has the lock. -/
theorem guards_neither_leak_nor_steal_of_handover :
    (empty.run staleGuard).guard? 0 = some ⟨7, ⟨0⟩⟩ ∧
      ((empty.run staleGuard).endGuard 0).2.table.holder 7 = some ⟨1⟩ ∧
      (empty.run (handover.take 2)).table = .empty ∧
      (empty.run handover).table.holder 7 = some ⟨1⟩ ∧
      (empty.run handover).Guarded 7 ⟨1⟩ := by
  have stale : (empty.run staleGuard).guard? 0 = some ⟨7, ⟨0⟩⟩ := rfl
  have ends := (guards_neither_leak_nor_steal staleGuard).2.2.1 0 _ stale
  have retaken : (empty.run staleGuard).table.holder 7 ≠ some ⟨0⟩ := by decide
  have ended : ∀ number, (empty.run (handover.take 2)).guard? number = none := by
    rintro (_ | number) <;> rfl
  have none_left : ∀ resource owner, ¬ empty.LeftBy (handover.take 2) resource owner := by
    rintro resource owner ⟨earlier, deed, later, split, leaves⟩
    have member : deed ∈ handover.take 2 := by simp [split]
    simp only [handover, List.take_succ_cons, List.take_zero, List.mem_cons, List.not_mem_nil,
      or_false] at member
    rcases member with rfl | rfl
    · exact leaves
    · exact leaves
  have orderly : ∀ earlier deed later, handover = earlier ++ deed :: later →
      (empty.run earlier).Orderly deed := by
    intro earlier deed later split
    rcases earlier with _ | ⟨first, _ | ⟨second, _ | ⟨third, earlier⟩⟩⟩
    · cases split
      show empty.table.holder 7 ≠ some ⟨0⟩
      decide
    · cases split
      trivial
    · cases split
      show (empty.run (handover.take 2)).table.holder 7 ≠ some ⟨1⟩
      decide
    · simp [handover] at split
  have second : (empty.run handover).guard? 1 = some ⟨7, ⟨1⟩⟩ := rfl
  have hold := (guards_neither_leak_nor_steal handover).2.2.2.2 orderly
  refine ⟨stale, ?_, ?_, hold.held 1 _ second, 1, second⟩
  · exact (ends.others 7 (.inr retaken)).trans rfl
  · exact (guards_neither_leak_nor_steal (handover.take 2)).2.1 ended none_left

end GuardedTable

end RecordLocks
