import RecordLocks.Proofs.Alone
import RecordLocks.Proofs.Machine
namespace RecordLocks

/-- The machine says of the manager all that callers who take turns can tell: its drafts are the
working copies, whoever has the locks. -/
structure Represents (machine : Machine) (manager : Manager) : Prop where
  sound : manager.Sound
  numbered : manager.Numbered machine.next
  records : manager.store.books = machine.records
  identity : ∀ resource book, machine.records.get? resource = some book → book.id = resource
  named : ∀ session resource book, manager.copy? session resource = some book →
    book.id = resource
  live : ∀ session,
    (manager.listed? session).map (·.session.user) = machine.live.get? session
  drafts : ∀ session resource book, manager.copy? session resource = some book ↔
    machine.drafts.get? resource = some (session, book)

/-- Nothing happens to the sessions themselves. -/
structure Steady (count : Nat) (before after : Manager) : Prop where
  sound : after.Sound
  numbered : after.Numbered count
  users : ∀ session, (after.listed? session).map (·.session.user) =
    (before.listed? session).map (·.session.user)

namespace Represents

open Manager

variable {machine : Machine} {manager after : Manager} {id : CallId} {session : SessionId}
  {request : Request} {phase : Phase} {seat : Seat} {resource : ResourceId} {book : Book}

theorem own_eq (represents : Represents machine manager) (session : SessionId)
    (resource : ResourceId) : machine.own? session resource = manager.copy? session resource := by
  apply Option.ext
  intro book
  rw [represents.drafts, Machine.own?]
  cases machine.drafts.get? resource with
  | none => simp
  | some draft =>
    obtain ⟨holder, copy⟩ := draft
    by_cases own : holder = session
    · simp [own]
    · simp [own]

/-- The owner of the lock is the only session that may have a copy. -/
theorem eq_of_copy (represents : Represents machine manager)
    (held : manager.locks.holder resource = some session) {other : SessionId}
    (copied : manager.copy? other resource = some book) : other = session := by
  have holds := represents.sound.held_of_copy copied
  rw [held] at holds
  exact (Option.some.inj holds).symm

/-- The sessions that are listed may change while nothing happens to the copies. -/
theorem relist (represents : Represents machine manager) {live : Index SessionId String}
    (sound : after.Sound) (numbered : after.Numbered machine.next)
    (store : after.store = manager.store)
    (copies : ∀ session resource, after.copy? session resource = manager.copy? session resource)
    (listed : ∀ session, (after.listed? session).map (·.session.user) = live.get? session) :
    Represents { machine with live := live } after := by
  refine ⟨sound, numbered, ?_, represents.identity, ?_, listed, ?_⟩
  · rw [store]
    exact represents.records
  · intro session resource book copied
    rw [copies] at copied
    exact represents.named session resource book copied
  · intro session resource book
    rw [copies]
    exact represents.drafts session resource book

theorem same (represents : Represents machine manager) (steady : Steady machine.next manager after)
    (store : after.store = manager.store)
    (copies : ∀ session resource, after.copy? session resource = manager.copy? session resource) :
    Represents machine after := by
  apply represents.relist steady.sound steady.numbered store copies
  intro session
  rw [steady.users]
  exact represents.live session

theorem keep (represents : Represents machine manager) (steady : Steady machine.next manager after)
    (store : after.store = manager.store) (named : book.id = resource)
    (copied : after.copy? session resource = some book)
    (copies : ∀ other asked, ¬ (session = other ∧ resource = asked) →
      after.copy? other asked = manager.copy? other asked)
    (held : manager.locks.holder resource = some session) :
    Represents (machine.keep session resource book) after := by
  refine ⟨steady.sound, steady.numbered, ?_, represents.identity, ?_, ?_, ?_⟩
  · rw [store]
    exact represents.records
  · intro other asked copy found
    by_cases here : session = other ∧ resource = asked
    · obtain ⟨rfl, rfl⟩ := here
      rw [copied] at found
      exact Option.some.inj found ▸ named
    · rw [copies other asked here] at found
      exact represents.named other asked copy found
  · intro session
    rw [steady.users]
    exact represents.live session
  · intro other asked copy
    rw [Machine.keep, Index.get?_insert]
    by_cases here : session = other ∧ resource = asked
    · obtain ⟨rfl, rfl⟩ := here
      simp [copied]
    · rw [copies other asked here]
      by_cases same : resource = asked
      · subst same
        have absent : manager.copy? other resource ≠ some copy := by
          intro found
          exact here ⟨(represents.eq_of_copy held found).symm, rfl⟩
        have different : session ≠ other := fun own => here ⟨own, rfl⟩
        simp [absent, different]
      · rw [if_neg same]
        exact represents.drafts other asked copy

theorem drop (represents : Represents machine manager) (steady : Steady machine.next manager after)
    (store : after.store = manager.store)
    (copies : ∀ other asked, after.copy? other asked =
      if session = other ∧ resource = asked then none else manager.copy? other asked)
    (held : manager.locks.holder resource = some session) :
    Represents (machine.drop resource) after := by
  refine ⟨steady.sound, steady.numbered, ?_, represents.identity, ?_, ?_, ?_⟩
  · rw [store]
    exact represents.records
  · intro other asked copy found
    rw [copies] at found
    split at found
    · cases found
    · exact represents.named other asked copy found
  · intro session
    rw [steady.users]
    exact represents.live session
  · intro other asked copy
    rw [Machine.drop, Index.get?_erase, copies]
    by_cases same : resource = asked
    · subst same
      have absent : session ≠ other → manager.copy? other resource ≠ some copy := by
        intro different found
        exact different (represents.eq_of_copy held found).symm
      by_cases own : session = other
      · simp [own]
      · simp [own, absent own]
    · rw [if_neg same, if_neg fun here => same here.2]
      exact represents.drafts other asked copy

theorem put (represents : Represents machine manager) (steady : Steady machine.next manager after)
    (store : after.store = manager.store.put book) (named : book.id = resource)
    (copies : ∀ session resource, after.copy? session resource = manager.copy? session resource) :
    Represents (machine.store resource book) after := by
  refine ⟨steady.sound, steady.numbered, ?_, ?_, ?_, ?_, ?_⟩
  · rw [store, Machine.store, ← represents.records, ← named]
    rfl
  · intro asked copy found
    rw [Machine.store, Index.get?_insert] at found
    split at found
    · rename_i same
      rw [← Option.some.inj found, ← same]
      exact named
    · exact represents.identity asked copy found
  · intro session resource book copied
    rw [copies] at copied
    exact represents.named session resource book copied
  · intro session
    rw [steady.users]
    exact represents.live session
  · intro session resource book
    rw [copies]
    exact represents.drafts session resource book

theorem clear (represents : Represents machine manager)
    (steady : Steady machine.next manager after) (store : after.store = manager.store)
    (copies : ∀ other resource, after.copy? other resource =
      if session = other then none else manager.copy? other resource) :
    Represents (machine.clear session) after := by
  refine ⟨steady.sound, steady.numbered, ?_, represents.identity, ?_, ?_, ?_⟩
  · rw [store]
    exact represents.records
  · intro other resource book copied
    rw [copies] at copied
    split at copied
    · cases copied
    · exact represents.named other resource book copied
  · intro session
    rw [steady.users]
    exact represents.live session
  · intro other resource book
    rw [copies, Machine.clear, Index.get?_filter, Option.filter_eq_some_iff, ← represents.drafts]
    by_cases own : session = other
    · simp [own]
    · simp [own, Ne.symm own]

theorem held_eq (represents : Represents machine manager)
    (seated : manager.seats.get? session = some seat) :
    seat.session.checkedOut = machine.held session := by
  apply Index.keys_eq
  intro resource
  refine Session.mem_checkedOut.trans (Iff.trans ?_ Machine.mem_held.symm)
  rw [represents.own_eq, copy?, seated]
  rfl

theorem live_of_unlisted (represents : Represents machine manager)
    (seated : manager.seats.get? session = some seat) (gone : seat.listed = false) :
    machine.live.get? session = none := by
  rw [← represents.live]
  simp [listed?, seated, Option.filter, gone]

/-- A manager without calls has locked just the records that the machine has drafts of. -/
theorem holder_eq (represents : Represents machine manager) (quiet : manager.calls = ∅)
    (resource : ResourceId) :
    manager.locks.holder resource = (machine.drafts.get? resource).map (·.1) := by
  apply Option.ext
  intro session
  rw [Option.map_eq_some_iff]
  constructor
  · intro held
    obtain ⟨seat, seated⟩ := represents.sound.owned resource session held
    have tally := (represents.sound.seats session seat seated).tally
    have idle : manager.phaseAt seat = .waiting := by
      cases split : seat.line <;> simp [phaseAt, served?, split, quiet]
    rw [idle] at tally
    obtain ⟨copy, copied⟩ := Option.isSome_iff_exists.mp ((tally resource).mp held)
    refine ⟨(session, copy), (represents.drafts session resource copy).mp ?_, rfl⟩
    simp [copy?, seated, copied]
  · rintro ⟨⟨holder, copy⟩, drafted, rfl⟩
    exact represents.sound.held_of_copy ((represents.drafts _ _ _).mpr drafted)

theorem heldBy_eq (represents : Represents machine manager) (quiet : manager.calls = ∅)
    (session : SessionId) : manager.locks.heldBy session = machine.held session := by
  apply Index.keys_eq
  intro resource
  refine LockTable.mem_heldBy.trans (Iff.trans ?_ Machine.mem_held.symm)
  rw [represents.holder_eq quiet, Machine.own?]
  cases machine.drafts.get? resource with
  | none => simp
  | some draft => by_cases own : draft.1 = session <;> simp [own]

theorem lockStatus_eq (represents : Represents machine manager) (quiet : manager.calls = ∅)
    (resource : ResourceId) (session : SessionId) :
    manager.locks.status resource session = machine.lockStatus resource session := by
  rw [LockTable.status, Machine.lockStatus, represents.holder_eq quiet]
  cases machine.drafts.get? resource with
  | none => rfl
  | some draft => rfl

theorem live_toList (represents : Represents machine manager) :
    machine.live.toList =
      manager.listedSeats.map fun entry => (entry.1, entry.2.session.user) := by
  have same : ∀ session, ((manager.seats.filter fun _ seat => seat.listed).get? session).map
      (·.session.user) = machine.live.get? session := by
    intro session
    rw [Index.get?_filter]
    exact represents.live session
  exact Index.toList_eq same

theorem sessions_eq (represents : Represents machine manager) (quiet : manager.calls = ∅) :
    manager.sessions = machine.sessions := by
  rw [sessions, Machine.sessions, represents.live_toList, List.map_map]
  apply List.map_congr_left
  intro entry member
  simp only [Function.comp_apply, represents.heldBy_eq quiet]

theorem sessionCount_eq (represents : Represents machine manager) :
    manager.sessionCount = machine.live.size := by
  have same : machine.live.size = machine.live.toList.length := rfl
  rw [same, represents.live_toList, List.length_map]
  rfl

/-- Somebody else has changed the store. -/
theorem erase (represents : Represents machine manager) (id : ResourceId) :
    Represents (machine.remove id).2
      { manager with store := ⟨manager.store.books.erase id⟩ } := by
  refine ⟨?_, ?_, ?_, ?_, represents.named, represents.live, represents.drafts⟩
  · exact represents.sound.of_eq rfl rfl rfl
  · exact ⟨represents.numbered.next, represents.numbered.entrants, represents.numbered.seats⟩
  · rw [Machine.remove, represents.records]
  · intro resource book found
    rw [Machine.remove, Index.get?_erase] at found
    split at found
    · cases found
    · exact represents.identity resource book found

theorem put_outside (represents : Represents machine manager) (book : Book) :
    Represents (machine.store book.id book)
      { manager with store := manager.store.put book } := by
  refine represents.put ⟨?_, ?_, fun _ => rfl⟩ rfl rfl fun _ _ => rfl
  · exact represents.sound.of_eq rfl rfl rfl
  · exact ⟨represents.numbered.next, represents.numbered.entrants, represents.numbered.seats⟩

theorem calls_openSession (manager : Manager) (user : String) :
    (manager.openSession user).2.calls = manager.calls := by
  simp only [Manager.openSession, enlist]
  split <;> rfl

theorem openSession (represents : Represents machine manager) (few : machine.next < 2 ^ 64)
    (user : String) :
    (manager.openSession user).1 = (machine.newSession user).1 ∧
      Represents (machine.newSession user).2 (manager.openSession user).2 := by
  have number : manager.nextSession = UInt64.ofNat machine.next := represents.numbered.next
  have entered := represents.numbered.enter few user
  have sound : (manager.enter user).2.Sound := represents.sound.of_eq rfl rfl rfl
  have waits : (manager.enter user).2.entrants.get? ⟨manager.nextSession⟩ = some user := by
    simp [enter, Index.get?_insert]
  have new : manager.seats.get? ⟨manager.nextSession⟩ = none := (entered.entrants _ user waits).2
  have opened : (manager.openSession user).2 =
      (((manager.enter user).2.turnAway ⟨manager.nextSession⟩).setSeat ⟨manager.nextSession⟩
        ⟨.start ⟨manager.nextSession⟩ user, [], true, false⟩).record
          (.sessionStarted ⟨manager.nextSession⟩ user) := enlist_of_entrant waits
  have copies : ∀ other resource,
      (manager.openSession user).2.copy? other resource = manager.copy? other resource := by
    intro other resource
    rw [opened, copy?_record, copy?_setSeat]
    split
    · rename_i same
      subst same
      simp [copy?, new]
    · rfl
  have named : (manager.openSession user).1 = (machine.newSession user).1 := by
    rw [Machine.newSession, ← number]
    rfl
  refine ⟨named, sound.enlist entered, entered.enlist, ?_, represents.identity, ?_, ?_, ?_⟩
  · rw [opened]
    exact represents.records
  · intro other resource book copied
    rw [copies] at copied
    exact represents.named other resource book copied
  · intro other
    rw [opened, Machine.newSession, ← number, Index.get?_insert, listed?]
    by_cases same : (⟨manager.nextSession⟩ : SessionId) = other
    · simp [record, setSeat, Index.get?_insert, same, Option.filter, Session.start]
    · rw [if_neg same, ← represents.live]
      simp [record, setSeat, turnAway, enter, Index.get?_insert, same, listed?]
  · intro other resource book
    rw [copies]
    exact represents.drafts other resource book

end Represents

end RecordLocks
