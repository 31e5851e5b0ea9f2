import RecordLocks.Proofs.Frame
namespace RecordLocks

def Request.opens? : Request → Option ResourceId
  | .write resource _ _ | .read resource _ | .checkout resource => some resource
  | _ => none

/-- A call is in no phase that its request does not lead to. -/
def Call.Fits (call : Call) : Prop :=
  match call.phase with
  | .arriving | .waiting => True
  | .loading resource => call.request.opens? = some resource
  | .writing resource _ => ∃ field value, call.request = .write resource field value
  | .reading resource field => call.request = .read resource field
  | .storing resource _ =>
    (∃ field value, call.request = .write resource field value) ∨
      call.request = .commit resource

/-- While a session serves a call in this phase it holds the lock of each of its copies and of
the record that it loads, and no other lock. -/
def Phase.Tallies (phase : Phase) (copy? : ResourceId → Option Book)
    (held : ResourceId → Prop) : Prop :=
  match phase with
  | .arriving | .waiting => ∀ other, held other ↔ (copy? other).isSome
  | .loading resource => ∀ other, held other ↔ (copy? other).isSome ∨ other = resource
  | .writing resource edited | .storing resource edited =>
    (∀ other, held other ↔ (copy? other).isSome) ∧ copy? resource = some edited
  | .reading resource _ => (∀ other, held other ↔ (copy? other).isSome) ∧ (copy? resource).isSome

theorem Phase.Tallies.held_of_copy {phase : Phase} {copy? : ResourceId → Option Book}
    {held : ResourceId → Prop} (tally : phase.Tallies copy? held) {resource : ResourceId}
    (copied : (copy? resource).isSome) : held resource := by
  cases phase with
  | arriving | waiting => exact (tally resource).mpr copied
  | loading loaded => exact (tally resource).mpr (.inl copied)
  | writing | reading | storing => exact (tally.1 resource).mpr copied

theorem Phase.Tallies.held_of_window {phase : Phase} {copy? : ResourceId → Option Book}
    {held : ResourceId → Prop} (tally : phase.Tallies copy? held) {resource : ResourceId}
    (opened : phase.window? = some resource) : held resource := by
  cases phase with
  | arriving | waiting => cases opened
  | loading loaded =>
    cases opened
    exact (tally resource).mpr (.inr rfl)
  | writing other edited | storing other edited =>
    cases opened
    exact (tally.1 resource).mpr (by rw [tally.2]; rfl)
  | reading other field =>
    cases opened
    exact (tally.1 resource).mpr tally.2

theorem Phase.Tallies.copy_or_loading {phase : Phase} {copy? : ResourceId → Option Book}
    {held : ResourceId → Prop} (tally : phase.Tallies copy? held) {resource : ResourceId}
    (locked : held resource) : (copy? resource).isSome ∨ phase = .loading resource := by
  cases phase with
  | arriving | waiting => exact .inl ((tally resource).mp locked)
  | loading loaded =>
    rcases (tally resource).mp locked with copied | rfl
    · exact .inl copied
    · exact .inr rfl
  | writing | reading | storing => exact .inl ((tally.1 resource).mp locked)

/-- The calls of a session that have arrived stand in its line, and all but the first wait. -/
structure InLine (calls : Index CallId Call) (session : SessionId) (line : List CallId) :
    Prop where
  nodup : line.Nodup
  mem_iff : ∀ id, id ∈ line ↔
    ∃ call, calls.get? id = some call ∧ call.session = session ∧ call.phase ≠ .arriving
  behind : ∀ id ∈ line.tail, ∃ request, calls.get? id = some ⟨session, request, .waiting⟩

theorem InLine.head_of_phase {calls : Index CallId Call} {session : SessionId}
    {line : List CallId} (sound : InLine calls session line) {id : CallId} {call : Call}
    (found : calls.get? id = some call) (own : call.session = session)
    (arrived : call.phase ≠ .arriving) (working : call.phase ≠ .waiting) :
    line.head? = some id := by
  have member : id ∈ line := (sound.mem_iff id).mpr ⟨call, found, own, arrived⟩
  cases line with
  | nil => cases member
  | cons first rest =>
    rcases List.mem_cons.mp member with rfl | later
    · rfl
    · obtain ⟨request, waits⟩ := sound.behind id later
      rw [found] at waits
      cases waits
      exact absurd rfl working

namespace Manager

def served? (manager : Manager) (seat : Seat) : Option Call :=
  seat.line.head?.bind manager.calls.get?

/-- The phase of the call that a session serves; a session that serves none waits. -/
def phaseAt (manager : Manager) (seat : Seat) : Phase :=
  ((manager.served? seat).map (·.phase)).getD .waiting

theorem phaseAt_head {manager : Manager} {seat : Seat} {id : CallId} {call : Call}
    (head : seat.line.head? = some id) (found : manager.calls.get? id = some call) :
    manager.phaseAt seat = call.phase := by
  simp [phaseAt, served?, head, found]

/-- A session's name, line, copies and locks agree. A session that is being removed is not listed
any more, and nothing is left in it once it is closed. -/
structure SoundSeat (manager : Manager) (session : SessionId) (seat : Seat) : Prop where
  named : seat.session.id = session
  line : InLine manager.calls session seat.line
  tally : (manager.phaseAt seat).Tallies seat.session.copy?
    fun resource => manager.locks.holder resource = some session
  leaving : ∀ id phase, manager.calls.get? id = some ⟨session, .removeSession, phase⟩ →
    seat.listed = false
  closed : seat.closed = true →
    seat.listed = false ∧ ∀ resource, manager.locks.holder resource ≠ some session

structure Sound (manager : Manager) : Prop where
  seated : ∀ id call, manager.calls.get? id = some call →
    ∃ seat, manager.seats.get? call.session = some seat
  owned : ∀ resource session, manager.locks.holder resource = some session →
    ∃ seat, manager.seats.get? session = some seat
  fits : ∀ id call, manager.calls.get? id = some call → call.Fits
  seats : ∀ session seat, manager.seats.get? session = some seat →
    manager.SoundSeat session seat

/-- A session that has just its copies locked tells them and its locks alike. -/
theorem checkedOut_eq_heldBy {manager : Manager} {session : SessionId} {seat : Seat}
    (tally : Phase.waiting.Tallies seat.session.copy?
      fun resource => manager.locks.holder resource = some session) :
    seat.session.checkedOut = manager.locks.heldBy session := by
  apply Index.keys_eq
  intro resource
  exact Session.mem_checkedOut.trans ((tally resource).symm.trans LockTable.mem_heldBy.symm)

theorem SoundSeat.held_of_copy {manager : Manager} {session : SessionId} {seat : Seat}
    (sound : manager.SoundSeat session seat) {resource : ResourceId}
    (copied : (seat.session.copy? resource).isSome) :
    manager.locks.holder resource = some session :=
  sound.tally.held_of_copy copied

theorem Sound.held_of_copy {manager : Manager} (sound : manager.Sound) {session : SessionId}
    {resource : ResourceId} {book : Book}
    (copied : manager.copy? session resource = some book) :
    manager.locks.holder resource = some session := by
  obtain ⟨seat, seated, owned⟩ := Option.bind_eq_some_iff.mp copied
  exact (sound.seats session seat seated).held_of_copy (by rw [owned]; rfl)

/-- No two sessions have a copy of the same record. -/
theorem Sound.eq_of_copies {manager : Manager} (sound : manager.Sound)
    {first second : SessionId} {resource : ResourceId} {one two : Book}
    (copied : manager.copy? first resource = some one)
    (also : manager.copy? second resource = some two) : first = second := by
  have held := sound.held_of_copy copied
  rw [sound.held_of_copy also] at held
  exact (Option.some.inj held).symm

theorem sound_start (store : RecordStore) : (start store).Sound := by
  constructor
  · intro id call found
    cases found
  · intro resource session held
    cases held
  · intro id call found
    cases found
  · intro session seat seated
    cases seated

end Manager

end RecordLocks
