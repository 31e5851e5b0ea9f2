import RecordLocks.Proofs.Determined
import RecordLocks.Proofs.Footprint
namespace RecordLocks

/-- The same book, or two versions of one if it is hidden. -/
structure Book.Like (hidden : Prop) (one two : Book) : Prop where
  id : two.id = one.id
  same : ¬ hidden → two = one

/-- The same session on the same copies, but for the contents of those that are hidden. -/
structure Seat.Like (hidden : ResourceId → Prop) (one two : Seat) : Prop where
  line : two.line = one.line
  listed : two.listed = one.listed
  closed : two.closed = one.closed
  id : two.session.id = one.session.id
  user : two.session.user = one.session.user
  copies : ∀ resource, Option.Rel (Book.Like (hidden resource)) (one.session.copy? resource)
    (two.session.copy? resource)

/-- The same request. If it may be different, it is an edit with another value. -/
inductive Request.Like (loose : Prop) : Request → Request → Prop
  | refl (request) : Like loose request request
  | edit (free : loose) (resource field value other) :
    Like loose (.edit resource field value) (.edit resource field other)

/-- The same phase, but for the contents of a copy that is hidden. -/
inductive Phase.Like (hidden : ResourceId → Prop) : Phase → Phase → Prop
  | refl (phase) : Like hidden phase phase
  | writing (resource) {edited other} (like : Book.Like (hidden resource) edited other) :
    Like hidden (.writing resource edited) (.writing resource other)
  | storing (resource) {edited other} (like : Book.Like (hidden resource) edited other) :
    Like hidden (.storing resource edited) (.storing resource other)

/-- The same call, but for the values that one session edits. -/
structure Call.Like (spy : SessionId) (secret : SessionId → ResourceId → Prop)
    (one two : Call) : Prop where
  session : two.session = one.session
  request : Request.Like (one.session = spy) one.request two.request
  phase : Phase.Like (secret one.session) one.phase two.phase

/-- What an outcome tells but for the contents of records. -/
def told : Outcome → Except AccessError (Option Reply)
  | .error error => .error error
  | .ok (.book _) | .ok (.text _) => .ok none
  | .ok (.flag value) => .ok (some (.flag value))
  | .ok (.resources resources) => .ok (some (.resources resources))
  | .ok .done => .ok (some .done)

/-- The same outcome but for the contents of records, and for those as well if they are open. -/
structure Outcome.Like (visible : Prop) (one two : Outcome) : Prop where
  told : told two = told one
  same : visible → two = one

namespace Manager

/-- The same but for the contents of the secret copies and the values that one session edits. -/
structure Veiled (spy : SessionId) (secret : SessionId → ResourceId → Prop)
    (one two : Manager) : Prop where
  store : two.store = one.store
  locks : two.locks = one.locks
  trail : two.trail = one.trail
  nextSession : two.nextSession = one.nextSession
  entrants : two.entrants = one.entrants
  seats : ∀ session, Option.Rel (Seat.Like (secret session)) (one.seats.get? session)
    (two.seats.get? session)
  calls : ∀ id, Option.Rel (Call.Like spy secret) (one.calls.get? id) (two.calls.get? id)

end Manager

theorem Book.Like.refl {hidden : Prop} (book : Book) : Book.Like hidden book book :=
  ⟨rfl, fun _ => rfl⟩

theorem Book.Like.mono {hidden wider : Prop} {one two : Book} (like : Book.Like hidden one two)
    (wide : hidden → wider) : Book.Like wider one two :=
  ⟨like.id, fun shown => like.same fun hides => shown (wide hides)⟩

theorem Book.Like.set {hidden : Prop} {one two : Book} (like : Book.Like hidden one two)
    {field : BookField} {value other : String} (same : ¬ hidden → other = value) :
    Book.Like hidden (one.set field value) (two.set field other) := by
  constructor
  · rw [Book.id_set, Book.id_set, like.id]
  · intro shown
    rw [like.same shown, same shown]

section

variable {α β : Type} {narrow wide : α → β → Prop} {one : Option α} {two : Option β}

theorem rel_mono (related : Option.Rel narrow one two)
    (widens : ∀ first second, narrow first second → wide first second) :
    Option.Rel wide one two := by
  cases related with
  | none => exact .none
  | some like => exact .some (widens _ _ like)

theorem rel_of_some {first : α} (related : Option.Rel narrow one two) (found : one = some first) :
    ∃ second, two = some second ∧ narrow first second := by
  cases related with
  | none => cases found
  | some like =>
    cases found
    exact ⟨_, rfl, like⟩

theorem rel_of_none (related : Option.Rel narrow one two) (missing : one = none) :
    two = none := by
  cases related with
  | none => rfl
  | some like => cases missing

end

namespace Seat.Like

variable {hidden : ResourceId → Prop} {one two : Seat} {resource : ResourceId}

theorem refl (seat : Seat) : Seat.Like hidden seat seat := by
  refine ⟨rfl, rfl, rfl, rfl, rfl, ?_⟩
  intro resource
  cases seat.session.copy? resource with
  | none => exact .none
  | some book => exact .some (.refl book)

theorem queue (like : Seat.Like hidden one two) (id : CallId) :
    Seat.Like hidden { one with line := one.line ++ [id] }
      { two with line := two.line ++ [id] } :=
  ⟨by simp only [like.line], like.listed, like.closed, like.id, like.user, like.copies⟩

theorem leave (like : Seat.Like hidden one two) (id : CallId) :
    Seat.Like hidden { one with line := one.line.erase id }
      { two with line := two.line.erase id } :=
  ⟨by simp only [like.line], like.listed, like.closed, like.id, like.user, like.copies⟩

theorem list (like : Seat.Like hidden one two) (listed : Bool) :
    Seat.Like hidden { one with listed := listed } { two with listed := listed } :=
  ⟨like.line, rfl, like.closed, like.id, like.user, like.copies⟩

theorem release (like : Seat.Like hidden one two) (resource : ResourceId) :
    Seat.Like hidden { one with session := (one.session.release resource).2 }
      { two with session := (two.session.release resource).2 } := by
  refine ⟨like.line, like.listed, like.closed, like.id, like.user, ?_⟩
  intro other
  simp only [Session.copy?_release]
  split
  · exact .none
  · exact like.copies other

theorem clear (like : Seat.Like hidden one two) :
    Seat.Like hidden { one with session := one.session.clear.2, closed := true }
      { two with session := two.session.clear.2, closed := true } :=
  ⟨like.line, like.listed, rfl, like.id, like.user, fun _ => .none⟩

theorem loaded (like : Seat.Like hidden one two) (resource : ResourceId) (book : Book) :
    Book.Like (hidden resource) ((one.session.copy? resource).getD book)
      ((two.session.copy? resource).getD book) := by
  have copies := like.copies resource
  generalize one.session.copy? resource = first at copies
  generalize two.session.copy? resource = second at copies
  cases copies with
  | none => exact .refl book
  | some alike => exact alike

theorem checkout (like : Seat.Like hidden one two) (resource : ResourceId) (book : Book) :
    Seat.Like hidden { one with session := (one.session.checkout resource book).2 }
      { two with session := (two.session.checkout resource book).2 } := by
  refine ⟨like.line, like.listed, like.closed, ?_, ?_, ?_⟩
  · simp only [Session.id_checkout, like.id]
  · simp only [Session.user_checkout, like.user]
  · intro other
    simp only [Session.copy?_checkout]
    split
    · rename_i same
      subst same
      exact .some (like.loaded resource book)
    · exact like.copies other

theorem edit (like : Seat.Like hidden one two) (resource : ResourceId) (field : BookField)
    {value other : String} (same : ¬ hidden resource → other = value) :
    Seat.Like hidden { one with session := (one.session.edit resource field value).2 }
      { two with session := (two.session.edit resource field other).2 } := by
  refine ⟨like.line, like.listed, like.closed, ?_, ?_, ?_⟩
  · simp only [Session.id_edit, like.id]
  · simp only [Session.user_edit, like.user]
  · intro asked
    simp only [Session.copy?_edit]
    split
    · rename_i here
      subst here
      have copies := like.copies resource
      generalize one.session.copy? resource = first at copies
      generalize two.session.copy? resource = second at copies
      cases copies with
      | none => exact .none
      | some alike => exact .some (alike.set same)
    · exact like.copies asked

theorem checkedOut (like : Seat.Like hidden one two) :
    two.session.checkedOut = one.session.checkedOut := by
  apply Index.keys_eq
  intro resource
  rw [← Session.checkedOut, ← Session.checkedOut, Session.mem_checkedOut, Session.mem_checkedOut]
  have copies := like.copies resource
  generalize one.session.copy? resource = first at copies
  generalize two.session.copy? resource = second at copies
  cases copies with
  | none => simp
  | some alike => simp

theorem mono {wider : ResourceId → Prop} (like : Seat.Like hidden one two)
    (wide : ∀ resource, hidden resource → wider resource) : Seat.Like wider one two :=
  ⟨like.line, like.listed, like.closed, like.id, like.user,
    fun resource => rel_mono (like.copies resource) fun _ _ alike => alike.mono (wide resource)⟩

end Seat.Like

theorem Phase.Like.mono {hidden wider : ResourceId → Prop} {one two : Phase}
    (like : Phase.Like hidden one two) (wide : ∀ resource, hidden resource → wider resource) :
    Phase.Like wider one two := by
  cases like with
  | refl => exact .refl _
  | writing resource alike => exact .writing resource (alike.mono (wide resource))
  | storing resource alike => exact .storing resource (alike.mono (wide resource))

theorem Phase.Like.window? {hidden : ResourceId → Prop} {one two : Phase}
    (like : Phase.Like hidden one two) : two.window? = one.window? := by
  cases like with
  | refl => rfl
  | writing resource alike => rfl
  | storing resource alike => rfl

namespace Manager.Veiled

variable {spy session : SessionId} {secret wider : SessionId → ResourceId → Prop}
  {one two : Manager} {id : CallId} {resource : ResourceId}

theorem refl (manager : Manager) : Veiled spy secret manager manager := by
  refine ⟨rfl, rfl, rfl, rfl, rfl, ?_, ?_⟩
  · intro session
    cases manager.seats.get? session with
    | none => exact .none
    | some seat => exact .some (.refl seat)
  · intro id
    cases manager.calls.get? id with
    | none => exact .none
    | some call => exact .some ⟨rfl, .refl _, .refl _⟩

theorem mono (veiled : Veiled spy secret one two)
    (wide : ∀ session resource, secret session resource → wider session resource) :
    Veiled spy wider one two where
  store := veiled.store
  locks := veiled.locks
  trail := veiled.trail
  nextSession := veiled.nextSession
  entrants := veiled.entrants
  seats session := rel_mono (veiled.seats session) fun _ _ like => like.mono (wide session)
  calls id := rel_mono (veiled.calls id) fun _ _ like =>
    ⟨like.session, like.request, like.phase.mono (wide _)⟩

theorem setSeat (veiled : Veiled spy secret one two) {first second : Seat}
    (like : Seat.Like (secret session) first second) :
    Veiled spy secret (one.setSeat session first) (two.setSeat session second) := by
  refine ⟨veiled.store, veiled.locks, veiled.trail, veiled.nextSession, veiled.entrants, ?_,
    veiled.calls⟩
  intro other
  simp only [Manager.setSeat, Index.get?_insert]
  split
  · rename_i same
    subst same
    exact .some like
  · exact veiled.seats other

theorem setCall (veiled : Veiled spy secret one two) {first second : Call}
    (like : Call.Like spy secret first second) :
    Veiled spy secret (one.setCall id first) (two.setCall id second) := by
  refine ⟨veiled.store, veiled.locks, veiled.trail, veiled.nextSession, veiled.entrants,
    veiled.seats, ?_⟩
  intro other
  simp only [Manager.setCall, Index.get?_insert]
  split
  · exact .some like
  · exact veiled.calls other

theorem record (veiled : Veiled spy secret one two) (notice : Notice) :
    Veiled spy secret (one.record notice) (two.record notice) :=
  ⟨veiled.store, veiled.locks, by simp only [trail_record, veiled.trail], veiled.nextSession,
    veiled.entrants, veiled.seats, veiled.calls⟩

theorem acquire (veiled : Veiled spy secret one two) (resource : ResourceId)
    (owner : SessionId) :
    Veiled spy secret (one.acquire resource owner).2 (two.acquire resource owner).2 :=
  ⟨veiled.store, by simp only [Manager.acquire, applyLocks, veiled.locks],
    by simp only [Manager.acquire, applyLocks, veiled.locks, veiled.trail], veiled.nextSession,
    veiled.entrants, veiled.seats, veiled.calls⟩

theorem releaseAll (veiled : Veiled spy secret one two) (owner : SessionId) :
    Veiled spy secret (one.releaseAll owner).2 (two.releaseAll owner).2 :=
  ⟨veiled.store, by simp only [Manager.releaseAll, applyLocks, veiled.locks],
    by simp only [Manager.releaseAll, applyLocks, veiled.locks, veiled.trail],
    veiled.nextSession, veiled.entrants, veiled.seats, veiled.calls⟩

theorem withStore (veiled : Veiled spy secret one two) (store : RecordStore) :
    Veiled spy secret { one with store := store } { two with store := store } :=
  ⟨rfl, veiled.locks, veiled.trail, veiled.nextSession, veiled.entrants, veiled.seats,
    veiled.calls⟩

theorem closeWindow (veiled : Veiled spy secret one two) (session : SessionId)
    (resource : ResourceId) :
    Veiled spy secret (one.closeWindow session resource) (two.closeWindow session resource) := by
  refine ⟨by simp [veiled.store], by simp [veiled.locks], by simp [veiled.locks, veiled.trail],
    by simp [veiled.nextSession], by simp [veiled.entrants], ?_, by simpa using veiled.calls⟩
  intro other
  simp only [seats_closeWindow]
  split
  · have seats := veiled.seats other
    generalize one.seats.get? other = first at seats
    generalize two.seats.get? other = second at seats
    cases seats with
    | none => exact .none
    | some like => exact .some (like.release resource)
  · exact veiled.seats other

theorem forget (veiled : Veiled spy secret one two) (id : CallId) (session : SessionId) :
    Veiled spy secret (one.forget id session) (two.forget id session) := by
  refine ⟨by simp [veiled.store], by simp [veiled.locks], by simp [veiled.trail],
    by simp [veiled.nextSession], by simp [veiled.entrants], ?_, ?_⟩
  · intro other
    simp only [seats_forget]
    split
    · have seats := veiled.seats other
      generalize one.seats.get? other = first at seats
      generalize two.seats.get? other = second at seats
      cases seats with
      | none => exact .none
      | some like => exact .some (like.leave id)
    · exact veiled.seats other
  · intro other
    simp only [calls_forget, Index.get?_erase]
    split
    · exact .none
    · exact veiled.calls other

variable {request asked : Request} {phase reached : Phase} {seat place : Seat}
  {outcome : Option Outcome} {after : Manager}

theorem outcome_refl {visible : Prop} (outcome : Outcome) :
    Option.Rel (Outcome.Like visible) (some outcome) (some outcome) :=
  .some ⟨rfl, fun _ => rfl⟩

/-- A call does the same in both runs, if the store takes no secret copy and those that are edited
differently are secret. -/
theorem advance (veiled : Veiled spy secret one two)
    (own : ∀ session resource, secret session resource → session = spy)
    (places : Seat.Like (secret session) seat place)
    (requests : Request.Like (session = spy) request asked)
    (phases : Phase.Like (secret session) phase reached)
    (kept : ∀ resource edited, phase = .storing resource edited →
      outcome = some (.ok (.book edited)) → reached = phase)
    (marked : ∀ resource field value other reply, request = .edit resource field value →
      asked = .edit resource field other → outcome = some (.ok reply) →
      ¬ secret session resource → other = value)
    (advanced : Advance one id session seat request phase outcome after) :
    ∃ answer later, Advance two id session place asked reached answer later ∧
      Veiled spy secret after later ∧
      Option.Rel (Outcome.Like (session ≠ spy)) outcome answer := by
  have shown : session ≠ spy → ∀ resource, ¬ secret session resource :=
    fun other resource hides => other (own session resource hides)
  -- The second run finds the same at the session, in the lock table and in the store.
  have line := places.line
  have closed := places.closed
  have locks := veiled.locks
  have store := veiled.store
  cases advanced with
  | queued =>
    cases phases
    exact ⟨_, _, .queued,
      (veiled.setSeat (places.queue id)).setCall ⟨rfl, requests, .refl _⟩, .none⟩
  | behind blocked =>
    cases phases
    rw [← line] at blocked
    exact ⟨_, _, .behind blocked, veiled, .none⟩
  | removed head =>
    cases phases
    cases requests
    rw [← line] at head
    have cleared := (veiled.setSeat places.clear).releaseAll session
    refine ⟨_, _, .removed head, ?_, ?_⟩
    · rw [locks]
      exact (cleared.record _).forget id session
    · rw [locks]
      exact outcome_refl _
  | shut head shut other =>
    cases phases
    rw [← line] at head
    rw [← closed] at shut
    have stays : asked ≠ .removeSession := by
      cases requests with
      | refl => exact other
      | edit => simp
    exact ⟨_, _, .shut head shut stays, veiled.forget id session, outcome_refl _⟩
  | contended head live opens held foreign =>
    cases phases
    cases requests with
    | edit => cases opens
    | refl =>
      rw [← line] at head
      rw [← closed] at live
      rw [← locks] at held
      exact ⟨_, _, .contended head live opens held foreign,
        (veiled.record _).forget id session, outcome_refl _⟩
  | opened head live opens free =>
    cases phases
    cases requests with
    | edit => cases opens
    | refl =>
      rw [← line] at head
      rw [← closed] at live
      rw [← locks] at free
      exact ⟨_, _, .opened head live opens free,
        (veiled.acquire _ session).setCall ⟨rfl, .refl _, .refl _⟩, .none⟩
  | @edited resource book field value head live copied =>
    cases phases
    rw [← line] at head
    rw [← closed] at live
    obtain ⟨copy, held, like⟩ := rel_of_some (places.copies resource) copied
    obtain ⟨other, rfl⟩ : ∃ other, asked = .edit resource field other := by
      cases requests with
      | refl => exact ⟨value, rfl⟩
      | edit => exact ⟨_, rfl⟩
    have same : ¬ secret session resource → other = value :=
      marked resource field value other _ rfl rfl rfl
    refine ⟨_, _, .edited field other head live held,
      (veiled.setSeat (places.edit resource field same)).forget id session, .some ⟨rfl, ?_⟩⟩
    intro visible
    rw [like.same (shown visible resource), same (shown visible resource)]
  | @notCheckedOut request resource head live missing needs =>
    cases phases
    rw [← line] at head
    rw [← closed] at live
    have none_there := rel_of_none (places.copies resource) missing
    have needs : (∃ field value, asked = .edit resource field value) ∨
        asked = .commit resource := by
      cases requests with
      | refl => exact needs
      | edit free other field value =>
        rcases needs with ⟨_, _, same⟩ | same
        · cases same
          exact .inl ⟨_, _, rfl⟩
        · cases same
    exact ⟨_, _, .notCheckedOut head live none_there needs, veiled.forget id session,
      outcome_refl _⟩
  | @committing resource book head live copied =>
    cases phases
    cases requests
    rw [← line] at head
    rw [← closed] at live
    obtain ⟨copy, held, like⟩ := rel_of_some (places.copies resource) copied
    exact ⟨_, _, .committing head live held,
      veiled.setCall ⟨rfl, .refl _, .storing resource like⟩, .none⟩
  | @discarded resource book head live copied =>
    cases phases
    cases requests
    rw [← line] at head
    rw [← closed] at live
    obtain ⟨copy, held, -⟩ := rel_of_some (places.copies resource) copied
    exact ⟨_, _, .discarded head live held,
      ((veiled.closeWindow session resource).record _).forget id session, outcome_refl _⟩
  | @nothingDiscarded resource head live missing =>
    cases phases
    cases requests
    rw [← line] at head
    rw [← closed] at live
    exact ⟨_, _, .nothingDiscarded head live (rel_of_none (places.copies resource) missing),
      (veiled.closeWindow session resource).forget id session, outcome_refl _⟩
  | told head live =>
    cases phases
    cases requests
    rw [← line] at head
    rw [← closed] at live
    refine ⟨_, _, .told head live, veiled.forget id session, ?_⟩
    rw [places.checkedOut]
    exact outcome_refl _
  | @vanished request resource missing =>
    cases phases
    rw [← store] at missing
    exact ⟨_, _, .vanished missing, (veiled.closeWindow session resource).forget id session,
      outcome_refl _⟩
  | @loadedToWrite resource book field value stored =>
    cases phases
    cases requests
    rw [← store] at stored
    have loaded : Book.Like _ _ (((place.session.copy? resource).getD book).set field value) :=
      (places.loaded resource book).set fun _ => rfl
    exact ⟨_, _, .loadedToWrite field value stored,
      (veiled.setSeat ((places.checkout resource book).edit resource field fun _ => rfl)).setCall
        ⟨rfl, .refl _, .writing resource loaded⟩, .none⟩
  | @loadedToRead resource field book stored =>
    cases phases
    cases requests
    rw [← store] at stored
    exact ⟨_, _, .loadedToRead stored,
      (veiled.setSeat (places.checkout resource book)).setCall ⟨rfl, .refl _, .refl _⟩, .none⟩
  | @checkedOut resource book stored =>
    cases phases
    cases requests
    rw [← store] at stored
    refine ⟨_, _, .checkedOut stored,
      (veiled.setSeat (places.checkout resource book)).forget id session, .some ⟨rfl, ?_⟩⟩
    intro visible
    rw [(places.loaded resource book).same (shown visible resource)]
  | @worked request resource edited =>
    cases phases with
    | refl => exact ⟨_, _, .worked, veiled.setCall ⟨rfl, requests, .refl _⟩, .none⟩
    | writing _ like =>
      exact ⟨_, _, .worked, veiled.setCall ⟨rfl, requests, .storing resource like⟩, .none⟩
  | @readDone request resource field book copied =>
    cases phases
    obtain ⟨copy, held, like⟩ := rel_of_some (places.copies resource) copied
    refine ⟨_, _, .readDone held, (veiled.closeWindow session resource).forget id session,
      .some ⟨rfl, ?_⟩⟩
    intro visible
    rw [like.same (shown visible resource)]
  | @refused request resource edited missing =>
    rw [← store] at missing
    have closed := (veiled.closeWindow session resource).forget id session
    cases phases with
    | refl => exact ⟨_, _, .refused missing, closed, outcome_refl _⟩
    | @storing _ _ other like =>
      rw [← like.id] at missing ⊢
      exact ⟨_, _, .refused missing, closed, outcome_refl _⟩
  | @stored request resource edited old present =>
    have same := kept resource edited rfl rfl
    subst same
    rw [← store] at present
    have put := veiled.withStore (one.store.put edited)
    refine ⟨_, _, .stored present, ?_, outcome_refl _⟩
    rw [store]
    exact ((put.record _).closeWindow session resource).forget id session

theorem issue (veiled : Veiled spy secret one two) (id : CallId)
    (requests : Request.Like (session = spy) request asked) :
    Veiled spy secret (one.issue id session request).2 (two.issue id session asked).2 ∧
      (two.issue id session asked).1 = (one.issue id session request).1 := by
  cases used : one.calls.get? id with
  | some call =>
    obtain ⟨other, also, -⟩ := rel_of_some (veiled.calls id) used
    rw [issue_of_used used, issue_of_used also]
    exact ⟨veiled, rfl⟩
  | none =>
    have fresh := rel_of_none (veiled.calls id) used
    rcases issue_fresh used session request with ⟨seat, seated, listed, issued⟩ |
      ⟨unlisted, refused⟩
    · obtain ⟨place, there, like⟩ := rel_of_some (veiled.seats session) seated
      have stays : decide (asked ≠ .removeSession) = decide (request ≠ .removeSession) := by
        cases requests <;> simp
      rw [issued, issue_of_listed fresh there (like.listed.trans listed), stays]
      exact ⟨(veiled.setSeat (like.list _)).setCall ⟨rfl, requests, .refl _⟩, rfl⟩
    · have missing : ∀ place, two.seats.get? session = some place → place.listed = false := by
        intro place there
        have seats := veiled.seats session
        rw [there] at seats
        generalize one.seats.get? session = seat at seats unlisted
        cases seats with
        | some like => exact like.listed.trans (unlisted _ rfl)
      rw [refused, issue_of_unlisted fresh missing]
      exact ⟨veiled, rfl⟩

theorem cancel (veiled : Veiled spy secret one two) :
    Veiled spy secret (one.cancel id) (two.cancel id) := by
  cases found : one.calls.get? id with
  | none =>
    rw [cancel_of_none found, cancel_of_none (rel_of_none (veiled.calls id) found)]
    exact veiled
  | some call =>
    obtain ⟨other, there, like⟩ := rel_of_some (veiled.calls id) found
    have windows := like.phase.window?
    cases opened : call.phase.window? with
    | none =>
      rw [cancel_of_outside found opened, cancel_of_outside there (windows.trans opened),
        like.session]
      exact veiled.forget id call.session
    | some resource =>
      rw [cancel_of_window found opened, cancel_of_window there (windows.trans opened),
        like.session]
      exact (veiled.closeWindow call.session resource).forget id call.session

theorem enlist (veiled : Veiled spy secret one two) (session : SessionId) :
    Veiled spy secret (one.enlist session) (two.enlist session) := by
  have entrants := veiled.entrants
  cases entered : one.entrants.get? session with
  | none =>
    have missing : two.entrants.get? session = none := by rw [entrants, entered]
    rw [Manager.enlist, Manager.enlist, entered, missing]
    exact veiled
  | some user =>
    have there : two.entrants.get? session = some user := by rw [entrants, entered]
    have away : Veiled spy secret (one.turnAway session) (two.turnAway session) :=
      ⟨veiled.store, veiled.locks, veiled.trail, veiled.nextSession,
        by simp only [turnAway, entrants], veiled.seats, veiled.calls⟩
    rw [enlist_of_entrant entered, enlist_of_entrant there]
    exact (away.setSeat (.refl _)).record _

/-- A copy that is gone hides nothing. -/
theorem tighten (veiled : Veiled spy secret one two) (sound : one.Sound) :
    Veiled spy (fun session resource => secret session resource ∧
      (one.copy? session resource).isSome) one two := by
  refine ⟨veiled.store, veiled.locks, veiled.trail, veiled.nextSession, veiled.entrants, ?_, ?_⟩
  · intro session
    have seats := veiled.seats session
    cases seated : one.seats.get? session with
    | none =>
      rw [rel_of_none seats seated]
      exact .none
    | some seat =>
      obtain ⟨place, placed, like⟩ := rel_of_some seats seated
      rw [placed]
      refine .some ⟨like.line, like.listed, like.closed, like.id, like.user, ?_⟩
      intro resource
      have copies := like.copies resource
      cases copied : seat.session.copy? resource with
      | none =>
        rw [rel_of_none copies copied]
        exact .none
      | some book =>
        obtain ⟨other, there, books⟩ := rel_of_some copies copied
        rw [there]
        refine .some (books.mono fun hides => ⟨hides, ?_⟩)
        rw [copy?_of_seat seated, copied]
        rfl
  · intro id
    have calls := veiled.calls id
    cases found : one.calls.get? id with
    | none =>
      rw [rel_of_none calls found]
      exact .none
    | some call =>
      obtain ⟨session, request, phase⟩ := call
      obtain ⟨other, also, like⟩ := rel_of_some calls found
      rw [also]
      refine .some ⟨like.session, like.request, ?_⟩
      have present : ∀ resource edited,
          phase = .writing resource edited ∨ phase = .storing resource edited →
          (one.copy? session resource).isSome := by
        intro resource edited working
        rw [sound.copy_of_work found working]
        rfl
      have phases := like.phase
      generalize other.phase = reached at phases
      cases phases with
      | refl => exact .refl _
      | writing resource books =>
        exact .writing resource (books.mono fun hides => ⟨hides, present _ _ (.inl rfl)⟩)
      | storing resource books =>
        exact .storing resource (books.mono fun hides => ⟨hides, present _ _ (.inr rfl)⟩)

end Manager.Veiled

end RecordLocks
