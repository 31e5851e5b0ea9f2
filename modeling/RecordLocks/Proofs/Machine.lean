import RecordLocks.Manager.Timeline
namespace RecordLocks

/-- The manager as its callers see it when they take turns: the records, the sessions with their
users, how many sessions there have been, and who works on which record with which copy. -/
structure Machine where
  records : Index ResourceId Book
  live : Index SessionId String
  next : Nat
  drafts : Index ResourceId (SessionId × Book)

namespace Machine

def start (records : Index ResourceId Book) : Machine := ⟨records, ∅, 0, ∅⟩

variable (machine : Machine)

def drop (resource : ResourceId) : Machine :=
  { machine with drafts := machine.drafts.erase resource }

def clear (session : SessionId) : Machine :=
  { machine with drafts := machine.drafts.filter fun _ draft => draft.1 ≠ session }

def keep (session : SessionId) (resource : ResourceId) (book : Book) : Machine :=
  { machine with drafts := machine.drafts.insert resource (session, book) }

def store (resource : ResourceId) (book : Book) : Machine :=
  { machine with records := machine.records.insert resource book }

/-- The draft that a session itself has of a record. -/
def own? (session : SessionId) (resource : ResourceId) : Option Book :=
  (machine.drafts.get? resource).bind fun draft =>
    if draft.1 = session then some draft.2 else none

def held (session : SessionId) : List ResourceId :=
  (machine.drafts.filter fun _ draft => draft.1 = session).keys

/-- What a request does with the copy that it works on. -/
def work (session : SessionId) (resource : ResourceId) (copy : Book) :
    Request → Outcome × Machine
  | .write _ field value =>
    (.ok (.book (copy.set field value)),
      (machine.store resource (copy.set field value)).drop resource)
  | .read _ field => (.ok (.text (copy.get field)), machine.drop resource)
  | _ => (.ok (.book copy), machine.keep session resource copy)

/-- The copy is the session's own draft, or else the stored book. -/
def load (session : SessionId) (resource : ResourceId) (request : Request) :
    Outcome × Machine :=
  match machine.records.get? resource with
  | none => (.error (.recordNotFound resource), machine.drop resource)
  | some book =>
    machine.work session resource ((machine.own? session resource).getD book) request

/-- Only a record that no other session has a draft of is loaded. -/
def lock (session : SessionId) (resource : ResourceId) (request : Request) :
    Outcome × Machine :=
  match machine.drafts.get? resource with
  | none => machine.load session resource request
  | some (holder, _) =>
    if holder = session then machine.load session resource request
    else (.error (.lockConflict resource holder), machine)

/-- A draft goes to the store and is given up. -/
def commit (resource : ResourceId) (book : Book) : Outcome × Machine :=
  if machine.records.contains resource then
    (.ok (.book book), (machine.store resource book).drop resource)
  else (.error (.recordNotFound resource), machine.drop resource)

def serve (session : SessionId) : Request → Outcome × Machine
  | .write resource field value => machine.lock session resource (.write resource field value)
  | .read resource field => machine.lock session resource (.read resource field)
  | .checkout resource => machine.lock session resource (.checkout resource)
  | .edit resource field value =>
    match machine.own? session resource with
    | none => (.error (.notCheckedOut session resource), machine)
    | some copy =>
      (.ok (.book (copy.set field value)), machine.keep session resource (copy.set field value))
  | .commit resource =>
    match machine.own? session resource with
    | none => (.error (.notCheckedOut session resource), machine)
    | some copy => machine.commit resource copy
  | .discard resource =>
    match machine.own? session resource with
    | none => (.ok (.flag false), machine)
    | some _ => (.ok (.flag true), machine.drop resource)
  | .locksHeld => (.ok (.resources (machine.held session)), machine)
  | .removeSession =>
    (.ok (.resources (machine.held session)),
      { machine.clear session with live := machine.live.erase session })

def request (session : SessionId) (request : Request) : Outcome × Machine :=
  if machine.live.contains session then machine.serve session request
  else (.error (.sessionNotFound session), machine)

def newSession (user : String) : SessionId × Machine :=
  let id : SessionId := ⟨UInt64.ofNat machine.next⟩
  (id, { machine with live := machine.live.insert id user, next := machine.next + 1 })

def lockStatus (resource : ResourceId) (session : SessionId) : LockStatus :=
  match machine.drafts.get? resource with
  | none => .available
  | some (holder, _) => if holder = session then .heldBySelf else .heldByOther

def sessions : List (SessionId × String × List ResourceId) :=
  machine.live.toList.map fun (id, user) => (id, user, machine.held id)

def add (book : Book) : Except AccessError Unit × Machine :=
  if machine.records.contains book.id then (.error (.duplicateRecord book.id), machine)
  else (.ok (), machine.store book.id book)

def update (book : Book) : Except AccessError Unit × Machine :=
  if machine.records.contains book.id then (.ok (), machine.store book.id book)
  else (.error (.recordNotFound book.id), machine)

def errand : Errand → Outcome × Machine
  | .get id =>
    match machine.records.get? id with
    | none => (.error (.recordNotFound id), machine)
    | some book => (.ok (.book book), machine)
  | .update book => ((machine.update book).1.map fun _ => .done, (machine.update book).2)

def remove (id : ResourceId) : Bool × Machine :=
  (machine.records.contains id, { machine with records := machine.records.erase id })

@[simp] theorem drop_keep (session : SessionId) (resource : ResourceId) (book : Book) :
    (machine.keep session resource book).drop resource = machine.drop resource := by
  simp [keep, drop]

@[simp] theorem store_keep (session : SessionId) (resource : ResourceId) (book stored : Book) :
    (machine.keep session resource book).store resource stored =
      (machine.store resource stored).keep session resource book := rfl

@[simp] theorem own?_keep (session : SessionId) (resource : ResourceId) (book : Book) :
    (machine.keep session resource book).own? session resource = some book := by
  simp [keep, own?, Index.get?_insert]

theorem load_of_get {machine : Machine} {resource : ResourceId} {book : Book}
    (stored : machine.records.get? resource = some book) (session : SessionId)
    (request : Request) :
    machine.load session resource request =
      machine.work session resource ((machine.own? session resource).getD book) request := by
  simp [load, stored]

theorem commit_of_get {machine : Machine} {resource : ResourceId} {book : Book}
    (stored : machine.records.get? resource = some book) (edited : Book) :
    machine.commit resource edited =
      (.ok (.book edited), (machine.store resource edited).drop resource) := by
  simp [commit, Index.contains, stored]

theorem mem_held {machine : Machine} {session : SessionId} {resource : ResourceId} :
    resource ∈ machine.held session ↔ (machine.own? session resource).isSome := by
  rw [held, Index.mem_keys, Index.contains, Index.get?_filter, own?]
  cases machine.drafts.get? resource with
  | none => simp
  | some draft => by_cases own : draft.1 = session <;> simp [own, Option.filter]

theorem lock_of_other {machine : Machine} {session holder : SessionId} {resource : ResourceId}
    {copy : Book} (drafted : machine.drafts.get? resource = some (holder, copy))
    (other : holder ≠ session) (request : Request) :
    machine.lock session resource request =
      (.error (.lockConflict resource holder), machine) := by
  simp [lock, drafted, other]

theorem lock_of_free {machine : Machine} {session : SessionId} {resource : ResourceId}
    (free : ∀ holder copy, machine.drafts.get? resource = some (holder, copy) →
      holder = session) (request : Request) :
    machine.lock session resource request = machine.load session resource request := by
  cases drafted : machine.drafts.get? resource with
  | none => simp [lock, drafted]
  | some draft =>
    obtain ⟨holder, copy⟩ := draft
    simp [lock, drafted, free holder copy drafted]

theorem next_load (session : SessionId) (resource : ResourceId) (request : Request) :
    (machine.load session resource request).2.next = machine.next := by
  simp only [load]
  split
  · rfl
  · cases request <;> rfl

theorem next_lock (session : SessionId) (resource : ResourceId) (request : Request) :
    (machine.lock session resource request).2.next = machine.next := by
  simp only [lock]
  split
  · exact machine.next_load session resource request
  · split
    · exact machine.next_load session resource request
    · rfl

theorem next_serve (session : SessionId) (request : Request) :
    (machine.serve session request).2.next = machine.next := by
  cases request with
  | write | read | checkout => exact machine.next_lock _ _ _
  | edit | discard =>
    simp only [serve]
    split <;> rfl
  | commit resource =>
    simp only [serve, commit]
    split
    · rfl
    · split <;> rfl
  | locksHeld | removeSession => rfl

/-- Requests open no sessions. -/
theorem next_request (session : SessionId) (request : Request) :
    (machine.request session request).2.next = machine.next := by
  rw [Machine.request]
  split
  · exact machine.next_serve session request
  · rfl

theorem next_errand (errand : Errand) : (machine.errand errand).2.next = machine.next := by
  cases errand with
  | get id =>
    simp only [Machine.errand]
    split <;> rfl
  | update book =>
    simp only [Machine.errand, update]
    split <;> rfl

/-- What is left to do for a request that has come this far. -/
def proceed (session : SessionId) (request : Request) : Phase → Outcome × Machine
  | .arriving | .waiting => machine.serve session request
  | .loading resource => machine.load session resource request
  | .writing resource edited | .storing resource edited => machine.commit resource edited
  | .reading resource field =>
    (match machine.own? session resource with
      | none => .error (.notCheckedOut session resource)
      | some copy => .ok (.text (copy.get field)), machine.drop resource)

end Machine

/-- What callers do one after another: requests to the manager and direct accesses to the store. -/
inductive Turn where
  | newSession (user : String)
  | request (session : SessionId) (request : Request)
  | lockStatus (resource : ResourceId) (session : SessionId)
  | sessionCount
  | sessions
  | errand (errand : Errand)
  | add (book : Book)
  | remove (id : ResourceId)
  deriving DecidableEq, Repr

namespace Turn

def isOpening : Turn → Bool
  | newSession _ => true
  | _ => false

def openings (turns : List Turn) : Nat := turns.countP isOpening

theorem openings_cons (turn : Turn) (rest : List Turn) :
    openings (turn :: rest) = openings [turn] + openings rest := by
  rw [openings, ← List.singleton_append, List.countP_append]
  rfl

end Turn

inductive Answer where
  | session (id : SessionId)
  | outcome (outcome : Outcome)
  | status (status : LockStatus)
  | count (count : Nat)
  | sessions (sessions : List (SessionId × String × List ResourceId))
  | unanswered

/-- The answers to turns that are taken one after another, and what comes of them. -/
def takeAll {σ : Type} (take : σ → Turn → Answer × σ) (state : σ) :
    List Turn → List Answer × σ
  | [] => ([], state)
  | turn :: rest =>
    let (answer, after) := take state turn
    let (answers, last) := takeAll take after rest
    (answer :: answers, last)

def Machine.take (machine : Machine) : Turn → Answer × Machine
  | .newSession user => (.session (machine.newSession user).1, (machine.newSession user).2)
  | .request session request =>
    (.outcome (machine.request session request).1, (machine.request session request).2)
  | .lockStatus resource session => (.status (machine.lockStatus resource session), machine)
  | .sessionCount => (.count machine.live.size, machine)
  | .sessions => (.sessions machine.sessions, machine)
  | .errand errand => (.outcome (machine.errand errand).1, (machine.errand errand).2)
  | .add book => (.outcome ((machine.add book).1.map fun _ => .done), (machine.add book).2)
  | .remove id => (.outcome (.ok (.flag (machine.remove id).1)), (machine.remove id).2)

end RecordLocks
