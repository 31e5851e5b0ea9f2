import RecordLocks.Book
namespace RecordLocks

/-- A user and the private copies of the records that they have checked out. -/
structure Session where
  id : SessionId
  user : String
  copies : Index ResourceId Book
  deriving DecidableEq

namespace Session

def start (id : SessionId) (user : String) : Session := ⟨id, user, ∅⟩

def copy? (session : Session) (resource : ResourceId) : Option Book :=
  session.copies.get? resource

def isCheckedOut (session : Session) (resource : ResourceId) : Bool :=
  session.copies.contains resource

def notCheckedOut (session : Session) (resource : ResourceId) : AccessError :=
  .notCheckedOut session.id resource

/-- A copy that is already there is kept; the answer tells whether the book was taken. -/
def checkout (session : Session) (resource : ResourceId) (book : Book) : Bool × Session :=
  if session.isCheckedOut resource then (false, session)
  else (true, { session with copies := session.copies.insert resource book })

def release (session : Session) (resource : ResourceId) : Option Book × Session :=
  (session.copy? resource, { session with copies := session.copies.erase resource })

def edit (session : Session) (resource : ResourceId) (field : BookField) (value : String) :
    Except AccessError Book × Session :=
  match session.copy? resource with
  | none => (.error (session.notCheckedOut resource), session)
  | some book =>
    (.ok (book.set field value),
      { session with copies := session.copies.insert resource (book.set field value) })

def readField (session : Session) (resource : ResourceId) (field : BookField) :
    Except AccessError String :=
  match session.copy? resource with
  | none => .error (session.notCheckedOut resource)
  | some book => .ok (book.get field)

def checkedOut (session : Session) : List ResourceId := session.copies.keys

def clear (session : Session) : List ResourceId × Session :=
  (session.checkedOut, { session with copies := ∅ })

@[simp] theorem copy?_start (id : SessionId) (user : String) (resource : ResourceId) :
    (start id user).copy? resource = none := rfl

@[simp] theorem copy?_clear (session : Session) (resource : ResourceId) :
    session.clear.2.copy? resource = none := rfl

@[simp] theorem copy?_checkout (session : Session) (resource other : ResourceId) (book : Book) :
    (session.checkout resource book).2.copy? other =
      if resource = other then some ((session.copy? resource).getD book)
      else session.copy? other := by
  cases found : session.copies.get? resource with
  | none =>
    simp [checkout, isCheckedOut, Index.contains, copy?, found, Index.get?_insert]
  | some copy =>
    by_cases same : resource = other
    · subst same
      simp [checkout, isCheckedOut, Index.contains, copy?, found]
    · simp [checkout, isCheckedOut, Index.contains, copy?, found, same]

@[simp] theorem copy?_release (session : Session) (resource other : ResourceId) :
    (session.release resource).2.copy? other =
      if resource = other then none else session.copy? other :=
  Index.get?_erase session.copies resource other

theorem edit_of_copy {session : Session} {resource : ResourceId} {book : Book}
    (copied : session.copy? resource = some book) (field : BookField) (value : String) :
    session.edit resource field value =
      (.ok (book.set field value),
        { session with copies := session.copies.insert resource (book.set field value) }) := by
  simp [edit, copied]

theorem edit_of_none {session : Session} {resource : ResourceId}
    (missing : session.copy? resource = none) (field : BookField) (value : String) :
    session.edit resource field value = (.error (session.notCheckedOut resource), session) := by
  simp [edit, missing]

@[simp] theorem copy?_edit (session : Session) (resource other : ResourceId) (field : BookField)
    (value : String) :
    (session.edit resource field value).2.copy? other =
      if resource = other then (session.copy? resource).map (·.set field value)
      else session.copy? other := by
  cases copied : session.copy? resource with
  | none =>
    rw [edit_of_none copied]
    by_cases same : resource = other
    · subst same
      simp [copied]
    · simp [same]
  | some book =>
    rw [edit_of_copy copied]
    exact Index.get?_insert session.copies resource other _

@[simp] theorem id_checkout (session : Session) (resource : ResourceId) (book : Book) :
    (session.checkout resource book).2.id = session.id := by
  simp only [checkout]
  split <;> rfl

@[simp] theorem id_edit (session : Session) (resource : ResourceId) (field : BookField)
    (value : String) : (session.edit resource field value).2.id = session.id := by
  simp only [edit]
  split <;> rfl

@[simp] theorem user_checkout (session : Session) (resource : ResourceId) (book : Book) :
    (session.checkout resource book).2.user = session.user := by
  simp only [checkout]
  split <;> rfl

@[simp] theorem user_edit (session : Session) (resource : ResourceId) (field : BookField)
    (value : String) : (session.edit resource field value).2.user = session.user := by
  simp only [edit]
  split <;> rfl

theorem mem_checkedOut {session : Session} {resource : ResourceId} :
    resource ∈ session.checkedOut ↔ (session.copy? resource).isSome :=
  Index.mem_keys

end Session

end RecordLocks
