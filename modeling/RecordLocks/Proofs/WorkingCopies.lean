import Mathlib.Data.List.Induction
import RecordLocks.Session
namespace RecordLocks

/-- What a session is asked to do with its own copies. -/
inductive CopyCall where
  | checkout (resource : ResourceId) (book : Book)
  | release (resource : ResourceId)
  | edit (resource : ResourceId) (field : BookField) (value : String)
  | readField (resource : ResourceId) (field : BookField)
  | clear
  deriving DecidableEq, Repr

namespace CopyCall

variable (resource : ResourceId)

/-- The call gives up the copy of the resource. -/
def drops : CopyCall → Bool
  | release other => other = resource
  | clear => true
  | checkout _ _ | edit _ _ _ | readField _ _ => false

/-- The call is about the resource, or about all of them. -/
def concerns : CopyCall → Bool
  | checkout other _ | release other | edit other _ _ | readField other _ => other = resource
  | clear => true

/-- The book that the call offers as a copy of the resource. -/
def offer? : CopyCall → Option Book
  | checkout other book => if other = resource then some book else none
  | _ => none

/-- The change that the call makes to the copy of the resource. -/
def edit? : CopyCall → Option (BookField × String)
  | edit other field value => if other = resource then some (field, value) else none
  | _ => none

theorem offer?_eq_some {resource : ResourceId} {call : CopyCall} {book : Book} :
    call.offer? resource = some book ↔ call = .checkout resource book := by
  cases call with
  | checkout other taken =>
    by_cases same : other = resource
    · simp [offer?, same]
    · simp [offer?, same]
  | release | edit | readField | clear => simp [offer?]

theorem aside {resource : ResourceId} {call : CopyCall}
    (other : call.concerns resource = false) :
    call.drops resource = false ∧ call.offer? resource = none ∧ call.edit? resource = none := by
  cases call with
  | checkout | release | edit | readField =>
    have different := of_decide_eq_false other
    simp [drops, offer?, edit?, different]
  | clear => cases other

end CopyCall

/-- The resource was checked out, and since then neither it was given up nor all. -/
def CheckedOutIn (calls : List CopyCall) (resource : ResourceId) : Prop :=
  ∃ earlier book later, calls = earlier ++ .checkout resource book :: later ∧
    ∀ call ∈ later, call.drops resource = false

/-- The resource was checked out when it was not yet, and these calls have come since then. -/
def TakenFirst (calls : List CopyCall) (resource : ResourceId) (book : Book)
    (later : List CopyCall) : Prop :=
  ∃ earlier, calls = earlier ++ .checkout resource book :: later ∧
    ¬ CheckedOutIn earlier resource ∧ ∀ call ∈ later, call.drops resource = false

/-- The edits of a resource, in order. -/
def editsOf (resource : ResourceId) (calls : List CopyCall) : List (BookField × String) :=
  calls.filterMap (·.edit? resource)

/-- The fields of a book are set one after another. -/
def Book.setAll (book : Book) (edits : List (BookField × String)) : Book :=
  edits.foldl (fun book edit => book.set edit.1 edit.2) book

namespace Book

variable (book : Book) (edits : List (BookField × String))

theorem setAll_append (further : List (BookField × String)) :
    book.setAll (edits ++ further) = (book.setAll edits).setAll further :=
  List.foldl_append

@[simp] theorem id_setAll : (book.setAll edits).id = book.id := by
  induction edits generalizing book with
  | nil => rfl
  | cons edit edits ih => exact (ih (book.set edit.1 edit.2)).trans (book.id_set edit.1 edit.2)

/-- The last edit of a field counts. -/
theorem get_setAll (field : BookField) :
    (book.setAll edits).get field =
      ((edits.filter fun edit => edit.1 = field).getLast?.map (·.2)).getD (book.get field) := by
  induction edits using List.reverseRecOn with
  | nil => rfl
  | append_singleton edits edit ih =>
    rw [setAll_append, List.filter_append]
    show ((book.setAll edits).set edit.1 edit.2).get field = _
    by_cases same : edit.1 = field
    · simp [same]
    · simp [same, ih]

end Book

section Histories

variable {calls later : List CopyCall} {call : CopyCall} {resource : ResourceId} {book : Book}

theorem TakenFirst.checkedOut (taken : TakenFirst calls resource book later) :
    CheckedOutIn calls resource := by
  obtain ⟨earlier, split, -, kept⟩ := taken
  exact ⟨earlier, book, later, split, kept⟩

theorem TakenFirst.append_singleton (taken : TakenFirst calls resource book later)
    (keeps : call.drops resource = false) :
    TakenFirst (calls ++ [call]) resource book (later ++ [call]) := by
  obtain ⟨earlier, rfl, first, kept⟩ := taken
  refine ⟨earlier, by simp, first, ?_⟩
  exact List.forall_mem_append.mpr ⟨kept, by simpa using keeps⟩

end Histories

namespace Session

variable {session : Session} {calls later : List CopyCall} {resource : ResourceId}
  {book copy : Book} {id : SessionId} {user : String}

def handle (session : Session) : CopyCall → Session
  | .checkout resource book => (session.checkout resource book).2
  | .release resource => (session.release resource).2
  | .edit resource field value => (session.edit resource field value).2
  | .readField _ _ => session
  | .clear => session.clear.2

def handleAll (session : Session) (calls : List CopyCall) : Session := calls.foldl handle session

theorem handleAll_append (session : Session) (earlier later : List CopyCall) :
    session.handleAll (earlier ++ later) = (session.handleAll earlier).handleAll later :=
  List.foldl_append

theorem id_handleAll (session : Session) (calls : List CopyCall) :
    (session.handleAll calls).id = session.id := by
  induction calls generalizing session with
  | nil => rfl
  | cons call calls ih =>
    have same : (session.handle call).id = session.id := by
      cases call <;> simp [Session.handle, release, clear]
    exact (ih (session.handle call)).trans same

/-- A call gives a copy up, edits it, or offers a book where there is none. -/
theorem copy?_handle (session : Session) (call : CopyCall) (resource : ResourceId) :
    (session.handle call).copy? resource =
      if call.drops resource then none
      else ((session.copy? resource).map (·.setAll (call.edit? resource).toList)).or
        (call.offer? resource) := by
  have still : (session.copy? resource).map (·.setAll []) = session.copy? resource := by
    cases session.copy? resource <;> rfl
  cases call with
  | checkout other book =>
    by_cases same : other = resource
    · cases copied : session.copy? resource with
      | none => simp [Session.handle, CopyCall.drops, CopyCall.edit?, CopyCall.offer?, same, copied]
      | some copy =>
        simp [Session.handle, CopyCall.drops, CopyCall.edit?, CopyCall.offer?, same, copied,
          Book.setAll]
    · simp [Session.handle, CopyCall.drops, CopyCall.edit?, CopyCall.offer?, same, still]
  | release other =>
    by_cases same : other = resource <;>
      simp [Session.handle, CopyCall.drops, CopyCall.edit?, CopyCall.offer?, same, still]
  | edit other field value =>
    by_cases same : other = resource
    · simp [Session.handle, CopyCall.drops, CopyCall.edit?, CopyCall.offer?, same, Book.setAll]
    · simp [Session.handle, CopyCall.drops, CopyCall.edit?, CopyCall.offer?, same, still]
  | readField => simp [Session.handle, CopyCall.drops, CopyCall.edit?, CopyCall.offer?, still]
  | clear => simp [Session.handle, CopyCall.drops]

/-- A copy that is not given up shows all edits since. -/
theorem copy?_handleAll (copied : session.copy? resource = some copy)
    (kept : ∀ call ∈ later, call.drops resource = false) :
    (session.handleAll later).copy? resource = some (copy.setAll (editsOf resource later)) := by
  induction later generalizing session copy with
  | nil => exact copied
  | cons call later ih =>
    obtain ⟨keeps, kept⟩ := List.forall_mem_cons.mp kept
    have next : (session.handle call).copy? resource =
        some (copy.setAll (call.edit? resource).toList) := by
      simp [copy?_handle, keeps, copied]
    have edits : editsOf resource (call :: later) =
        (call.edit? resource).toList ++ editsOf resource later := by
      cases edit : call.edit? resource <;> simp [editsOf, edit]
    rw [edits, Book.setAll_append]
    exact ih next kept

theorem copy?_of_checkedOut (session : Session) (held : CheckedOutIn calls resource) :
    ((session.handleAll calls).copy? resource).isSome := by
  obtain ⟨earlier, book, later, rfl, kept⟩ := held
  have taken : ((session.handleAll earlier).handle (.checkout resource book)).copy? resource =
      some (((session.handleAll earlier).copy? resource).getD book) := by
    simp [handle]
  have shown := copy?_handleAll taken kept
  rw [handleAll_append]
  exact Option.isSome_iff_exists.mpr ⟨_, shown⟩

/-- The calls tell with which book the copy began. -/
theorem takenFirst_of_copy (copied : (((start id user).handleAll calls).copy? resource).isSome) :
    ∃ book later, TakenFirst calls resource book later := by
  induction calls using List.reverseRecOn with
  | nil => cases copied
  | append_singleton calls call ih =>
    rw [handleAll_append] at copied
    have copied : (((start id user).handleAll calls).handle call |>.copy? resource).isSome := copied
    rw [copy?_handle] at copied
    cases keeps : call.drops resource with
    | true => simp [keeps] at copied
    | false =>
      cases before : ((start id user).handleAll calls).copy? resource with
      | some copy =>
        obtain ⟨book, later, taken⟩ := ih (by simp [before])
        exact ⟨book, later ++ [call], taken.append_singleton keeps⟩
      | none =>
        simp only [keeps, before, Option.map_none, Option.none_or] at copied
        obtain ⟨book, offered⟩ := Option.isSome_iff_exists.mp copied
        obtain rfl := CopyCall.offer?_eq_some.mp offered
        refine ⟨book, [], calls, rfl, ?_, by simp⟩
        intro held
        have some_copy := copy?_of_checkedOut (start id user) held
        rw [before] at some_copy
        cases some_copy

theorem copy?_of_takenFirst (taken : TakenFirst calls resource book later) :
    ((start id user).handleAll calls).copy? resource =
      some (book.setAll (editsOf resource later)) := by
  obtain ⟨earlier, rfl, first, kept⟩ := taken
  have missing : ((start id user).handleAll earlier).copy? resource = none := by
    rw [← Option.not_isSome_iff_eq_none]
    intro copied
    obtain ⟨book, later, taken⟩ := takenFirst_of_copy copied
    exact first taken.checkedOut
  have begun : (((start id user).handleAll earlier).handle (.checkout resource book)).copy? resource =
      some book := by
    simp [handle, missing]
  have shown := copy?_handleAll begun kept
  rw [handleAll_append]
  exact shown

/-- Calls on other resources might as well not have been made. -/
theorem copy?_handleAll_filter (session : Session) (calls : List CopyCall) (resource : ResourceId) :
    (session.handleAll (calls.filter (·.concerns resource))).copy? resource =
      (session.handleAll calls).copy? resource := by
  induction calls using List.reverseRecOn with
  | nil => rfl
  | append_singleton calls call ih =>
    rw [List.filter_append, handleAll_append, handleAll_append]
    cases concerned : call.concerns resource with
    | true =>
      rw [List.filter_cons_of_pos concerned]
      show (handle _ call).copy? resource = (handle _ call).copy? resource
      rw [copy?_handle, copy?_handle, ih]
    | false =>
      obtain ⟨keeps, no_offer, no_edit⟩ := CopyCall.aside concerned
      have alike : ((session.handleAll calls).handle call).copy? resource =
          (session.handleAll calls).copy? resource := by
        simp [copy?_handle, keeps, no_offer, no_edit, Book.setAll]
      rw [List.filter_cons_of_neg (by simp [concerned])]
      exact ih.trans alike.symm

/-- The copies are those that the calls have come to. -/
structure FollowsHistory (session : Session) (calls : List CopyCall) : Prop where
  checkedOut : ∀ resource, session.isCheckedOut resource = true ↔ CheckedOutIn calls resource
  copy : ∀ resource copy, session.copy? resource = some copy ↔
    ∃ book later, TakenFirst calls resource book later ∧
      copy = book.setAll (editsOf resource later)
  id : ∀ resource book later, TakenFirst calls resource book later →
    (session.copy? resource).map Book.id = some book.id
  field : ∀ resource book later, TakenFirst calls resource book later → ∀ field,
    (session.copy? resource).map (·.get field) =
      some ((((editsOf resource later).filter fun edit => edit.1 = field).getLast?.map (·.2)).getD
        (book.get field))

/-- What a session answers is what its copies say. -/
structure AnswersByCopies (session : Session) (id : SessionId) : Prop where
  checkout : ∀ resource book, (session.checkout resource book).1 = !session.isCheckedOut resource
  again : ∀ resource book, session.isCheckedOut resource = true →
    (session.checkout resource book).2 = session
  edit : ∀ resource field value error,
    (session.edit resource field value).1 = .error error ↔
      session.isCheckedOut resource = false ∧ error = .notCheckedOut id resource
  unedited : ∀ resource field value, session.isCheckedOut resource = false →
    (session.edit resource field value).2 = session
  readField : ∀ resource field error,
    session.readField resource field = .error error ↔
      session.isCheckedOut resource = false ∧ error = .notCheckedOut id resource
  shown : ∀ resource copy, session.copy? resource = some copy →
    (∀ field value, (session.edit resource field value).1 = .ok (copy.set field value)) ∧
      ∀ field, session.readField resource field = .ok (copy.get field)
  release : ∀ resource, (session.release resource).1 = session.copy? resource
  listed : ∀ resource, resource ∈ session.checkedOut ↔ session.isCheckedOut resource = true
  ascending : session.checkedOut.Pairwise (· < ·)
  clear : session.clear.1 = session.checkedOut ∧ session.clear.2.checkedOut = []

theorem followsHistory (id : SessionId) (user : String) (calls : List CopyCall) :
    FollowsHistory ((start id user).handleAll calls) calls := by
  refine ⟨?_, ?_, ?_, ?_⟩
  · intro resource
    constructor
    · intro copied
      obtain ⟨book, later, taken⟩ := takenFirst_of_copy copied
      exact taken.checkedOut
    · exact copy?_of_checkedOut _
  · intro resource copy
    constructor
    · intro copied
      obtain ⟨book, later, taken⟩ := takenFirst_of_copy (Option.isSome_of_eq_some copied)
      rw [copy?_of_takenFirst taken] at copied
      exact ⟨book, later, taken, (Option.some.inj copied).symm⟩
    · rintro ⟨book, later, taken, rfl⟩
      exact copy?_of_takenFirst taken
  · intro resource book later taken
    rw [copy?_of_takenFirst taken, Option.map_some, Book.id_setAll]
  · intro resource book later taken field
    rw [copy?_of_takenFirst taken, Option.map_some, Book.get_setAll]

theorem answersByCopies (session : Session) : AnswersByCopies session session.id := by
  have missing : ∀ {resource}, session.isCheckedOut resource = false ↔
      session.copy? resource = none := Option.isSome_eq_false_iff.trans Option.isNone_iff_eq_none
  refine ⟨?_, ?_, ?_, ?_, ?_, ?_, fun _ => rfl, ?_, session.copies.keys_ascending, rfl, rfl⟩
  · intro resource book
    cases held : session.isCheckedOut resource <;> simp [checkout, held]
  · intro resource book held
    rw [checkout, if_pos held]
  · intro resource field value error
    rw [missing]
    cases copied : session.copy? resource with
    | none => simp [edit_of_none copied, notCheckedOut, eq_comm]
    | some copy => simp [edit_of_copy copied]
  · intro resource field value absent
    rw [edit_of_none (missing.mp absent)]
  · intro resource field error
    rw [missing, readField]
    cases session.copy? resource <;> simp [notCheckedOut, eq_comm]
  · intro resource copy copied
    exact ⟨fun field value => by rw [edit_of_copy copied], fun field => by rw [readField, copied]⟩
  · exact fun resource => mem_checkedOut

/-- Whatever a session is asked to do with its copies, they are told by what it was asked: a record
is checked out if it was so once and has not been given up since, its copy began with the first
book that was offered then, all edits since were made to it in order, and calls on other records
make no difference. What the session answers it answers by these copies. -/
theorem working_copies_follow_history (id : SessionId) (user : String) (calls : List CopyCall) :
    let session := (start id user).handleAll calls
    session.FollowsHistory calls ∧ session.AnswersByCopies id ∧
      ∀ resource, session.copy? resource =
        ((start id user).handleAll (calls.filter (·.concerns resource))).copy? resource := by
  intro session
  have same : session.id = id := id_handleAll (start id user) calls
  refine ⟨followsHistory id user calls, ?_, ?_⟩
  · rw [← same]
    exact session.answersByCopies
  · exact fun resource => (copy?_handleAll_filter (start id user) calls resource).symm

/-- An edit outlives a second checkout but not a release. -/
example :
    let edited := (start ⟨0⟩ "ann").handleAll [.checkout 1 (.titled 1 "old"),
      .edit 1 .author "ann", .checkout 1 (.titled 1 "new"), .release 2]
    edited.copy? 1 = some ⟨1, "old", "ann"⟩ ∧
      (edited.handleAll [.release 1, .checkout 1 (.titled 1 "new")]).copy? 1 =
        some ⟨1, "new", ""⟩ := by
  decide

end Session

end RecordLocks
