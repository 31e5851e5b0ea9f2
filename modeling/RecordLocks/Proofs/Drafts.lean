import RecordLocks.Proofs.Reachable
namespace RecordLocks

/-- A working copy as the book that it was loaded from and the edits made on it since. -/
structure Draft where
  source : Book
  edits : List (BookField × String)
  deriving DecidableEq, Repr

namespace Draft

def loaded (source : Book) : Draft := ⟨source, []⟩

def revise (draft : Draft) (field : BookField) (value : String) : Draft :=
  { draft with edits := draft.edits ++ [(field, value)] }

def book (draft : Draft) : Book :=
  draft.edits.foldl (fun book edit => book.set edit.1 edit.2) draft.source

@[simp] theorem book_loaded (source : Book) : (loaded source).book = source := rfl

@[simp] theorem book_revise (draft : Draft) (field : BookField) (value : String) :
    (draft.revise field value).book = draft.book.set field value := by
  simp [revise, book]

@[simp] theorem source_revise (draft : Draft) (field : BookField) (value : String) :
    (draft.revise field value).source = draft.source := rfl

@[simp] theorem id_book (draft : Draft) : draft.book.id = draft.source.id := by
  obtain ⟨source, edits⟩ := draft
  simp only [book]
  induction edits generalizing source with
  | nil => rfl
  | cons edit rest ih => rw [List.foldl_cons, ih, Book.id_set]

end Draft

/-- The resource whose copy a request puts into the store when it succeeds. -/
def Request.stores? : Request → Option ResourceId
  | .write resource _ _ | .commit resource => some resource
  | _ => none

/-- What happens to working copies. A load that finds the record checked out leaves the copy as
it is. -/
inductive Event where
  | loaded (id : CallId) (session : SessionId) (resource : ResourceId) (book : Book)
  | reused (id : CallId)
  | edited (session : SessionId) (resource : ResourceId) (field : BookField) (value : String)
  | committed (session : SessionId) (resource : ResourceId)
  deriving DecidableEq, Repr

def Event.ofLoad (id : CallId) (session : SessionId) (resource : ResourceId)
    (copy? : Option Book) (book : Book) : Event :=
  match copy? with
  | none => .loaded id session resource book
  | some _ => .reused id

/-- What comes of a call once its record has been loaded. -/
def Call.loadEvents (call : Call) (load : Event) : List Event :=
  match call.request with
  | .write resource field value => [load, .edited call.session resource field value]
  | _ => [load]

/-- What comes of a call when it ends. -/
def Call.endEvents (call : Call) : Option Outcome → List Event
  | some (.ok _) =>
    match call.request with
    | .edit resource field value => [.edited call.session resource field value]
    | request => request.stores?.toList.map (.committed call.session ·)
  | _ => []

namespace Manager

/-- What resuming a call does to working copies, in the order in which it happens. -/
def callEvents (manager : Manager) (id : CallId) (call : Call) (outcome : Option Outcome) :
    List Event :=
  match call.phase with
  | .loading resource =>
    match manager.store.books.get? resource with
    | none => []
    | some book =>
      call.loadEvents (.ofLoad id call.session resource (manager.copy? call.session resource) book)
  | _ => call.endEvents outcome

def events (manager : Manager) : Act → List Event
  | .resume id =>
    match manager.calls.get? id with
    | none => []
    | some call => manager.callEvents id call (manager.resume id).1
  | _ => []

def history : Manager → List Act → List Event
  | _, [] => []
  | manager, act :: rest => manager.events act ++ (manager.step act).history rest

theorem history_append (manager : Manager) (first second : List Act) :
    manager.history (first ++ second) =
      manager.history first ++ (manager.run first).history second := by
  induction first generalizing manager with
  | nil => rfl
  | cons act rest ih =>
    rw [List.cons_append, history, history, ih, List.append_assoc]
    rfl

end Manager

/-- What a history tells: the last draft of each session for each record, the drafts that were
put into the store in the place of each record, and the calls that loaded their copy themselves. -/
structure Ledger where
  drafts : SessionId → ResourceId → Option Draft
  commits : ResourceId → List Draft
  fresh : CallId → Bool

namespace Ledger

def blank : Ledger := ⟨fun _ _ => none, fun _ => [], fun _ => false⟩

def note (ledger : Ledger) : Event → Ledger
  | .loaded id session resource book =>
    { ledger with
      drafts := fun other asked =>
        if session = other ∧ resource = asked then some (.loaded book)
        else ledger.drafts other asked
      fresh := fun other => if id = other then true else ledger.fresh other }
  | .reused id =>
    { ledger with fresh := fun other => if id = other then false else ledger.fresh other }
  | .edited session resource field value =>
    { ledger with
      drafts := fun other asked =>
        if session = other ∧ resource = asked then
          (ledger.drafts other asked).map (·.revise field value)
        else ledger.drafts other asked }
  | .committed session resource =>
    { ledger with
      commits := fun asked =>
        if resource = asked then ledger.commits asked ++ (ledger.drafts session asked).toList
        else ledger.commits asked }

variable (ledger : Ledger) (id : CallId) (session : SessionId) (resource : ResourceId)
  (copy? : Option Book) (book : Book)

theorem drafts_edit (field : BookField) (value : String) :
    (ledger.note (.edited session resource field value)).drafts session resource =
      (ledger.drafts session resource).map (·.revise field value) := by
  simp [note]

theorem drafts_edit_other {other : SessionId} {asked : ResourceId} (field : BookField)
    (value : String) (apart : ¬ (session = other ∧ resource = asked)) :
    (ledger.note (.edited session resource field value)).drafts other asked =
      ledger.drafts other asked := by
  simp [note, apart]

theorem drafts_load_other {other : SessionId} {asked : ResourceId}
    (apart : ¬ (session = other ∧ resource = asked)) :
    (ledger.note (.ofLoad id session resource copy? book)).drafts other asked =
      ledger.drafts other asked := by
  cases copy? with
  | none => simp [Event.ofLoad, note, apart]
  | some copy => rfl

@[simp] theorem commits_load :
    (ledger.note (.ofLoad id session resource copy? book)).commits = ledger.commits := by
  cases copy? <;> rfl

theorem fresh_load_other {other : CallId} (apart : other ≠ id) :
    (ledger.note (.ofLoad id session resource copy? book)).fresh other = ledger.fresh other := by
  cases copy? <;> simp [Event.ofLoad, note, apart.symm]

def after (ledger : Ledger) (events : List Event) : Ledger := events.foldl note ledger

end Ledger

def Manager.ledger (manager : Manager) (acts : List Act) : Ledger :=
  Ledger.blank.after (manager.history acts)

theorem Manager.ledger_append_singleton (manager : Manager) (acts : List Act) (act : Act) :
    manager.ledger (acts ++ [act]) =
      (manager.ledger acts).after ((manager.run acts).events act) := by
  simp [ledger, history_append, history, Ledger.after]

/-- Each draft was loaded from the version that stood just before it was put into the store. -/
def Lineage (first : Option Book) : List Draft → Option Book → Prop
  | [], last => first = last
  | draft :: rest, last => first = some draft.source ∧ Lineage (some draft.book) rest last

theorem Lineage.snoc {first : Option Book} {drafts : List Draft} {draft : Draft}
    (lineage : Lineage first drafts (some draft.source)) :
    Lineage first (drafts ++ [draft]) (some draft.book) := by
  induction drafts generalizing first with
  | nil => exact ⟨lineage, rfl⟩
  | cons earlier rest ih => exact ⟨lineage.1, ih lineage.2⟩

end RecordLocks
