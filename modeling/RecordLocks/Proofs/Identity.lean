import RecordLocks.Proofs.Reachable
namespace RecordLocks

/-- A store keeps each book under the book's own id. -/
def RecordStore.Identified (store : RecordStore) : Prop :=
  ∀ resource book, store.books.get? resource = some book → book.id = resource

namespace RecordStore

variable {store : RecordStore}

theorem Identified.put (identified : store.Identified) (book : Book) :
    (store.put book).Identified := by
  intro resource other found
  rw [get?_put] at found
  split at found
  · rename_i same
    rw [← Option.some.inj found]
    exact same
  · exact identified resource other found

theorem Identified.after (identified : store.Identified) (act : StoreAct) :
    (store.after act).Identified := by
  cases act with
  | add book =>
    simp only [RecordStore.after, add]
    split
    · exact identified
    · exact identified.put book
  | update book =>
    simp only [RecordStore.after, update]
    split
    · exact identified.put book
    · exact identified
  | remove id =>
    intro resource book found
    apply identified resource book
    simp only [RecordStore.after, remove, Index.get?_erase] at found
    split at found
    · cases found
    · exact found

end RecordStore

namespace Manager

variable {manager after : Manager} {id : CallId} {session other : SessionId} {request : Request}
  {phase : Phase} {seat : Seat} {asked : ResourceId} {book : Book}

theorem copy?_of_seat (seated : manager.seats.get? session = some seat) :
    manager.copy? session asked = seat.session.copy? asked := by
  simp [copy?, seated]

/-- A working copy comes from the copy before it or from the stored record, and keeps its id. -/
theorem Advance.copy_source {outcome : Option Outcome}
    (advanced : Advance manager id session seat request phase outcome after)
    (seated : manager.seats.get? session = some seat)
    (copied : after.copy? other asked = some book) :
    ∃ source, book.id = source.id ∧
      (manager.copy? other asked = some source ∨
        manager.store.books.get? asked = some source) := by
  have own : ∀ resource, seat.session.copy? resource = manager.copy? session resource :=
    fun resource => (copy?_of_seat seated).symm
  -- Most steps leave the copy or drop it; an edit and a load make a new one of an old book.
  have kept : manager.copy? other asked = some book → ∃ source, book.id = source.id ∧
      (manager.copy? other asked = some source ∨
        manager.store.books.get? asked = some source) :=
    fun before => ⟨book, rfl, .inl before⟩
  have loaded : ∀ resource stored, manager.store.books.get? resource = some stored →
      session = other ∧ resource = asked →
      ∃ source, ((manager.copy? session resource).getD stored).id = source.id ∧
        (manager.copy? other asked = some source ∨
          manager.store.books.get? asked = some source) := by
    rintro resource stored found ⟨rfl, rfl⟩
    cases before : manager.copy? session resource with
    | none => exact ⟨stored, rfl, .inr found⟩
    | some copy => exact ⟨copy, rfl, .inl rfl⟩
  cases advanced with
  | behind => exact kept copied
  | queued =>
    simp only [copy?_setCall, copy?_setSeat, own] at copied
    split at copied
    · rename_i same
      exact kept (same ▸ copied)
    · exact kept copied
  | removed =>
    simp only [copy?_forget, copy?_record, copy?_releaseAll, copy?_setSeat,
      Session.copy?_clear] at copied
    split at copied
    · cases copied
    · exact kept copied
  | shut | notCheckedOut | told | contended | opened | committing | worked =>
    apply kept
    simpa using copied
  | discarded | nothingDiscarded | vanished | readDone | refused =>
    simp only [copy?_forget, copy?_record, copy?_closeWindow] at copied
    split at copied
    · cases copied
    · exact kept copied
  | stored =>
    simp only [copy?_forget, copy?_closeWindow, copy?_record] at copied
    split at copied
    · cases copied
    · exact kept copied
  | @edited resource old field value head live present =>
    rw [copy?_forget] at copied
    by_cases here : session = other ∧ resource = asked
    · obtain ⟨rfl, rfl⟩ := here
      simp only [copy?_setSession, Session.copy?_edit, if_true, present, Option.map_some,
        Option.some.injEq] at copied
      refine ⟨old, ?_, .inl (by rw [← own, present])⟩
      rw [← copied, Book.id_set]
    · rw [copy?_edit_other seated here] at copied
      exact kept copied
  | @loadedToWrite resource stored field value found =>
    rw [copy?_setCall] at copied
    by_cases here : session = other ∧ resource = asked
    · obtain ⟨source, same, from_⟩ := loaded resource stored found here
      refine ⟨source, ?_, from_⟩
      obtain ⟨rfl, rfl⟩ := here
      simp only [copy?_setSession, Session.copy?_edit, Session.copy?_checkout, if_true,
        Option.map_some, Option.some.injEq, own] at copied
      rw [← copied, Book.id_set, same]
    · rw [copy?_write_other seated here] at copied
      exact kept copied
  | @loadedToRead resource field stored found =>
    rw [copy?_setCall] at copied
    by_cases here : session = other ∧ resource = asked
    · obtain ⟨source, same, from_⟩ := loaded resource stored found here
      refine ⟨source, ?_, from_⟩
      obtain ⟨rfl, rfl⟩ := here
      simp only [copy?_setSession, Session.copy?_checkout, if_true, Option.some.injEq,
        own] at copied
      rw [← copied, same]
    · rw [copy?_checkout_other seated here] at copied
      exact kept copied
  | @checkedOut resource stored found =>
    rw [copy?_forget] at copied
    by_cases here : session = other ∧ resource = asked
    · obtain ⟨source, same, from_⟩ := loaded resource stored found here
      refine ⟨source, ?_, from_⟩
      obtain ⟨rfl, rfl⟩ := here
      simp only [copy?_setSession, Session.copy?_checkout, if_true, Option.some.injEq,
        own] at copied
      rw [← copied, same]
    · rw [copy?_checkout_other seated here] at copied
      exact kept copied

theorem copy?_issue (manager : Manager) (id : CallId) (session other : SessionId)
    (request : Request) (asked : ResourceId) :
    (manager.issue id session request).2.copy? other asked = manager.copy? other asked := by
  rcases issue_cases manager id session request with same | ⟨seat, -, seated, -, issued⟩
  · rw [same]
  · rw [issued, copy?_setCall, copy?_setSeat]
    split
    · rename_i same
      exact same ▸ (copy?_of_seat seated).symm
    · rfl

theorem copy?_of_cancel (copied : (manager.cancel id).copy? other asked = some book) :
    manager.copy? other asked = some book := by
  cases found : manager.calls.get? id with
  | none =>
    rw [cancel_of_none found] at copied
    exact copied
  | some call =>
    cases opened : call.phase.window? with
    | none =>
      rw [cancel_of_outside found opened, copy?_forget] at copied
      exact copied
    | some resource =>
      rw [cancel_of_window found opened, copy?_forget, copy?_closeWindow] at copied
      split at copied
      · cases copied
      · exact copied

theorem copy?_of_enlist (copied : (manager.enlist session).copy? other asked = some book) :
    manager.copy? other asked = some book := by
  cases entered : manager.entrants.get? session with
  | none =>
    rw [enlist, entered] at copied
    exact copied
  | some user =>
    rw [enlist_of_entrant entered, copy?_record, copy?_setSeat] at copied
    split at copied
    · cases copied
    · exact copied

/-- Books are stored and copied under their own ids. -/
structure Identified (manager : Manager) : Prop where
  stored : manager.store.Identified
  copied : ∀ session resource book, manager.copy? session resource = some book →
    book.id = resource

/-- A call that is to store a book works on the copy of its session. -/
theorem Sound.copy_of_work (sound : manager.Sound) {resource : ResourceId} {edited : Book}
    (found : manager.calls.get? id = some ⟨session, request, phase⟩)
    (working : phase = .writing resource edited ∨ phase = .storing resource edited) :
    manager.copy? session resource = some edited := by
  obtain ⟨seat, seated⟩ := sound.seated id _ found
  have here := sound.seats session seat seated
  rw [copy?_of_seat seated]
  rcases working with rfl | rfl
  · have head := here.line.head_of_phase found rfl (by simp) (by simp)
    exact (here.tally_served head found).2
  · have head := here.line.head_of_phase found rfl (by simp) (by simp)
    exact (here.tally_served head found).2

namespace Identified

theorem of_fewer (identified : manager.Identified) (store : after.store = manager.store)
    (copies : ∀ session resource book, after.copy? session resource = some book →
      manager.copy? session resource = some book) : after.Identified := by
  constructor
  · rw [store]
    exact identified.stored
  · intro session resource book copied
    exact identified.copied session resource book (copies session resource book copied)

theorem resume (identified : manager.Identified) (sound : manager.Sound)
    (found : manager.calls.get? id = some ⟨session, request, phase⟩) :
    (manager.resume id).2.Identified := by
  obtain ⟨seat, seated⟩ := sound.seated id _ found
  have advanced := resume_advance sound found seated
  constructor
  · rcases advanced.store_cases with same | ⟨resource, edited, -, -, put⟩
    · rw [same]
      exact identified.stored
    · rw [put]
      exact identified.stored.put edited
  · intro other asked book copied
    obtain ⟨source, same, before | stored⟩ := advanced.copy_source seated copied
    · exact same.trans (identified.copied other asked source before)
    · exact same.trans (identified.stored asked source stored)

/-- A call stores the book that its session has copied. -/
theorem id_storing (identified : manager.Identified) (sound : manager.Sound)
    {resource : ResourceId} {edited : Book}
    (found : manager.calls.get? id = some ⟨session, request, .storing resource edited⟩) :
    edited.id = resource :=
  identified.copied session resource edited (sound.copy_of_work found (.inr rfl))

theorem step (identified : manager.Identified) (sound : manager.Sound) (act : Act) :
    (manager.step act).Identified := by
  cases act with
  | enter user | turnAway session =>
    exact identified.of_fewer rfl fun _ _ _ copied => copied
  | enlist session =>
    apply identified.of_fewer
    · exact store_enlist manager session
    · intro other asked book copied
      exact copy?_of_enlist copied
  | issue id session request =>
    apply identified.of_fewer
    · exact store_issue manager id session request
    · intro other asked book copied
      rw [← copy?_issue manager id session other request asked]
      exact copied
  | resume id =>
    cases found : manager.calls.get? id with
    | none =>
      rw [Manager.step, resume_of_none found]
      exact identified
    | some call => exact identified.resume sound found
  | cancel id =>
    apply identified.of_fewer
    · exact store_cancel manager id
    · intro other asked book copied
      exact copy?_of_cancel copied
  | store act => exact ⟨identified.stored.after act, identified.copied⟩

end Identified

theorem identified_start (books : List Book) : (start (.ofBooks books)).Identified := by
  constructor
  · intro resource book found
    exact RecordStore.id_ofBooks books found
  · intro session resource book copied
    cases copied

theorem identified_run (books : List Book) (acts : List Act) (few : Act.openings acts ≤ 2 ^ 64) :
    ((start (.ofBooks books)).run acts).Identified := by
  apply run_induction (.ofBooks books) (identified_start books) _ acts few
  intro earlier act before sound identified
  rw [run_append, run_singleton]
  exact identified.step sound act

end Manager

end RecordLocks
