import Mathlib.Data.Set.Card
import RecordLocks.Proofs.Footprint
namespace RecordLocks

namespace RecordStore

/-- The ids of the stored books. -/
def ids (store : RecordStore) : Set ResourceId := {id | store.contains id = true}

variable {store : RecordStore} {book : Book} {id : ResourceId}

theorem mem_ids : id ∈ store.ids ↔ ∃ book, store.books.get? id = some book :=
  Option.isSome_iff_exists

theorem ids_put (store : RecordStore) (book : Book) :
    (store.put book).ids = insert book.id store.ids := by
  ext id
  rw [Set.mem_insert_iff, mem_ids, mem_ids, get?_put]
  by_cases same : book.id = id
  · simp [same]
  · simp [same, Ne.symm same]

/-- A book that takes the place of one with its id brings no new id. -/
theorem ids_replace (present : book.id ∈ store.ids) : (store.put book).ids = store.ids := by
  rw [ids_put, Set.insert_eq_of_mem present]

theorem add_of_present (present : book.id ∈ store.ids) :
    store.add book = (.error (.duplicateRecord book.id), store) :=
  if_pos present

theorem add_of_absent (absent : book.id ∉ store.ids) :
    store.add book = (.ok (), store.put book) :=
  if_neg absent

theorem update_of_present (present : book.id ∈ store.ids) :
    store.update book = (.ok (), store.put book) :=
  if_pos present

theorem update_of_absent (absent : book.id ∉ store.ids) :
    store.update book = (.error (.recordNotFound book.id), store) :=
  if_neg absent

theorem ids_add (store : RecordStore) (book : Book) :
    (store.add book).2.ids = insert book.id store.ids := by
  by_cases present : book.id ∈ store.ids
  · rw [add_of_present present, Set.insert_eq_of_mem present]
  · rw [add_of_absent present, ids_put]

theorem ids_update (store : RecordStore) (book : Book) :
    (store.update book).2.ids = store.ids := by
  by_cases present : book.id ∈ store.ids
  · rw [update_of_present present, ids_replace present]
  · rw [update_of_absent present]

theorem ids_remove (store : RecordStore) (id : ResourceId) :
    (store.remove id).2.ids = store.ids \ {id} := by
  ext other
  rw [Set.mem_sdiff, Set.mem_singleton_iff, mem_ids, mem_ids]
  simp only [remove, Index.get?_erase]
  by_cases same : id = other
  · simp [same]
  · simp [same, Ne.symm same]

theorem ids_ofBooks (books : List Book) :
    (ofBooks books).ids = {id | ∃ book ∈ books, book.id = id} := by
  have keeps : ∀ (books : List Book) (store : RecordStore),
      (books.foldl put store).ids = store.ids ∪ {id | ∃ book ∈ books, book.id = id} := by
    intro books
    induction books with
    | nil => simp
    | cons first rest ih =>
      intro store
      rw [List.foldl_cons, ih, ids_put]
      ext id
      simp only [Set.mem_union, Set.mem_insert_iff, Set.mem_ofPred_eq, List.mem_cons,
        exists_eq_or_imp]
      rw [eq_comm (a := id), or_assoc, or_left_comm]
  have folded : ofBooks books = books.foldl put .empty := by
    rw [ofBooks, Index.ofList, List.foldl_map]
    have inserts : ∀ store book, put (mk store) book = mk (store.insert book.id book) :=
      fun _ _ => rfl
    exact (List.foldl_hom mk inserts).symm
  rw [folded, keeps]
  ext id
  simp [mem_ids, RecordStore.empty]

/-- The size counts each id once. -/
theorem size_eq_ncard (store : RecordStore) : store.size = store.ids.ncard := by
  have nodup : store.books.keys.Nodup :=
    store.books.keys_ascending.imp fun less same => by simp [same] at less
  have listed : store.ids = {id | id ∈ store.books.keys} := by
    ext id
    exact Index.mem_keys.symm
  calc
    store.size = store.books.keys.length := (List.length_map _).symm
    _ = {id | id ∈ store.books.keys}.ncard := by
      rw [← List.coe_toFinset, Set.ncard_coe_finset, List.toFinset_card_of_nodup nodup]
    _ = store.ids.ncard := by rw [listed]

end RecordStore

/-- What an act does to the ids of a store. -/
def StoreAct.changeIds : StoreAct → Set ResourceId → Set ResourceId
  | .add book, ids => insert book.id ids
  | .update _, ids => ids
  | .remove id, ids => ids \ {id}

theorem RecordStore.ids_after (store : RecordStore) (act : StoreAct) :
    (store.after act).ids = act.changeIds store.ids := by
  cases act with
  | add book => exact store.ids_add book
  | update book => exact store.ids_update book
  | remove id => exact store.ids_remove id

namespace Session

/-- Each copy is kept under the book's own id. -/
def Identified (session : Session) : Prop :=
  ∀ resource book, session.copy? resource = some book → book.id = resource

variable {session : Session} {resource : ResourceId} {book : Book}

theorem Identified.checkout (identified : session.Identified) (own : book.id = resource) :
    (session.checkout resource book).2.Identified := by
  intro other copy copied
  rw [copy?_checkout] at copied
  split at copied
  · rename_i same
    rw [← same, ← Option.some.inj copied]
    cases before : session.copy? resource with
    | none => exact own
    | some old => exact identified resource old before
  · exact identified other copy copied

theorem Identified.edit (identified : session.Identified) (field : BookField) (value : String) :
    (session.edit resource field value).2.Identified := by
  intro other copy copied
  rw [copy?_edit] at copied
  split at copied
  · rename_i same
    obtain ⟨old, before, rfl⟩ := Option.map_eq_some_iff.mp copied
    rw [← same, Book.id_set]
    exact identified resource old before
  · exact identified other copy copied

theorem Identified.id_edited (identified : session.Identified) {field : BookField}
    {value : String} {edited : Book}
    (worked : (session.edit resource field value).1 = .ok edited) : edited.id = resource := by
  cases copied : session.copy? resource with
  | none => simp [edit_of_none copied] at worked
  | some old =>
    rw [edit_of_copy copied] at worked
    rw [← Except.ok.inj worked, Book.id_set]
    exact identified resource old copied

theorem Identified.release (identified : session.Identified) :
    (session.release resource).2.Identified := by
  intro other copy copied
  rw [copy?_release] at copied
  split at copied
  · cases copied
  · exact identified other copy copied

end Session

/-- A book on its way into the store has the id of the record that the call is about. -/
def Phase.Identified : Phase → Prop
  | .writing resource edited | .storing resource edited => edited.id = resource
  | .arriving | .waiting | .loading _ | .reading _ _ => True

namespace Manager

/-- Books are stored and copied under their own ids, and calls work on the records that they were
asked for. Lines and locks do not matter here, nor does the number of sessions. -/
structure Labelled (manager : Manager) : Prop where
  stored : manager.store.Identified
  copied : ∀ session seat, manager.seats.get? session = some seat → seat.session.Identified
  working : ∀ id call, manager.calls.get? id = some call → call.Fits ∧ call.phase.Identified
  seated : ∀ id call, manager.calls.get? id = some call →
    ∃ seat, manager.seats.get? call.session = some seat

variable {manager : Manager} {id : CallId} {call : Call} {seat : Seat} {session : SessionId}
  {resource : ResourceId}

theorem seats_setSeat : (manager.setSeat session seat).seats.get? session = some seat := by
  simp [setSeat, Index.get?_insert]

theorem seats_setSession {changed : Session} :
    (manager.setSession session seat changed).seats.get? session =
      some { seat with session := changed } :=
  seats_setSeat

namespace Labelled

theorem of_eq {after : Manager} (labelled : manager.Labelled)
    (stored : after.store.Identified) (seats : after.seats = manager.seats)
    (calls : after.calls = manager.calls) : after.Labelled := by
  refine ⟨stored, ?_, ?_, ?_⟩
  · rw [seats]
    exact labelled.copied
  · rw [calls]
    exact labelled.working
  · rw [seats, calls]
    exact labelled.seated

theorem record (labelled : manager.Labelled) (notice : Notice) :
    (manager.record notice).Labelled :=
  labelled.of_eq labelled.stored rfl rfl

theorem applyLocks (labelled : manager.Labelled) (change : LockTable.Change α) :
    (manager.applyLocks change).2.Labelled :=
  labelled.of_eq labelled.stored rfl rfl

theorem setSeat (labelled : manager.Labelled) (identified : seat.session.Identified) :
    (manager.setSeat session seat).Labelled := by
  refine ⟨labelled.stored, ?_, labelled.working, ?_⟩
  · intro other there seated
    rw [Manager.setSeat, Index.get?_insert] at seated
    split at seated
    · rw [← Option.some.inj seated]
      exact identified
    · exact labelled.copied other there seated
  · intro other there found
    rw [Manager.setSeat, Index.get?_insert]
    split
    · exact ⟨seat, rfl⟩
    · exact labelled.seated other there found

theorem setCall (labelled : manager.Labelled)
    (seated : ∃ seat, manager.seats.get? call.session = some seat) (fits : call.Fits)
    (identified : call.phase.Identified) : (manager.setCall id call).Labelled := by
  refine ⟨labelled.stored, labelled.copied, ?_, ?_⟩
  · intro other there found
    rw [Manager.setCall, Index.get?_insert] at found
    split at found
    · rw [← Option.some.inj found]
      exact ⟨fits, identified⟩
    · exact labelled.working other there found
  · intro other there found
    rw [Manager.setCall, Index.get?_insert] at found
    split at found
    · rw [← Option.some.inj found]
      exact seated
    · exact labelled.seated other there found

theorem forget (labelled : manager.Labelled) : (manager.forget id session).Labelled := by
  refine ⟨by simpa using labelled.stored, ?_, ?_, ?_⟩
  · intro other there seated
    rw [seats_forget] at seated
    split at seated
    · obtain ⟨before, found, rfl⟩ := Option.map_eq_some_iff.mp seated
      exact labelled.copied other before found
    · exact labelled.copied other there seated
  · intro other there found
    rw [calls_forget, Index.get?_erase] at found
    split at found
    · cases found
    · exact labelled.working other there found
  · intro other there found
    rw [calls_forget, Index.get?_erase] at found
    split at found
    · cases found
    · obtain ⟨seat, seated⟩ := labelled.seated other there found
      rw [seats_forget, seated]
      split
      · exact ⟨_, rfl⟩
      · exact ⟨seat, rfl⟩

theorem closeWindow (labelled : manager.Labelled) :
    (manager.closeWindow session resource).Labelled := by
  refine ⟨by simpa using labelled.stored, ?_, by simpa using labelled.working, ?_⟩
  · intro other there seated
    rw [seats_closeWindow] at seated
    split at seated
    · obtain ⟨before, found, rfl⟩ := Option.map_eq_some_iff.mp seated
      exact (labelled.copied other before found).release
    · exact labelled.copied other there seated
  · intro other there found
    rw [calls_closeWindow] at found
    obtain ⟨seat, seated⟩ := labelled.seated other there found
    rw [seats_closeWindow, seated]
    split
    · exact ⟨_, rfl⟩
    · exact ⟨seat, rfl⟩

theorem openWindow (labelled : manager.Labelled)
    (seated : manager.seats.get? call.session = some seat)
    (opens : call.request.opens? = some resource) :
    (manager.openWindow id call resource).2.Labelled := by
  have acquired := labelled.applyLocks (manager.locks.acquire resource call.session)
  have there : (manager.applyLocks
      (manager.locks.acquire resource call.session)).2.seats.get? call.session = some seat := seated
  rw [Manager.openWindow, acquire]
  split
  · rename_i refused
    rw [refused] at acquired
    exact acquired.forget
  · rename_i granted
    rw [granted] at acquired there
    exact acquired.setCall ⟨seat, there⟩ opens trivial

theorem serveCommit (labelled : manager.Labelled)
    (seated : manager.seats.get? call.session = some seat)
    (asked : call.request = .commit resource) :
    (manager.serveCommit id call seat resource).2.Labelled := by
  have acquired := labelled.applyLocks (manager.locks.acquire resource call.session)
  have there : (manager.applyLocks
      (manager.locks.acquire resource call.session)).2.seats.get? call.session = some seat := seated
  rw [Manager.serveCommit, acquire]
  split
  · exact labelled.forget
  · rename_i book copied
    split
    · rename_i refused
      rw [refused] at acquired
      exact acquired.forget
    · rename_i granted
      rw [granted] at acquired there
      exact acquired.setCall ⟨seat, there⟩ (.inr asked)
        (labelled.copied _ seat seated resource book copied)

theorem serveDiscard (labelled : manager.Labelled) (identified : seat.session.Identified) :
    (manager.serveDiscard id call seat resource).2.Labelled := by
  have dropped : (manager.setSession call.session seat
      (seat.session.release resource).2).Labelled := labelled.setSeat identified.release
  have released := dropped.applyLocks (manager.locks.release resource call.session)
  rw [Manager.serveDiscard]
  dsimp only
  split
  · exact (released.record _).forget
  · exact released.forget

theorem serveRemoval (labelled : manager.Labelled) :
    (manager.serveRemoval id call seat).2.Labelled := by
  have cleared : seat.session.clear.2.Identified := by
    intro other copy copied
    cases copied
  exact ((applyLocks (labelled.setSeat cleared) _).record _).forget

theorem serve (labelled : manager.Labelled)
    (seated : manager.seats.get? call.session = some seat) :
    (manager.serve id call seat).2.Labelled := by
  have identified := labelled.copied _ seat seated
  rw [Manager.serve.eq_def]
  split
  · exact labelled.serveRemoval
  · split
    · exact labelled.forget
    · split
      · rename_i asked
        exact labelled.openWindow seated (by rw [asked]; rfl)
      · rename_i asked
        exact labelled.openWindow seated (by rw [asked]; rfl)
      · rename_i asked
        exact labelled.openWindow seated (by rw [asked]; rfl)
      · exact (labelled.setSeat (identified.edit _ _)).forget
      · rename_i asked
        exact labelled.serveCommit seated asked
      · exact labelled.serveDiscard identified
      · exact labelled.forget
      · exact labelled.forget

theorem proceed (labelled : manager.Labelled)
    (seated : manager.seats.get? call.session = some seat) {book : Book}
    (own : book.id = resource) (opens : call.request.opens? = some resource) :
    (manager.proceed id call seat resource book).2.Labelled := by
  have copied := (labelled.copied _ seat seated).checkout own
  have loaded : (manager.setSession call.session seat
      (seat.session.checkout resource book).2).Labelled := labelled.setSeat copied
  rw [Manager.proceed.eq_def]
  dsimp only
  split
  · rename_i asked field value request
    have same : asked = resource := by
      rw [request] at opens
      exact Option.some.inj opens
    split
    · rename_i edited changed worked
      have kept : ((seat.session.checkout resource book).2.edit resource field
          value).2.Identified := copied.edit field value
      have named := copied.id_edited (congrArg Prod.fst worked)
      rw [worked] at kept
      have changing : (manager.setSession call.session seat changed).Labelled :=
        labelled.setSeat kept
      exact changing.setCall ⟨_, seats_setSession⟩ ⟨field, value, same ▸ request⟩ named
    · exact loaded.closeWindow.forget
  · rename_i asked field request
    have same : asked = resource := by
      rw [request] at opens
      exact Option.some.inj opens
    have fits : Call.Fits { call with phase := .reading resource field } := same ▸ request
    exact loaded.setCall ⟨_, seats_setSession⟩ fits trivial
  · split
    · exact loaded.forget
    · exact loaded.forget

theorem load (labelled : manager.Labelled)
    (seated : manager.seats.get? call.session = some seat)
    (opens : call.request.opens? = some resource) :
    (manager.load id call seat resource).2.Labelled := by
  rw [Manager.load]
  split
  · exact labelled.closeWindow.forget
  · rename_i book found
    have own := labelled.stored resource book (RecordStore.get_eq_ok.mp found)
    exact labelled.proceed seated own opens

theorem finishWrite (labelled : manager.Labelled) {edited : Book} :
    (manager.finishWrite id call resource edited).2.Labelled := by
  rw [Manager.finishWrite]
  split
  · exact labelled.closeWindow.forget
  · rename_i store updated
    have identified : store.Identified := by
      have after := labelled.stored.after (.update edited)
      rw [RecordStore.after, updated] at after
      exact after
    have taken : Labelled { manager with store := store } := labelled.of_eq identified rfl rfl
    exact (taken.record _).closeWindow.forget

theorem resume (labelled : manager.Labelled) (id : CallId) : (manager.resume id).2.Labelled := by
  rw [Manager.resume]
  split
  · exact labelled
  · rename_i call found
    obtain ⟨fits, working⟩ := labelled.working id call found
    split
    · exact labelled
    · rename_i seat seated
      split
      · have queued : (manager.setSeat call.session
            { seat with line := seat.line ++ [id] }).Labelled :=
          labelled.setSeat (labelled.copied _ seat seated)
        exact queued.setCall ⟨_, seats_setSeat⟩ trivial trivial
      · split
        · exact labelled.serve seated
        · exact labelled
      · rename_i phase
        exact labelled.load seated (by simpa [Call.Fits, phase] using fits)
      · rename_i phase
        rw [phase] at working
        refine labelled.setCall ⟨seat, seated⟩ ?_ working
        rw [Call.Fits, phase] at fits
        exact .inl fits
      · exact labelled.closeWindow.forget
      · exact labelled.finishWrite

theorem cancel (labelled : manager.Labelled) (id : CallId) : (manager.cancel id).Labelled := by
  cases found : manager.calls.get? id with
  | none =>
    rw [cancel_of_none found]
    exact labelled
  | some call =>
    cases opened : call.phase.window? with
    | none =>
      rw [cancel_of_outside found opened]
      exact labelled.forget
    | some resource =>
      rw [cancel_of_window found opened]
      exact labelled.closeWindow.forget

theorem issue (labelled : manager.Labelled) (id : CallId) (session : SessionId)
    (request : Request) : (manager.issue id session request).2.Labelled := by
  rcases issue_cases manager id session request with same | ⟨seat, -, seated, -, issued⟩
  · rw [same]
    exact labelled
  · rw [issued]
    have unlisted : (manager.setSeat session
        { seat with listed := decide (request ≠ .removeSession) }).Labelled :=
      labelled.setSeat (labelled.copied session seat seated)
    exact unlisted.setCall ⟨_, seats_setSeat⟩ trivial trivial

theorem enlist (labelled : manager.Labelled) (session : SessionId) :
    (manager.enlist session).Labelled := by
  rw [Manager.enlist]
  split
  · exact labelled
  · have bare : ∀ user, (Session.start session user).Identified := by
      intro user resource book copied
      cases copied
    have turned : (manager.turnAway session).Labelled := labelled.of_eq labelled.stored rfl rfl
    exact (turned.setSeat (bare _)).record _

theorem step (labelled : manager.Labelled) (act : Act) : (manager.step act).Labelled := by
  cases act with
  | enter user => exact labelled.of_eq labelled.stored rfl rfl
  | turnAway session => exact labelled.of_eq labelled.stored rfl rfl
  | enlist session => exact labelled.enlist session
  | issue id session request => exact labelled.issue id session request
  | resume id => exact labelled.resume id
  | cancel id => exact labelled.cancel id
  | store act => exact labelled.of_eq (labelled.stored.after act) rfl rfl

theorem identified (labelled : manager.Labelled) : manager.Identified := by
  refine ⟨labelled.stored, ?_⟩
  intro session resource book copied
  obtain ⟨seat, seated, own⟩ := Option.bind_eq_some_iff.mp copied
  exact labelled.copied session seat seated resource book own

theorem resume_storing (labelled : manager.Labelled) {edited : Book}
    (found : manager.calls.get? id = some call) (phase : call.phase = .storing resource edited) :
    manager.resume id = manager.finishWrite id call resource edited := by
  obtain ⟨seat, seated⟩ := labelled.seated id call found
  simp only [Manager.resume, found, seated, phase]

end Labelled

theorem labelled_start (books : List Book) : (start (.ofBooks books)).Labelled := by
  refine ⟨?_, ?_, ?_, ?_⟩
  · intro resource book found
    exact RecordStore.id_ofBooks books found
  all_goals
    intro id _ found
    cases found

theorem labelled_run (books : List Book) (acts : List Act) :
    ((start (.ofBooks books)).run acts).Labelled := by
  induction acts using List.reverseRecOn with
  | nil => exact labelled_start books
  | append_singleton earlier act ih =>
    rw [run_append, run_singleton]
    exact ih.step act

theorem store_openWindow : (manager.openWindow id call resource).2.store = manager.store := by
  rw [openWindow]
  split
  all_goals
    rename_i acquired
    have same : (manager.acquire resource call.session).2.store = manager.store := rfl
    rw [acquired] at same
    simpa [answer, await] using same

theorem store_serveCommit :
    (manager.serveCommit id call seat resource).2.store = manager.store := by
  rw [serveCommit]
  split
  · exact store_forget manager id call.session
  · split
    all_goals
      rename_i acquired
      have same : (manager.acquire resource call.session).2.store = manager.store := rfl
      rw [acquired] at same
      simpa [answer, await] using same

theorem store_serveDiscard :
    (manager.serveDiscard id call seat resource).2.store = manager.store := by
  rw [serveDiscard]
  dsimp only
  split
  · exact store_forget _ id call.session
  · exact store_forget _ id call.session

theorem store_serve : (manager.serve id call seat).2.store = manager.store := by
  rw [serve.eq_def]
  split
  · exact store_forget _ id call.session
  · split
    · exact store_forget _ id call.session
    · split
      · exact store_openWindow
      · exact store_openWindow
      · exact store_openWindow
      · exact store_forget _ id call.session
      · exact store_serveCommit
      · exact store_serveDiscard
      · exact store_forget _ id call.session
      · exact store_forget _ id call.session

theorem store_proceed {book : Book} :
    (manager.proceed id call seat resource book).2.store = manager.store := by
  rw [proceed.eq_def]
  dsimp only
  split
  · split
    · rfl
    · simp [answer]
  · rfl
  · split
    · simp [answer]
    · simp [answer]

theorem store_load : (manager.load id call seat resource).2.store = manager.store := by
  rw [load]
  split
  · simp [answer]
  · exact store_proceed

/-- A book that is stored takes the place of one with its id. -/
theorem ids_resume (manager : Manager) (id : CallId) :
    (manager.resume id).2.store.ids = manager.store.ids := by
  rw [resume]
  split
  · rfl
  · split
    · rfl
    · split
      · rfl
      · split
        · rw [store_serve]
        · rfl
      · rw [store_load]
      · rfl
      · simp [finishRead, answer]
      · rename_i resource edited phase
        have kept := manager.store.ids_update edited
        rw [finishWrite]
        split
        · simp [answer]
        · rename_i updated
          rw [updated] at kept
          simpa [answer] using kept

end Manager

/-- Only what is done to the store directly changes the ids in it. -/
def Act.changeIds : Act → Set ResourceId → Set ResourceId
  | .store act, ids => act.changeIds ids
  | .enter _, ids | .enlist _, ids | .turnAway _, ids | .issue _ _ _, ids | .resume _, ids
  | .cancel _, ids => ids

namespace Manager

variable {manager : Manager}

theorem ids_step (manager : Manager) (act : Act) :
    (manager.step act).store.ids = act.changeIds manager.store.ids := by
  cases act with
  | enter user | turnAway session => rfl
  | enlist session => exact congrArg RecordStore.ids (store_enlist manager session)
  | issue id session request =>
    exact congrArg RecordStore.ids (store_issue manager id session request)
  | resume id => exact ids_resume manager id
  | cancel id => exact congrArg RecordStore.ids (store_cancel manager id)
  | store act => exact manager.store.ids_after act

theorem ids_run (manager : Manager) (acts : List Act) :
    (manager.run acts).store.ids =
      acts.foldl (fun ids act => act.changeIds ids) manager.store.ids := by
  induction acts generalizing manager with
  | nil => rfl
  | cons act rest ih =>
    rw [List.foldl_cons, ← ids_step]
    exact ih (manager.step act)

/-- The records of a manager go by their ids, and no call brings an id or takes one away. A write
or a commit whose record is not there any more when it stores the book is told so. -/
structure KeepsRecords (manager : Manager) : Prop where
  identified : manager.Identified
  size : manager.store.size = manager.store.ids.ncard
  step : ∀ act, (manager.step act).store.ids = act.changeIds manager.store.ids
  duplicate : ∀ book, book.id ∈ manager.store.ids →
    manager.store.add book = (.error (.duplicateRecord book.id), manager.store)
  added : ∀ book, book.id ∉ manager.store.ids →
    manager.store.add book = (.ok (), manager.store.put book)
  storing : ∀ id call resource edited, manager.calls.get? id = some call →
    call.phase = .storing resource edited →
      ((∃ field value, call.request = .write resource field value) ∨
        call.request = .commit resource) ∧
      (resource ∈ manager.store.ids →
        (manager.resume id).1 = some (.ok (.book edited)) ∧
          (manager.resume id).2.store = manager.store.put edited) ∧
      (resource ∉ manager.store.ids →
        (manager.resume id).1 = some (.error (.recordNotFound resource)) ∧
          (manager.resume id).2.store = manager.store)

theorem Labelled.keepsRecords (labelled : manager.Labelled) : manager.KeepsRecords := by
  refine ⟨labelled.identified, manager.store.size_eq_ncard, manager.ids_step, ?_, ?_, ?_⟩
  · intro book present
    exact RecordStore.add_of_present present
  · intro book absent
    exact RecordStore.add_of_absent absent
  · intro id call resource edited found phase
    obtain ⟨fits, own⟩ := labelled.working id call found
    rw [phase] at own
    have own : edited.id = resource := own
    rw [labelled.resume_storing found phase, Manager.finishWrite]
    refine ⟨by simpa [Call.Fits, phase] using fits, ?_, ?_⟩
    · intro present
      rw [RecordStore.update_of_present (own ▸ present)]
      simp [answer]
    · intro absent
      rw [RecordStore.update_of_absent (own ▸ absent)]
      simp [answer, own]

/-- Whatever happens to the store of a manager beside its calls, and in whatever order, its records
keep their ids, and the ids in the store are those of the books at the start, changed by what was
added and removed directly. -/
theorem records_keep_their_ids (books : List Book) (acts : List Act) :
    ((start (.ofBooks books)).run acts).KeepsRecords ∧
      ((start (.ofBooks books)).run acts).store.ids =
        acts.foldl (fun ids act => act.changeIds ids) {id | ∃ book ∈ books, book.id = id} := by
  constructor
  · exact (labelled_run books acts).keepsRecords
  · rw [ids_run, ← RecordStore.ids_ofBooks]
    rfl

/-- A commit finds its record removed. -/
example :
    (((start (.ofBooks [.titled 7 "old"])).run
      [.enter "ann", .enlist ⟨0⟩, .issue 0 ⟨0⟩ (.checkout 7), .resume 0, .resume 0, .resume 0,
        .issue 1 ⟨0⟩ (.commit 7), .resume 1, .resume 1, .store (.remove 7)]).resume 1).1 =
      some (.error (.recordNotFound 7)) := by decide

end Manager

end RecordLocks
