import RecordLocks.Proofs.Drafts
namespace RecordLocks

/-- What the observer of a run can rely on. Books keep their ids; each working copy is its draft,
and the draft's source is still stored; a read works on an unedited draft if it loaded the draft
itself; and each record goes back through the drafts put in its place. -/
structure Faithful (first : RecordStore) (manager : Manager) (ledger : Ledger) : Prop where
  identity : ∀ resource book, manager.store.books.get? resource = some book → book.id = resource
  derived : ∀ session resource book, manager.copy? session resource = some book →
    ∃ draft, ledger.drafts session resource = some draft ∧ draft.book = book ∧
      manager.store.books.get? resource = some draft.source
  untouched : ∀ id session request resource field,
    manager.calls.get? id = some ⟨session, request, .reading resource field⟩ →
    ledger.fresh id = true →
    ∃ draft, ledger.drafts session resource = some draft ∧ draft.edits = []
  lineage : ∀ resource, Lineage (first.books.get? resource) (ledger.commits resource)
    (manager.store.books.get? resource)

namespace Faithful

open Manager

variable {first : RecordStore} {manager after : Manager} {ledger : Ledger} {id : CallId}
  {session : SessionId} {request : Request} {phase : Phase} {seat : Seat}

/-- Nothing can become wrong where the store is left alone and no copy and no read is new. -/
theorem of_fewer (faithful : Faithful first manager ledger) (store : after.store = manager.store)
    (copies : ∀ session resource book, after.copy? session resource = some book →
      manager.copy? session resource = some book)
    (reads : ∀ id session request resource field,
      after.calls.get? id = some ⟨session, request, .reading resource field⟩ →
      manager.calls.get? id = some ⟨session, request, .reading resource field⟩) :
    Faithful first after ledger := by
  constructor
  · rw [store]
    exact faithful.identity
  · intro session resource book copied
    rw [store]
    exact faithful.derived session resource book (copies session resource book copied)
  · intro id session request resource field found
    exact faithful.untouched id session request resource field
      (reads id session request resource field found)
  · rw [store]
    exact faithful.lineage

/-- The call that a session serves works on one copy, which stays a draft of the stored book. -/
theorem rework {noted : Ledger} {resource : ResourceId}
    (faithful : Faithful first manager ledger) (draft : Draft) (sound : manager.Sound)
    (seated : manager.seats.get? session = some seat) (head : seat.line.head? = some id)
    (store : after.store = manager.store)
    (calls : ∀ other, other ≠ id → after.calls.get? other = manager.calls.get? other)
    (copies : ∀ other asked, ¬ (session = other ∧ resource = asked) →
      after.copy? other asked = manager.copy? other asked)
    (drafts : ∀ other asked, ¬ (session = other ∧ resource = asked) →
      noted.drafts other asked = ledger.drafts other asked)
    (commits : noted.commits = ledger.commits)
    (fresh : ∀ other, other ≠ id → noted.fresh other = ledger.fresh other)
    (drafted : noted.drafts session resource = some draft)
    (copied : after.copy? session resource = some draft.book)
    (stored : manager.store.books.get? resource = some draft.source)
    (reads : ∀ owner request asked field,
      after.calls.get? id = some ⟨owner, request, .reading asked field⟩ → noted.fresh id = true →
      ∃ draft, noted.drafts owner asked = some draft ∧ draft.edits = []) :
    Faithful first after noted := by
  constructor
  · rw [store]
    exact faithful.identity
  · intro other asked book found
    rw [store]
    by_cases here : session = other ∧ resource = asked
    · obtain ⟨rfl, rfl⟩ := here
      rw [copied] at found
      exact ⟨draft, drafted, Option.some.inj found, stored⟩
    · rw [copies other asked here] at found
      rw [drafts other asked here]
      exact faithful.derived other asked book found
  · intro other owner asked resource field found new
    by_cases same : other = id
    · subst same
      exact reads owner asked resource field found new
    · rw [calls other same] at found
      rw [fresh other same] at new
      -- Both calls would be served by the session at once.
      have apart : session ≠ owner := by
        intro own
        subst own
        have first := (sound.seats session seat seated).line.head_of_phase found rfl
          (by simp) (by simp)
        rw [head] at first
        exact same (Option.some.inj first).symm
      rw [drafts owner resource fun here => apart here.1]
      exact faithful.untouched other owner asked resource field found new
  · rw [store, commits]
    exact faithful.lineage

/-- A load leaves a draft of the stored book, an unedited one if the copy is new. -/
theorem draft_of_load {resource : ResourceId} {book : Book}
    (faithful : Faithful first manager ledger)
    (stored : manager.store.books.get? resource = some book) (id : CallId) (session : SessionId) :
    ∃ draft, (ledger.note (.ofLoad id session resource
        (manager.copy? session resource) book)).drafts session resource = some draft ∧
      draft.book = (manager.copy? session resource).getD book ∧ draft.source = book ∧
      ((ledger.note (.ofLoad id session resource
        (manager.copy? session resource) book)).fresh id = true → draft.edits = []) := by
  cases copied : manager.copy? session resource with
  | none => exact ⟨.loaded book, by simp [Event.ofLoad, Ledger.note], rfl, rfl, fun _ => rfl⟩
  | some copy =>
    obtain ⟨draft, drafted, derived, source⟩ := faithful.derived session resource copy copied
    rw [stored] at source
    refine ⟨draft, drafted, derived, (Option.some.inj source).symm, ?_⟩
    simp [Event.ofLoad, Ledger.note]

/-- A session that holds the lock puts its draft in the place of the draft's source. -/
theorem commit {resource : ResourceId} {draft : Draft} (faithful : Faithful first manager ledger)
    (sound : manager.Sound) (copied : manager.copy? session resource = some draft.book)
    (drafted : ledger.drafts session resource = some draft)
    (stored : manager.store.books.get? resource = some draft.source)
    (store : after.store = manager.store.put draft.book)
    (calls : ∀ other, other ≠ id → after.calls.get? other = manager.calls.get? other)
    (ended : after.calls.get? id = none)
    (copies : ∀ other asked, after.copy? other asked =
      if session = other ∧ resource = asked then none else manager.copy? other asked) :
    Faithful first after (ledger.note (.committed session resource)) := by
  have named : draft.book.id = resource := by
    rw [Draft.id_book]
    exact faithful.identity resource draft.source stored
  have stands : ∀ asked, after.store.books.get? asked =
      if resource = asked then some draft.book else manager.store.books.get? asked := by
    intro asked
    rw [store, RecordStore.get?_put, named]
  constructor
  · intro asked book found
    rw [stands] at found
    split at found
    · rename_i same
      rw [← Option.some.inj found, named, same]
    · exact faithful.identity asked book found
  · intro other asked book found
    rw [copies] at found
    split at found
    · cases found
    rename_i apart
    obtain ⟨there, noted, derived, source⟩ := faithful.derived other asked book found
    refine ⟨there, noted, derived, ?_⟩
    rw [stands, if_neg ?_]
    · exact source
    · intro same
      subst same
      exact apart ⟨sound.eq_of_copies copied found, rfl⟩
  · intro other owner request asked field found fresh
    by_cases same : other = id
    · subst same
      rw [ended] at found
      cases found
    · rw [calls other same] at found
      exact faithful.untouched other owner request asked field found fresh
  · intro asked
    rw [stands]
    by_cases same : resource = asked
    · subst same
      have before := faithful.lineage resource
      rw [stored] at before
      simpa [Ledger.note, drafted] using before.snoc
    · simpa [Ledger.note, same] using faithful.lineage asked

theorem of_quiet (faithful : Faithful first manager ledger)
    (calls : ∀ other, other ≠ id → after.calls.get? other = manager.calls.get? other)
    (store : after.store = manager.store)
    (copies : ∀ session resource book, after.copy? session resource = some book →
      manager.copy? session resource = some book)
    (reads : ∀ session request resource field,
      after.calls.get? id ≠ some ⟨session, request, .reading resource field⟩) :
    Faithful first after ledger := by
  apply faithful.of_fewer store copies
  intro other session request resource field found
  by_cases same : other = id
  · rw [same] at found
    exact absurd found (reads session request resource field)
  · rwa [calls other same] at found

theorem resume (faithful : Faithful first manager ledger) (sound : manager.Sound)
    (found : manager.calls.get? id = some ⟨session, request, phase⟩) :
    Faithful first (manager.resume id).2
      (ledger.after (manager.callEvents id ⟨session, request, phase⟩ (manager.resume id).1)) := by
  obtain ⟨seat, seated⟩ := sound.seated id _ found
  have here := sound.seats session seat seated
  have fits := sound.fits id _ found
  have own : ∀ resource, seat.session.copy? resource = manager.copy? session resource := by
    intro resource
    simp [copy?, seated]
  have advanced := resume_advance sound found seated
  have others : ∀ other, other ≠ id →
      (manager.resume id).2.calls.get? other = manager.calls.get? other :=
    fun other different => advanced.calls_other different
  generalize (manager.resume id).1 = outcome at advanced ⊢
  generalize (manager.resume id).2 = after at advanced others ⊢
  -- Five steps work on a draft or on the store; the others only leave copies behind.
  cases advanced with
  | queued =>
    apply faithful.of_quiet others rfl
    · intro other resource book copied
      simp only [copy?_setCall, copy?_setSeat, own] at copied
      split at copied
      · rename_i same
        exact same ▸ copied
      · exact copied
    · simp [setCall, Index.get?_insert]
  | behind blocked => exact faithful
  | removed head =>
    apply faithful.of_quiet others (by simp [record, setSeat, releaseAll, applyLocks])
    · intro other resource book copied
      simp only [copy?_forget, copy?_record, copy?_releaseAll, copy?_setSeat,
        Session.copy?_clear] at copied
      split at copied
      · cases copied
      · exact copied
    · simp [record, setSeat, releaseAll, applyLocks, Index.get?_erase]
  | shut | notCheckedOut | nothingDiscarded | told | refused =>
    apply faithful.of_quiet others (by simp)
    · simp
    · simp [Index.get?_erase]
  | contended | discarded =>
    apply faithful.of_quiet others (by simp [record])
    · simp
    · simp [record, Index.get?_erase]
  | opened | committing | worked =>
    apply faithful.of_quiet others rfl
    · simp
    · simp [setCall, Index.get?_insert]
  | @edited resource book field value head live copied =>
    obtain ⟨draft, drafted, derived, source⟩ :=
      faithful.derived session resource book ((own resource).symm.trans copied)
    refine faithful.rework (draft.revise field value) sound seated head
      (by simp [setSession, setSeat]) others ?_ ?_ rfl (fun _ _ => rfl) ?_ ?_ source ?_
    · intro other asked apart
      rw [copy?_forget]
      exact copy?_edit_other seated apart _ _
    · intro other asked apart
      exact Ledger.drafts_edit_other _ _ _ _ _ apart
    · refine (Ledger.drafts_edit _ _ _ _ _).trans ?_
      rw [drafted]
      rfl
    · simp [copied, derived]
    · simp [setSession, setSeat, Index.get?_erase]
  | vanished missing =>
    simp only [callEvents, missing]
    apply faithful.of_quiet others (by simp)
    · simp
    · simp [Index.get?_erase]
  | @loadedToWrite resource book field value stored =>
    have head := here.line.head_of_phase found rfl (by simp) (by simp)
    obtain ⟨draft, drafted, derived, source, -⟩ := faithful.draft_of_load stored id session
    subst source
    simp only [callEvents, stored, Call.loadEvents, Ledger.after, List.foldl_cons, List.foldl_nil]
    refine faithful.rework (draft.revise field value) sound seated head
      (by simp [setSession, setCall, setSeat]) others ?_ ?_ ?_ ?_ ?_ ?_ stored ?_
    · intro other asked apart
      rw [copy?_setCall]
      exact copy?_write_other seated apart _ _ _
    · intro other asked apart
      rw [Ledger.drafts_edit_other _ _ _ _ _ apart, Ledger.drafts_load_other _ _ _ _ _ _ apart]
    · exact Ledger.commits_load _ _ _ _ _ _
    · intro other different
      exact Ledger.fresh_load_other _ _ _ _ _ _ different
    · rw [Ledger.drafts_edit, drafted]
      rfl
    · simp [derived, own]
    · simp [setSession, setCall, setSeat, Index.get?_insert]
  | @loadedToRead resource field book stored =>
    have head := here.line.head_of_phase found rfl (by simp) (by simp)
    obtain ⟨draft, drafted, derived, source, new⟩ := faithful.draft_of_load stored id session
    subst source
    simp only [callEvents, stored, Call.loadEvents, Ledger.after, List.foldl_cons, List.foldl_nil]
    refine faithful.rework draft sound seated head
      (by simp [setSession, setCall, setSeat]) others ?_ ?_ ?_ ?_ drafted ?_ stored ?_
    · intro other asked apart
      rw [copy?_setCall]
      exact copy?_checkout_other seated apart _
    · intro other asked apart
      exact Ledger.drafts_load_other _ _ _ _ _ _ apart
    · exact Ledger.commits_load _ _ _ _ _ _
    · intro other different
      exact Ledger.fresh_load_other _ _ _ _ _ _ different
    · simp [derived, own]
    · intro owner request asked other there fresh
      simp only [setCall, Index.get?_insert] at there
      cases there
      exact ⟨draft, drafted, new fresh⟩
  | @checkedOut resource book stored =>
    have head := here.line.head_of_phase found rfl (by simp) (by simp)
    obtain ⟨draft, drafted, derived, source, -⟩ := faithful.draft_of_load stored id session
    subst source
    simp only [callEvents, stored, Call.loadEvents, Ledger.after, List.foldl_cons, List.foldl_nil]
    refine faithful.rework draft sound seated head
      (by simp [setSession, setSeat]) others ?_ ?_ ?_ ?_ drafted ?_ stored ?_
    · intro other asked apart
      rw [copy?_forget]
      exact copy?_checkout_other seated apart _
    · intro other asked apart
      exact Ledger.drafts_load_other _ _ _ _ _ _ apart
    · exact Ledger.commits_load _ _ _ _ _ _
    · intro other different
      exact Ledger.fresh_load_other _ _ _ _ _ _ different
    · simp [derived, own]
    · simp [setSession, setSeat, Index.get?_erase]
  | readDone copied =>
    cases fits
    apply faithful.of_quiet others (by simp)
    · simp
    · simp [Index.get?_erase]
  | @stored request resource edited old present =>
    have head := here.line.head_of_phase found rfl (by simp) (by simp)
    have tally := here.tally_served head found
    have copied : manager.copy? session resource = some edited := by
      rw [← own, tally.2]
    obtain ⟨draft, drafted, rfl, source⟩ := faithful.derived session resource edited copied
    have events : callEvents manager id ⟨session, request, .storing resource draft.book⟩
        (some (.ok (.book draft.book))) = [.committed session resource] := by
      rcases fits with ⟨field, value, rfl⟩ | rfl <;> rfl
    rw [events]
    apply faithful.commit sound copied drafted source (by simp [record]) others
    · simp [record, Index.get?_erase]
    · intro other asked
      simp only [copy?_forget, copy?_closeWindow, copy?_record]
      rfl

theorem enlist (faithful : Faithful first manager ledger) (session : SessionId) :
    Faithful first (manager.enlist session) ledger := by
  cases entered : manager.entrants.get? session with
  | none =>
    rw [Manager.enlist, entered]
    exact faithful
  | some user =>
    rw [enlist_of_entrant entered]
    refine faithful.of_fewer rfl ?_ fun _ _ _ _ _ found => found
    intro other resource book copied
    rw [copy?_record, copy?_setSeat] at copied
    split at copied
    · cases copied
    · exact copied

theorem issue (faithful : Faithful first manager ledger) :
    Faithful first (manager.issue id session request).2 ledger := by
  rcases issue_cases manager id session request with same | ⟨seat, fresh, seated, listed, issued⟩
  · rw [same]
    exact faithful
  rw [issued]
  refine faithful.of_fewer rfl ?_ ?_
  · intro other resource book copied
    rw [copy?_setCall, copy?_setSeat] at copied
    split at copied
    · rename_i same
      subst same
      simpa [copy?, seated] using copied
    · exact copied
  · intro other owner asked resource field found
    simp only [setCall, Index.get?_insert] at found
    split at found
    · cases found
    · exact found

theorem cancel (faithful : Faithful first manager ledger) :
    Faithful first (manager.cancel id) ledger := by
  cases found : manager.calls.get? id with
  | none =>
    rw [cancel_of_none found]
    exact faithful
  | some call =>
    have others : ∀ other, other ≠ id →
        (manager.cancel id).calls.get? other = manager.calls.get? other :=
      fun other different => calls_cancel_other different
    cases opened : call.phase.window? with
    | none =>
      apply faithful.of_quiet others
      · simp [cancel_of_outside found opened]
      · simp [cancel_of_outside found opened]
      · simp [cancel_of_outside found opened, Index.get?_erase]
    | some resource =>
      apply faithful.of_quiet others
      · simp [cancel_of_window found opened]
      · simp [cancel_of_window found opened]
      · simp [cancel_of_window found opened, Index.get?_erase]

theorem step (faithful : Faithful first manager ledger) (sound : manager.Sound) {act : Act}
    (inside : act.isOutside = false) :
    Faithful first (manager.step act) (ledger.after (manager.events act)) := by
  cases act with
  | enter user | turnAway other =>
    exact faithful.of_fewer rfl (fun _ _ _ found => found) fun _ _ _ _ _ found => found
  | enlist other => exact faithful.enlist other
  | issue id other request => exact faithful.issue
  | resume id =>
    cases found : manager.calls.get? id with
    | none =>
      simp only [Manager.step, resume_of_none found, Manager.events, found]
      exact faithful
    | some call =>
      simp only [Manager.step, Manager.events, found]
      exact faithful.resume sound found
  | cancel id => exact faithful.cancel
  | store act => cases inside

end Faithful

namespace Manager

theorem faithful_start (books : List Book) :
    Faithful (.ofBooks books) (start (.ofBooks books)) .blank := by
  refine ⟨fun resource book => RecordStore.id_ofBooks books, ?_, ?_, fun resource => rfl⟩
  · intro session resource book copied
    cases copied
  · intro id session request resource field found
    cases found

theorem faithful_run (books : List Book) (acts : List Act)
    (inside : ∀ act ∈ acts, act.isOutside = false) (few : Act.openings acts ≤ 2 ^ 64) :
    Faithful (.ofBooks books) ((start (.ofBooks books)).run acts)
      ((start (.ofBooks books)).ledger acts) := by
  induction acts using List.reverseRecOn with
  | nil => exact faithful_start books
  | append_singleton earlier act ih =>
    rw [Act.openings_append] at few
    have before : Act.openings earlier ≤ 2 ^ 64 := by omega
    have sound := (sound_run (.ofBooks books) earlier before).1
    have faithful := ih (fun act member => inside act (by simp [member])) before
    rw [run_append, run_singleton, ledger_append_singleton]
    exact faithful.step sound (inside act (by simp))

variable {manager : Manager} {id : CallId} {session : SessionId} {request : Request}
  {phase : Phase} {resource : ResourceId}

/-- The act ends a write or a commit of the session with success. -/
def Commits (manager : Manager) (act : Act) (session : SessionId) (resource : ResourceId) : Prop :=
  ∃ id request phase reply, act = .resume id ∧
    manager.calls.get? id = some ⟨session, request, phase⟩ ∧
    request.stores? = some resource ∧ (manager.resume id).1 = some (.ok reply)

/-- A write or a commit succeeds by the store's taking the working copy. -/
theorem store_of_commits (sound : manager.Sound) {act : Act}
    (commits : manager.Commits act session resource) :
    ∃ edited, manager.copy? session resource = some edited ∧
      (manager.step act).store = manager.store.put edited := by
  obtain ⟨id, request, phase, reply, rfl, found, stores, succeeds⟩ := commits
  obtain ⟨seat, seated⟩ := sound.seated id _ found
  have here := sound.seats session seat seated
  have fits := sound.fits id _ found
  have advanced := resume_advance sound found seated
  simp only [step]
  rw [succeeds] at advanced
  generalize (manager.resume id).2 = after at advanced ⊢
  cases advanced with
  | removed | edited | discarded | nothingDiscarded | told | checkedOut => cases stores
  | readDone copied =>
    cases fits
    cases stores
  | @stored request there edited old present =>
    have head := here.line.head_of_phase found rfl (by simp) (by simp)
    have tally := here.tally_served head found
    have same : there = resource := by
      rcases fits with ⟨field, value, rfl⟩ | rfl <;> exact Option.some.inj stores
    subst same
    refine ⟨edited, ?_, by simp [record]⟩
    simp [copy?, seated, tally.2]

/-- Nothing but a write or a commit that succeeds changes the store from inside. -/
theorem commits_of_store (sound : manager.Sound) {act : Act} (inside : act.isOutside = false)
    (changed : (manager.step act).store ≠ manager.store) :
    ∃ session resource, manager.Commits act session resource := by
  cases act with
  | enter | turnAway => exact absurd rfl changed
  | enlist other => exact absurd (store_enlist manager other) changed
  | issue id other request => exact absurd (store_issue manager id other request) changed
  | cancel id => exact absurd (store_cancel manager id) changed
  | store act => cases inside
  | resume id =>
    cases found : manager.calls.get? id with
    | none =>
      rw [step, resume_of_none found] at changed
      exact absurd rfl changed
    | some call =>
      obtain ⟨session, request, phase⟩ := call
      obtain ⟨seat, seated⟩ := sound.seated id _ found
      have fits := sound.fits id _ found
      rcases (resume_advance sound found seated).store_cases with
        same | ⟨resource, edited, rfl, ended, -⟩
      · exact absurd same changed
      · have stores : request.stores? = some resource := by
          rcases fits with ⟨field, value, rfl⟩ | rfl <;> rfl
        exact ⟨session, resource, id, request, _, _, rfl, found, stores, ended⟩

/-- A read that loaded its copy itself answers from the stored book. -/
theorem answer_of_fresh_read {first : RecordStore} {ledger : Ledger}
    (faithful : Faithful first manager ledger) (sound : manager.Sound) {field : BookField}
    {reply : Reply} (found : manager.calls.get? id = some ⟨session, .read resource field, phase⟩)
    (fresh : ledger.fresh id = true) (succeeds : (manager.resume id).1 = some (.ok reply)) :
    ∃ book, manager.store.get resource = .ok book ∧ reply = .text (book.get field) := by
  obtain ⟨seat, seated⟩ := sound.seated id _ found
  have fits := sound.fits id _ found
  have advanced := resume_advance sound found seated
  rw [succeeds] at advanced
  generalize (manager.resume id).2 = after at advanced
  cases advanced with
  | @readDone request there asked book copied =>
    cases fits
    obtain ⟨draft, drafted, unedited⟩ :=
      faithful.untouched id session _ resource field found fresh
    obtain ⟨same, noted, derived, stored⟩ :=
      faithful.derived session resource book (by simp [copy?, seated, copied])
    rw [drafted] at noted
    cases noted
    refine ⟨draft.source, RecordStore.get_eq_ok.mpr stored, ?_⟩
    rw [← derived, Draft.book, unedited]
    rfl
  | stored present =>
    rcases fits with ⟨field, value, asked⟩ | asked <;> cases asked

/-- No update is lost. A write or a commit that succeeds puts the session's copy into the store,
and the copy is the stored book with the session's edits since it was loaded; nothing else that
sessions do changes the store. So each record goes back to its first version through drafts that
were each loaded from the version before. A read that loads the record itself answers from the
book that is stored when it ends. -/
theorem no_update_is_lost (books : List Book) (acts : List Act)
    (inside : ∀ act ∈ acts, act.isOutside = false) (few : Act.openings acts ≤ 2 ^ 64) :
    let first := RecordStore.ofBooks books
    let manager := (start first).run acts
    let ledger := (start first).ledger acts
    (∀ act session resource, manager.Commits act session resource →
      ∃ draft, ledger.drafts session resource = some draft ∧
        manager.copy? session resource = some draft.book ∧
        manager.store.get resource = .ok draft.source ∧ draft.book.id = resource ∧
        (manager.step act).store = manager.store.put draft.book) ∧
    (∀ act, act.isOutside = false → (manager.step act).store ≠ manager.store →
      ∃ session resource, manager.Commits act session resource) ∧
    (∀ resource, Lineage (first.books.get? resource) (ledger.commits resource)
      (manager.store.books.get? resource)) ∧
    (∀ id session resource field phase reply,
      manager.calls.get? id = some ⟨session, .read resource field, phase⟩ →
      ledger.fresh id = true → (manager.resume id).1 = some (.ok reply) →
      ∃ book, manager.store.get resource = .ok book ∧ reply = .text (book.get field)) := by
  intro first manager ledger
  have sound : manager.Sound := (sound_run first acts few).1
  have faithful : Faithful first manager ledger := faithful_run books acts inside few
  refine ⟨?_, ?_, faithful.lineage, ?_⟩
  · intro act session resource commits
    obtain ⟨edited, copied, stored⟩ := store_of_commits sound commits
    obtain ⟨draft, drafted, rfl, source⟩ := faithful.derived session resource edited copied
    refine ⟨draft, drafted, copied, RecordStore.get_eq_ok.mpr source, ?_, stored⟩
    rw [Draft.id_book]
    exact faithful.identity resource draft.source source
  · intro act within changed
    exact commits_of_store sound within changed
  · intro id session resource field phase reply found fresh succeeds
    exact answer_of_fresh_read faithful sound found fresh succeeds

/-- A write of the only session up to the moment when the store takes its book. -/
def soloWrite : List Act :=
  [.enter "ann", .enlist ⟨0⟩, .issue 0 ⟨0⟩ (.write 7 .title "new"), .resume 0, .resume 0,
    .resume 0, .resume 0]

theorem no_update_is_lost_of_soloWrite :
    (∀ act ∈ soloWrite, act.isOutside = false) ∧ Act.openings soloWrite ≤ 2 ^ 64 ∧
      ∃ draft, ((start (.ofBooks [.titled 7 "old"])).ledger soloWrite).drafts ⟨0⟩ 7 = some draft ∧
        ((start (.ofBooks [.titled 7 "old"])).run soloWrite).store.get 7 = .ok draft.source := by
  have inside : ∀ act ∈ soloWrite, act.isOutside = false := by decide
  have few : Act.openings soloWrite ≤ 2 ^ 64 := by decide
  have commits : ((start (.ofBooks [.titled 7 "old"])).run soloWrite).Commits (.resume 0) ⟨0⟩ 7 :=
    ⟨0, .write 7 .title "new", .storing 7 ⟨7, "new", ""⟩, .book ⟨7, "new", ""⟩, rfl, by decide,
      rfl, by rfl⟩
  obtain ⟨draft, drafted, -, stored, -⟩ :=
    (no_update_is_lost [.titled 7 "old"] soloWrite inside few).1 _ _ _ commits
  exact ⟨inside, few, draft, drafted, stored⟩

end Manager

end RecordLocks
