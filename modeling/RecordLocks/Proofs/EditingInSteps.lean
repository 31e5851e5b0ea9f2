import RecordLocks.Proofs.Identity
import RecordLocks.Proofs.OneByOne
import RecordLocks.Proofs.SoloCalls
import RecordLocks.Proofs.WorkingCopies
namespace RecordLocks

/-- Asks for one more thing, if what was asked for before has been granted. -/
def goOn {σ : Type} (ask : σ → Request → Option Outcome × σ) :
    Option Outcome × σ → Request → Option Outcome × σ
  | (some (.ok _), state), request => ask state request
  | refused, _ => refused

/-- Asks for one thing after another, up to the first that is not granted. The last answer
counts. -/
def pursue {σ : Type} (ask : σ → Request → Option Outcome × σ) (state : σ) (first : Request)
    (rest : List Request) : Option Outcome × σ :=
  rest.foldl (goOn ask) (ask state first)

theorem pursue_of_refused {σ : Type} {ask : σ → Request → Option Outcome × σ} {state after : σ}
    {first : Request} {error : AccessError}
    (refused : ask state first = (some (.error error), after))
    (rest : List Request) : pursue ask state first rest = (some (.error error), after) := by
  rw [pursue, refused]
  induction rest with
  | nil => rfl
  | cons next rest ih => exact ih

/-- Of two books that are stored under one id the later one stays. -/
theorem RecordStore.put_put (store : RecordStore) {first second : Book}
    (same : first.id = second.id) : (store.put first).put second = store.put second := by
  simp [put, same]

namespace Manager

variable {manager : Manager} {id : CallId} {session : SessionId} {seat : Seat}
  {resource : ResourceId} {book copy : Book} {store : RecordStore}

theorem AtLeisure.setSession (leisure : manager.AtLeisure id session seat) (copies : Session) :
    (manager.setSession session seat copies).AtLeisure id session
      { seat with session := copies } :=
  ⟨leisure.fresh, by simp [Manager.setSession, setSeat, Index.get?_insert], leisure.line,
    leisure.listed, leisure.live⟩

theorem AtLeisure.committed (leisure : manager.AtLeisure id session seat) (edited : Book) :
    (manager.committed session seat resource edited).AtLeisure id session
      { seat with session := (seat.session.release resource).2 } :=
  ⟨leisure.fresh,
    by simp [Manager.committed, yielded, Manager.setSession, setSeat, Index.get?_insert],
    leisure.line, leisure.listed, leisure.live⟩

/-- Of a copy that is given up it does not matter what has been done to it. -/
theorem committed_setSession {copies : Session}
    (dropped : (copies.release resource).2 = (seat.session.release resource).2) :
    (manager.setSession session seat copies).committed session { seat with session := copies }
        resource book = manager.committed session seat resource book := by
  simp [committed, yielded, setSession, setSeat, record, release, applyLocks, dropped]

theorem holder_granted
    (free : ∀ holder, manager.locks.holder resource = some holder → holder = session) :
    (manager.acquire resource session).2.locks.holder resource = some session := by
  show (manager.locks.acquire resource session).table.holder resource = some session
  rw [LockTable.holder_acquire, if_pos rfl]
  cases held : manager.locks.holder resource with
  | none => rfl
  | some holder => rw [free holder held, Option.getD_some]

/-- A listed session of a manager without calls is at leisure. -/
theorem Sound.atLeisure (sound : manager.Sound) (quiet : manager.calls = ∅) (id : CallId)
    (listed : manager.listed? session = some seat) : manager.AtLeisure id session seat := by
  obtain ⟨seated, listed⟩ := Option.filter_eq_some_iff.mp listed
  have here := sound.seats session seat seated
  have idle : ¬ manager.Pending session := by
    rintro ⟨id, call, found, -⟩
    rw [quiet] at found
    cases found
  refine ⟨by rw [quiet]; rfl, seated, here.line_of_not_pending idle, listed, ?_⟩
  cases closed : seat.closed with
  | false => rfl
  | true =>
    have gone := (here.closed closed).1
    rw [listed] at gone
    cases gone

theorem setSession_setSession (copies edited : Session) :
    (manager.setSession session seat copies).setSession session { seat with session := copies }
      edited = manager.setSession session seat edited := by
  simp [setSession, setSeat]

/-- The session works on a copy of the record, which it has locked. -/
structure Working (manager : Manager) (id : CallId) (session : SessionId) (seat : Seat)
    (resource : ResourceId) (copy : Book) : Prop where
  leisure : manager.AtLeisure id session seat
  copied : seat.session.copy? resource = some copy
  held : manager.locks.holder resource = some session

/-- Edits change the copy and nothing else. -/
theorem Working.edits (working : manager.Working id session seat resource copy) (reply : Reply)
    (edits : List (BookField × String)) :
    ∃ last edited,
      (edits.map fun edit => Request.edit resource edit.1 edit.2).foldl
          (goOn fun manager request => manager.ask id session request)
          (some (.ok reply), manager) =
        (some (.ok last), manager.setSession session seat edited) ∧
      (edited.release resource).2 = (seat.session.release resource).2 ∧
      (manager.setSession session seat edited).Working id session { seat with session := edited }
        resource (copy.setAll edits) := by
  induction edits generalizing manager seat copy reply with
  | nil =>
    have same := setSession_same working.leisure.seated
    exact ⟨reply, seat.session, by rw [same]; rfl, rfl, by rw [same]; exact working⟩
  | cons edit rest ih =>
    obtain ⟨field, value⟩ := edit
    have asked := working.leisure.ask_edit working.copied field value
    have copied : (seat.session.edit resource field value).2.copy? resource =
        some (copy.set field value) := by
      simp [working.copied]
    have later : (manager.setSession session seat
        (seat.session.edit resource field value).2).Working id session
          { seat with session := (seat.session.edit resource field value).2 } resource
          (copy.set field value) :=
      ⟨working.leisure.setSession _, copied, working.held⟩
    obtain ⟨last, edited, run, dropped, ends⟩ := ih later (.book (copy.set field value))
    rw [setSession_setSession] at run ends
    refine ⟨last, edited, ?_, dropped.trans (seat.session.release_edit resource field value), ends⟩
    rw [List.map_cons, List.foldl_cons, goOn, asked]
    exact run

/-- A record that no other session has is checked out, edited and committed: what is committed is
the session's copy, or else the stored book, with all edits. -/
theorem AtLeisure.pursue_commit (leisure : manager.AtLeisure id session seat)
    (free : ∀ holder, manager.locks.holder resource = some holder → holder = session)
    (stored : manager.store.books.get? resource = some book)
    (named : ((seat.session.copy? resource).getD book).id = resource)
    (edits : List (BookField × String)) :
    pursue (fun manager request => manager.ask id session request) manager (.checkout resource)
        ((edits.map fun edit => Request.edit resource edit.1 edit.2) ++ [.commit resource]) =
      (some (.ok (.book (((seat.session.copy? resource).getD book).setAll edits))),
        (manager.acquire resource session).2.committed session seat resource
          (((seat.session.copy? resource).getD book).setAll edits)) := by
  have opened := leisure.ask_checkout free stored
  have working : ((manager.acquire resource session).2.setSession session seat
      (seat.session.checkout resource book).2).Working id session
      { seat with session := (seat.session.checkout resource book).2 } resource
      ((seat.session.copy? resource).getD book) :=
    ⟨(leisure.acquired resource).setSession _, by simp, holder_granted free⟩
  obtain ⟨last, edited, run, dropped, ends⟩ := working.edits
    (.book ((seat.session.copy? resource).getD book)) edits
  rw [setSession_setSession] at run ends
  have present : manager.store.contains
      (((seat.session.copy? resource).getD book).setAll edits).id = true :=
    RecordStore.contains_of_stored stored ((Book.id_setAll _ _).trans named)
  have closed := ends.leisure.ask_commit ends.copied ends.held present
  rw [pursue, opened, List.foldl_append, run, List.foldl_cons, List.foldl_nil, goOn, closed]
  rw [committed_setSession (dropped.trans (seat.session.release_checkout resource book))]

/-- A stored record that nobody has locked. -/
structure Offers (manager : Manager) (id : CallId) (session : SessionId) (seat : Seat)
    (resource : ResourceId) (book : Book) : Prop where
  leisure : manager.AtLeisure id session seat
  uncopied : seat.session.copy? resource = none
  free : manager.locks.holder resource = none
  stored : manager.store.books.get? resource = some book
  named : book.id = resource

/-- A record that has been written is as free as it was before. -/
theorem Offers.write (offers : manager.Offers id session seat resource book)
    (field : BookField) (value : String) :
    ∃ after, manager.ask id session (.write resource field value) =
        (some (.ok (.book (book.set field value))), after) ∧
      after.store = manager.store.put (book.set field value) ∧
      after.Offers id session { seat with session := (seat.session.release resource).2 } resource
        (book.set field value) := by
  have free := free_of_unlocked offers.free session
  have present : manager.store.contains (book.set field value).id = true :=
    RecordStore.contains_of_stored offers.stored ((Book.id_set _ _ _).trans offers.named)
  have edited : book.set field value =
      ((seat.session.copy? resource).getD book).set field value := by
    rw [offers.uncopied, Option.getD_none]
  refine ⟨_, offers.leisure.ask_write free offers.stored field value edited present, rfl,
    (offers.leisure.acquired resource).committed _, by simp, ?_, ?_, ?_⟩
  · have held := holder_granted free
    show (LockTable.release _ resource session).table.holder resource = none
    rw [LockTable.holder_release]
    exact if_pos ⟨rfl, held⟩
  · show (manager.store.put (book.set field value)).books.get? resource = _
    rw [RecordStore.get?_put, Book.id_set, offers.named, if_pos rfl]
  · rw [Book.id_set, offers.named]

/-- Writes come one after another, each on the book that the one before it has stored. -/
theorem Offers.writes (offers : manager.Offers id session seat resource book)
    (last : manager.store = store.put book) (edits : List (BookField × String)) :
    ∃ after, (edits.map fun edit => Request.write resource edit.1 edit.2).foldl
        (goOn fun manager request => manager.ask id session request)
        (some (.ok (.book book)), manager) =
          (some (.ok (.book (book.setAll edits))), after) ∧
      after.store = store.put (book.setAll edits) := by
  induction edits generalizing manager seat book with
  | nil => exact ⟨manager, rfl, last⟩
  | cons edit rest ih =>
    obtain ⟨field, value⟩ := edit
    obtain ⟨after, asked, replaced, further⟩ := offers.write field value
    have same : book.id = (book.set field value).id := (book.id_set field value).symm
    rw [last, store.put_put same] at replaced
    obtain ⟨end_, run, ends⟩ := ih further replaced
    refine ⟨end_, ?_, ends⟩
    rw [List.map_cons, List.foldl_cons, goOn, asked]
    exact run

theorem Sound.offers (sound : manager.Sound) (quiet : manager.calls = ∅)
    (identified : manager.Identified) (id : CallId)
    (listed : manager.listed? session = some seat)
    (stored : manager.store.books.get? resource = some book)
    (free : manager.locks.holder resource = none) :
    manager.Offers id session seat resource book := by
  have leisure := sound.atLeisure quiet id listed
  have uncopied : seat.session.copy? resource = none := by
    cases copied : seat.session.copy? resource with
    | none => rfl
    | some copy =>
      have held := (sound.seats session seat leisure.seated).held_of_copy (by rw [copied]; rfl)
      rw [free] at held
      cases held
  exact ⟨leisure, uncopied, free, stored, identified.stored resource book stored⟩

/-- The edits between a checkout and a commit are stored together. -/
theorem Offers.pursue_commit (offers : manager.Offers id session seat resource book)
    (edits : List (BookField × String)) :
    ∃ after, pursue (fun manager request => manager.ask id session request) manager
        (.checkout resource)
        ((edits.map fun edit => .edit resource edit.1 edit.2) ++ [.commit resource]) =
          (some (.ok (.book (book.setAll edits))), after) ∧
      after.store = manager.store.put (book.setAll edits) := by
  have unlocked := free_of_unlocked offers.free session
  have named : ((seat.session.copy? resource).getD book).id = resource := by
    rw [offers.uncopied]
    exact offers.named
  have steps := offers.leisure.pursue_commit unlocked offers.stored named edits
  rw [offers.uncopied, Option.getD_none] at steps
  exact ⟨_, steps, rfl⟩

/-- A checkout, an edit and a commit do what a write does, also when they are refused. -/
theorem Sound.pursue_eq_write (sound : manager.Sound) (quiet : manager.calls = ∅)
    (identified : manager.Identified) (id : CallId) (session : SessionId) (resource : ResourceId)
    (field : BookField) (value : String) :
    pursue (fun manager request => manager.ask id session request) manager (.checkout resource)
        [.edit resource field value, .commit resource] =
      manager.ask id session (.write resource field value) := by
  cases listed : manager.listed? session with
  | none =>
    have fresh : manager.calls.get? id = none := by rw [quiet]; rfl
    have unlisted : (manager.listed? session).isSome = false := by rw [listed]; rfl
    rw [ask_of_unlisted fresh unlisted]
    exact pursue_of_refused (ask_of_unlisted fresh unlisted _) _
  | some seat =>
    have leisure := sound.atLeisure quiet id listed
    by_cases contended : ∃ holder, manager.locks.holder resource = some holder ∧ holder ≠ session
    · obtain ⟨holder, held, foreign⟩ := contended
      rw [leisure.ask_contended rfl held foreign]
      exact pursue_of_refused (leisure.ask_contended rfl held foreign) _
    · have free : ∀ holder, manager.locks.holder resource = some holder → holder = session := by
        intro holder held
        by_contra foreign
        exact contended ⟨holder, held, foreign⟩
      cases stored : manager.store.books.get? resource with
      | none =>
        rw [leisure.ask_vanished rfl free stored]
        exact pursue_of_refused (leisure.ask_vanished rfl free stored) _
      | some book =>
        have named : ((seat.session.copy? resource).getD book).id = resource := by
          cases copied : seat.session.copy? resource with
          | none => exact identified.stored resource book stored
          | some copy =>
            apply identified.copied session resource copy
            rw [copy?_of_seat leisure.seated, copied]
        have present : manager.store.contains
            (((seat.session.copy? resource).getD book).set field value).id = true :=
          RecordStore.contains_of_stored stored ((Book.id_set _ _ _).trans named)
        rw [leisure.ask_write free stored field value rfl present]
        exact leisure.pursue_commit free stored named [(field, value)]

end Manager

namespace Timeline

variable {timeline : Timeline}

def outcome? : Option Ending → Option Outcome
  | some (.answered outcome) => some outcome
  | _ => none

/-- Asks and waits for the outcome. -/
def askFor (id : CallId) (session : SessionId) (timeline : Timeline) (request : Request) :
    Option Outcome × Timeline :=
  let (ending, after) := timeline.ask id session request
  (outcome? ending, after)

/-- By the clock the requests that are asked one after another are answered as they are without
one. -/
theorem Idle.pursue (idle : timeline.Idle) (id : CallId) (session : SessionId) (first : Request)
    (rest : List Request) :
    (RecordLocks.pursue (askFor id session) timeline first rest).1 =
        (RecordLocks.pursue (fun manager request => manager.ask id session request)
          timeline.manager first rest).1 ∧
      (RecordLocks.pursue (askFor id session) timeline first rest).2.manager =
        (RecordLocks.pursue (fun manager request => manager.ask id session request)
          timeline.manager first rest).2 := by
  -- What is told is the same after each request, and the timeline is idle again.
  have asks : ∀ {timeline : Timeline}, timeline.Idle → ∀ request,
      (askFor id session timeline request).1 = (timeline.manager.ask id session request).1 ∧
      (askFor id session timeline request).2.manager =
        (timeline.manager.ask id session request).2 ∧
      (askFor id session timeline request).2.Idle := by
    intro timeline idle request
    obtain ⟨later, same, told⟩ := idle.ask id session request
    refine ⟨?_, same, later⟩
    show outcome? (timeline.ask id session request).1 = _
    rw [told]
    cases (timeline.manager.ask id session request).1 <;> rfl
  -- By induction on the requests that are left, from any pair of ends that are alike.
  have goes : ∀ (timed : Option Outcome × Timeline) (untimed : Option Outcome × Manager),
      timed.1 = untimed.1 ∧ timed.2.manager = untimed.2 ∧ timed.2.Idle →
      (rest.foldl (goOn (askFor id session)) timed).1 =
          (rest.foldl (goOn fun manager request => manager.ask id session request) untimed).1 ∧
        (rest.foldl (goOn (askFor id session)) timed).2.manager =
          (rest.foldl (goOn fun manager request => manager.ask id session request) untimed).2 := by
    induction rest with
    | nil => exact fun timed untimed alike => ⟨alike.1, alike.2.1⟩
    | cons next rest ih =>
      rintro ⟨told, timeline⟩ ⟨_, _⟩ ⟨rfl, rfl, idle⟩
      rw [List.foldl_cons, List.foldl_cons]
      apply ih
      match told with
      | some (.ok _) => exact asks idle next
      | some (.error _) => exact ⟨rfl, rfl, idle⟩
      | none => exact ⟨rfl, rfl, idle⟩
  exact goes _ _ (asks idle first)

end Timeline

/-- In a manager that any run leaves without calls, a checkout, an edit and a commit, up to the
first that is refused, come to the same as a write: the last answer is the answer of the write, and
the stored books, the locks, the sessions with their copies and what has been recorded are the same
afterwards. This is so for any session, listed or not, for any record, stored or not, and whoever
has it locked, with or without a copy. Where a listed session edits a stored record that nobody has
locked, it may put any number of edits between the checkout and the commit: the book that is stored
and answered in the end is that of as many writes one after another. By the clock all is as it is
without one, for any latency. -/
theorem editing_in_steps_is_writing (books : List Book) (history : List Act)
    (few : Act.openings history ≤ 2 ^ 64)
    (quiet : ((Manager.start (.ofBooks books)).run history).calls = ∅) (id : CallId)
    (session : SessionId) (resource : ResourceId) :
    let manager := (Manager.start (.ofBooks books)).run history
    let ask := fun (manager : Manager) request => manager.ask id session request
    (∀ field value,
      (∃ outcome, (ask manager (.write resource field value)).1 = some outcome) ∧
      pursue ask manager (.checkout resource) [.edit resource field value, .commit resource] =
        ask manager (.write resource field value)) ∧
    (∀ book field value edits, (manager.listed? session).isSome →
      manager.store.books.get? resource = some book → manager.locks.holder resource = none →
      let edited := (book.set field value).setAll edits
      let inSteps := pursue ask manager (.checkout resource)
        (.edit resource field value ::
          (edits.map fun edit => .edit resource edit.1 edit.2) ++ [.commit resource])
      let oneByOne := pursue ask manager (.write resource field value)
        (edits.map fun edit => .write resource edit.1 edit.2)
      inSteps.1 = some (.ok (.book edited)) ∧ oneByOne.1 = some (.ok (.book edited)) ∧
        inSteps.2.store = oneByOne.2.store ∧ inSteps.2.store.get resource = .ok edited) ∧
    ∀ latency now first rest,
      let timeline := Timeline.mk latency now manager ∅ [] []
      let timed := pursue (Timeline.askFor id session) timeline first rest
      timed.1 = (pursue ask manager first rest).1 ∧
        timed.2.manager = (pursue ask manager first rest).2 := by
  intro manager ask
  have sound : manager.Sound := (Manager.sound_run (.ofBooks books) history few).1
  have identified : manager.Identified := Manager.identified_run books history few
  refine ⟨?_, ?_, ?_⟩
  · intro field value
    obtain ⟨outcome, answered, -⟩ :=
      Manager.ask_quiet sound quiet id session (.write resource field value)
    exact ⟨⟨outcome, answered⟩,
      sound.pursue_eq_write quiet identified id session resource field value⟩
  · intro book field value edits listed stored free edited inSteps oneByOne
    obtain ⟨seat, listed⟩ := Option.isSome_iff_exists.mp listed
    have offers := sound.offers quiet identified id listed stored free
    have named : book.id = resource := offers.named
    obtain ⟨committed, steps, replacing⟩ := offers.pursue_commit ((field, value) :: edits)
    have steps : inSteps = (some (.ok (.book edited)), committed) := steps
    obtain ⟨first, asked, replaced, further⟩ := offers.write field value
    obtain ⟨last, run, ends⟩ := further.writes replaced edits
    have writes : oneByOne = (some (.ok (.book edited)), last) := by
      show (edits.map _).foldl _ (manager.ask id session _) = _
      rw [asked]
      exact run
    rw [steps, writes]
    refine ⟨rfl, rfl, replacing.trans ends.symm, ?_⟩
    show committed.store.get resource = .ok edited
    rw [show committed.store = manager.store.put edited from replacing, RecordStore.get_eq_ok,
      RecordStore.get?_put, Book.id_setAll, Book.id_set, named, if_pos rfl]
  · intro latency now first rest timeline timed
    have idle : timeline.Idle := ⟨Timeline.atRest_of_quiet sound quiet latency now [], quiet, rfl⟩
    exact idle.pursue id session first rest

/-- A session has a copy of the record whose author it has edited. -/
def annHasDraft : List Act :=
  [.enter "ann", .enlist ⟨0⟩, .issue 0 ⟨0⟩ (.checkout 7), .resume 0, .resume 0, .resume 0,
    .issue 0 ⟨0⟩ (.edit 7 .author "ann"), .resume 0, .resume 0]

theorem editing_in_steps_is_writing_of_annHasDraft :
    Act.openings annHasDraft ≤ 2 ^ 64 ∧
      ((Manager.start (.ofBooks [.titled 7 "old"])).run annHasDraft).calls = ∅ ∧
      (pursue (Timeline.askFor 1 ⟨0⟩)
        (.mk ⟨4, 3, 2, 1⟩ 0 ((Manager.start (.ofBooks [.titled 7 "old"])).run annHasDraft) ∅ [] [])
        (.checkout 7) [.edit 7 .title "new", .commit 7]).1 =
          some (.ok (.book ⟨7, "new", "ann"⟩)) := by
  have few : Act.openings annHasDraft ≤ 2 ^ 64 := by decide
  have quiet : ((Manager.start (.ofBooks [.titled 7 "old"])).run annHasDraft).calls = ∅ := by decide
  obtain ⟨single, -, clocked⟩ :=
    editing_in_steps_is_writing [.titled 7 "old"] annHasDraft few quiet 1 ⟨0⟩ 7
  refine ⟨few, quiet, (clocked ⟨4, 3, 2, 1⟩ 0 _ _).1.trans ?_⟩
  rw [(single .title "new").2]
  decide

end RecordLocks
