import RecordLocks.Proofs.AuditTrail
import RecordLocks.Proofs.Identity
import RecordLocks.Proofs.LostUpdate
namespace RecordLocks

/-- The session and the record of a commit. -/
def Notice.commit? : Notice → Option (SessionId × ResourceId)
  | committed session resource => some (session, resource)
  | _ => none

/-- The trail ends within a tenure: the session has taken the lock, and nobody has given it back
since. -/
def InTenure (trail : List Notice) (resource : ResourceId) (session : SessionId) : Prop :=
  ∃ before within, trail = before ++ .lockAcquired resource session :: within ∧
    ∀ holder, .lockReleased resource holder ∉ within

/-- Each commit is made by the holder of the lock, and the lock is given back at once. -/
def CommitsHeld (trail : List Notice) : Prop :=
  ∀ earlier session resource later, trail = earlier ++ .committed session resource :: later →
    (LockTable.replay earlier).holder resource = some session ∧
      ∃ rest, later = .lockReleased resource session :: rest

variable {trail notices earlier later before within after : List Notice} {notice : Notice}
  {resource : ResourceId} {session : SessionId} {table : LockTable} {refusals : List Refusal}

theorem InTenure.append_singleton (tenure : InTenure trail resource session)
    (kept : ∀ holder, notice ≠ .lockReleased resource holder) :
    InTenure (trail ++ [notice]) resource session := by
  obtain ⟨before, within, rfl, quiet⟩ := tenure
  refine ⟨before, within ++ [notice], by simp, ?_⟩
  intro holder member
  rcases List.mem_append.mp member with earlier | last
  · exact quiet holder earlier
  · exact kept holder (List.mem_singleton.mp last).symm

/-- Who holds a lock at the end of a trail is in a tenure of it. -/
theorem inTenure_of_holder (held : (LockTable.replay trail).holder resource = some session) :
    InTenure trail resource session := by
  induction trail using List.reverseRecOn with
  | nil => cases held
  | append_singleton earlier notice ih =>
    rw [LockTable.replay_append_singleton] at held
    cases notice with
    | lockAcquired other holder =>
      rw [LockTable.holder_redo_acquired] at held
      split at held
      · rename_i same
        cases held
        subst same
        exact ⟨earlier, [], rfl, fun _ => List.not_mem_nil⟩
      · exact (ih held).append_singleton (by simp)
    | lockReleased other holder =>
      rw [LockTable.holder_redo_released] at held
      split at held
      · cases held
      · rename_i different
        exact (ih held).append_singleton (by simp [different])
    | lockContention | sessionStarted | sessionRemoved | committed | discarded =>
      exact (ih held).append_singleton (by simp)

/-- A lock that was taken and not given back is still held, for nobody else can have taken it. -/
theorem Audited.holder_of_kept (audited : Audited table trail refusals)
    (split : trail = before ++ .lockAcquired resource session :: (within ++ after))
    (kept : ∀ holder, .lockReleased resource holder ∉ within) :
    (LockTable.replay (before ++ .lockAcquired resource session :: within)).holder resource =
      some session := by
  induction within using List.reverseRecOn generalizing after with
  | nil =>
    rw [LockTable.replay_append_singleton, LockTable.holder_redo_acquired, if_pos rfl]
  | append_singleton body notice ih =>
    have held := ih (by simpa using split) fun holder member => kept holder (by simp [member])
    rw [← List.cons_append, ← List.append_assoc, LockTable.replay_append_singleton]
    cases notice with
    | lockAcquired other holder =>
      rw [LockTable.holder_redo_acquired]
      split
      · rename_i same
        subst same
        have free := audited.admits (before ++ .lockAcquired other session :: body)
          (.lockAcquired other holder) after (by simpa using split)
        rw [LockTable.Admits, held] at free
        cases free
      · exact held
    | lockReleased other holder =>
      rw [LockTable.holder_redo_released]
      split
      · rename_i same
        subst same
        exact absurd (by simp) (kept holder)
      · exact held
    | lockContention | sessionStarted | sessionRemoved | committed | discarded => exact held

namespace CommitsHeld

theorem nil : CommitsHeld [] := by
  intro earlier session resource later split
  simp at split

/-- A trail that is carried on keeps its commits; only the new ones are to be looked at. -/
theorem append (commits : CommitsHeld trail)
    (new : ∀ earlier session resource later,
      notices = earlier ++ .committed session resource :: later →
      (LockTable.replay (trail ++ earlier)).holder resource = some session ∧
        ∃ rest, later = .lockReleased resource session :: rest) :
    CommitsHeld (trail ++ notices) := by
  intro earlier session resource later split
  rcases List.append_eq_append_iff.mp split with ⟨start, rfl, rest⟩ | ⟨rest, whole, tail⟩
  · exact new start session resource later rest
  · cases rest with
    | nil =>
      rw [List.append_nil] at whole
      subst whole
      simpa using new [] session resource later tail.symm
    | cons first rest =>
      obtain ⟨rfl, rfl⟩ := List.cons.inj tail
      obtain ⟨held, others, rfl⟩ := commits earlier session resource rest whole
      exact ⟨held, others ++ notices, rfl⟩

theorem append_quiet (commits : CommitsHeld trail)
    (quiet : notices.filterMap Notice.commit? = []) : CommitsHeld (trail ++ notices) := by
  apply commits.append
  rintro earlier session resource later rfl
  simp [Notice.commit?] at quiet

/-- The holder of the lock commits and gives the lock back. -/
theorem append_commit (commits : CommitsHeld trail)
    (held : (LockTable.replay trail).holder resource = some session) :
    CommitsHeld (trail ++ [.committed session resource, .lockReleased resource session]) := by
  apply commits.append
  intro earlier other asked later split
  cases earlier with
  | nil =>
    cases split
    exact ⟨by simpa using held, [], rfl⟩
  | cons first rest =>
    obtain ⟨-, tail⟩ := List.cons.inj split
    simp [List.singleton_eq_append_iff] at tail

/-- A commit is the last entry before the lock is given back. -/
theorem last_of_kept (commits : CommitsHeld trail)
    (split : trail = earlier ++ .committed session resource :: (within ++ after))
    (kept : ∀ holder, .lockReleased resource holder ∉ within) :
    within = [] ∧ ∃ rest, after = .lockReleased resource session :: rest := by
  obtain ⟨-, rest, later⟩ := commits earlier session resource (within ++ after) split
  cases within with
  | nil => exact ⟨rfl, rest, later⟩
  | cons first others =>
    cases later
    exact absurd (List.mem_cons_self) (kept session)

/-- A tenure has only one commit, by its own session, and ends right after it. -/
theorem only_one {body tail : List Notice} {committer : SessionId} (commits : CommitsHeld trail)
    (audited : Audited table trail refusals)
    (split : trail = before ++ .lockAcquired resource session ::
      ((body ++ .committed committer resource :: tail) ++ after))
    (kept : ∀ holder,
      .lockReleased resource holder ∉ body ++ .committed committer resource :: tail) :
    committer = session ∧ tail = [] ∧ (∃ rest, after = .lockReleased resource session :: rest) ∧
      ∀ other, .committed other resource ∉ body := by
  have here : trail = (before ++ .lockAcquired resource session :: body) ++
      .committed committer resource :: (tail ++ after) := by simpa using split
  obtain ⟨rfl, rest, rfl⟩ := commits.last_of_kept here fun holder member =>
    kept holder (by simp [member])
  have held := audited.holder_of_kept (by simpa using here) fun holder member =>
    kept holder (by simp [member])
  have own : committer = session := by
    rw [(commits _ _ _ _ here).1] at held
    exact Option.some.inj held
  subst own
  refine ⟨rfl, rfl, ⟨rest, rfl⟩, ?_⟩
  intro other member
  obtain ⟨start, others, rfl⟩ := List.append_of_mem member
  have early : trail = (before ++ .lockAcquired resource committer :: start) ++
      .committed other resource :: ((others ++ [.committed committer resource]) ++
        .lockReleased resource committer :: rest) := by
    simpa using here
  obtain ⟨none, -⟩ := commits.last_of_kept early fun holder member =>
    kept holder (by simp at member; simp [member])
  simp at none

end CommitsHeld

/-- A book that a session has put in the place of the stored one. -/
structure Replacement where
  session : SessionId
  resource : ResourceId
  book : Book
  deriving DecidableEq, Repr

namespace Manager

/-- The replacement that an act makes: a write or a commit waits for the store, and the store
takes its book. -/
def replacements (manager : Manager) : Act → List Replacement
  | .resume id =>
    match manager.calls.get? id with
    | some ⟨session, _, .storing resource edited⟩ =>
      if manager.store.contains edited.id then [⟨session, resource, edited⟩] else []
    | _ => []
  | _ => []

/-- The replacement, with the entries that tell of it: the commit by the holder of the lock, and
the release. -/
def TellsReplacement (manager : Manager) (made : Replacement) (notices : List Notice) : Prop :=
  manager.locks.holder made.resource = some made.session ∧
    notices = [.committed made.session made.resource, .lockReleased made.resource made.session]

/-- What an act tells of commits, puts into the store and answers to writes and commits is one
and the same. -/
structure TellsCommits (manager : Manager) (act : Act) : Prop where
  trail : ∃ notices, (manager.step act).trail = manager.trail ++ notices ∧
    (manager.replacements act = [] ∧ notices.filterMap Notice.commit? = [] ∨
      ∃ made, manager.replacements act = [made] ∧ manager.TellsReplacement made notices)
  store : act.isOutside = false → (manager.step act).store =
    (manager.replacements act).foldl (fun store made => store.put made.book) manager.store
  placed : ∀ made ∈ manager.replacements act,
    made.book.id = made.resource ∧ manager.store.contains made.resource
  answered : ∀ session resource, manager.Commits act session resource ↔
    ∃ book, ⟨session, resource, book⟩ ∈ manager.replacements act

variable {manager after : Manager} {id : CallId} {request : Request} {phase : Phase} {seat : Seat}

/-- An act that replaces no book tells of no commit and answers none. -/
theorem TellsCommits.of_quiet {act : Act} {notices : List Notice}
    (none : manager.replacements act = [])
    (trail : (manager.step act).trail = manager.trail ++ notices)
    (quiet : notices.filterMap Notice.commit? = [])
    (store : act.isOutside = false → (manager.step act).store = manager.store)
    (fails : ∀ session resource, ¬ manager.Commits act session resource) :
    manager.TellsCommits act := by
  constructor
  · exact ⟨notices, trail, .inl ⟨none, quiet⟩⟩
  · intro inside
    rw [store inside, none]
    rfl
  · rw [none]
    intro made member
    cases member
  · intro session resource
    rw [none]
    constructor
    · intro commits
      exact absurd commits (fails session resource)
    · rintro ⟨book, member⟩
      cases member

theorem TellsCommits.held {act : Act} (tells : manager.TellsCommits act)
    (commits : CommitsHeld manager.trail)
    (replays : LockTable.replay manager.trail = manager.locks) :
    CommitsHeld (manager.step act).trail := by
  obtain ⟨notices, trail, ⟨-, quiet⟩ | ⟨made, -, held, rfl⟩⟩ := tells.trail
  · rw [trail]
    exact commits.append_quiet quiet
  · rw [trail]
    exact commits.append_commit (by rw [replays, held])

theorem TellsCommits.told {act : Act} (tells : manager.TellsCommits act) :
    (manager.step act).trail.filterMap Notice.commit? =
      manager.trail.filterMap Notice.commit? ++
        (manager.replacements act).map fun made => (made.session, made.resource) := by
  obtain ⟨notices, trail, ⟨none, quiet⟩ | ⟨made, one, -, rfl⟩⟩ := tells.trail
  · rw [trail, List.filterMap_append, quiet, none]
    rfl
  · rw [trail, List.filterMap_append, one]
    rfl

theorem not_commits_of_aside {act : Act} (aside : ∀ id, act ≠ .resume id) (session : SessionId)
    (resource : ResourceId) : ¬ manager.Commits act session resource := by
  rintro ⟨id, request, phase, reply, rfl, -⟩
  exact aside id rfl

/-- Giving a lock back tells of no commit. -/
theorem quiet_release (table : LockTable) (resource : ResourceId) (owner : SessionId) :
    (table.release resource owner).notices.filterMap Notice.commit? = [] := by
  simp only [LockTable.release]
  split <;> rfl

/-- A call that is resumed tells of no commit, or the store takes its book. -/
theorem Advance.commit_cases (fits : Call.Fits ⟨session, request, phase⟩)
    {outcome : Option Outcome}
    (advanced : Advance manager id session seat request phase outcome after) :
    (∃ notices, after.trail = manager.trail ++ notices ∧
        notices.filterMap Notice.commit? = [] ∧ after.store = manager.store ∧
        (∀ resource edited, phase = .storing resource edited →
          manager.store.contains edited.id = false) ∧
        ∀ reply, outcome = some (.ok reply) → request.stores? = none) ∨
      ∃ resource edited, phase = .storing resource edited ∧
        manager.store.contains edited.id = true ∧ request.stores? = some resource ∧
        outcome = some (.ok (.book edited)) ∧ after.store = manager.store.put edited ∧
        after.trail = manager.trail ++
          .committed session resource :: (manager.locks.release resource session).notices := by
  cases advanced with
  | queued | behind | committing | worked | loadedToWrite | loadedToRead =>
    left
    exact ⟨[], by simp, rfl, rfl, by simp, by simp⟩
  | shut | notCheckedOut =>
    left
    exact ⟨[], by simp, rfl, by simp, by simp, by simp⟩
  | told | edited | checkedOut =>
    left
    exact ⟨[], by simp, rfl, by simp, by simp, fun _ _ => rfl⟩
  | removed =>
    left
    refine ⟨(manager.locks.heldBy session).map (.lockReleased · session) ++
      [.sessionRemoved session (manager.locks.heldBy session)], ?_, ?_, ?_, by simp,
      fun _ _ => rfl⟩
    · simp
    · simp [Notice.commit?, List.filterMap_map, Function.comp_def]
    · simp
  | @contended request resource holder =>
    left
    exact ⟨[.lockContention resource holder session], by simp, rfl, by simp, by simp, by simp⟩
  | @opened request resource head live opens free =>
    left
    refine ⟨(manager.locks.acquire resource session).notices, rfl, ?_, rfl, by simp, by simp⟩
    simp only [LockTable.acquire]
    split
    · rfl
    · split <;> rfl
  | @discarded resource =>
    left
    refine ⟨(manager.locks.release resource session).notices ++ [.discarded session resource],
      by simp, ?_, by simp, by simp, fun _ _ => rfl⟩
    rw [List.filterMap_append, quiet_release]
    rfl
  | @nothingDiscarded resource =>
    left
    exact ⟨_, by simp, quiet_release manager.locks resource session, by simp, by simp,
      fun _ _ => rfl⟩
  | @vanished request resource =>
    left
    exact ⟨_, by simp, quiet_release manager.locks resource session, by simp, by simp, by simp⟩
  | @readDone request resource =>
    left
    cases fits
    exact ⟨_, by simp, quiet_release manager.locks resource session, by simp, by simp,
      fun _ _ => rfl⟩
  | @refused request resource edited missing =>
    left
    refine ⟨_, by simp, quiet_release manager.locks resource session, by simp, ?_, by simp⟩
    rintro asked book ⟨⟩
    rw [RecordStore.contains, Index.contains, missing]
    rfl
  | @stored request resource edited old present =>
    right
    refine ⟨resource, edited, rfl, ?_, ?_, rfl, by simp, by simp⟩
    · rw [RecordStore.contains, Index.contains, present]
      rfl
    · rcases fits with ⟨field, value, rfl⟩ | rfl <;> rfl

theorem tells_commits_resume (sound : manager.Sound) (identified : manager.Identified)
    (found : manager.calls.get? id = some ⟨session, request, phase⟩) :
    manager.TellsCommits (.resume id) := by
  obtain ⟨seat, seated⟩ := sound.seated id _ found
  have here := sound.seats session seat seated
  rcases (resume_advance sound found seated).commit_cases (sound.fits id _ found) with
    ⟨notices, trail, quiet, store, refused, fails⟩ |
    ⟨resource, edited, rfl, present, stores, answer, store, trail⟩
  · have none : manager.replacements (.resume id) = [] := by
      cases phase with
      | arriving | waiting | loading | writing | reading => simp [replacements, found]
      | storing resource edited => simp [replacements, found, refused resource edited rfl]
    apply TellsCommits.of_quiet none trail quiet
    · exact fun _ => store
    · rintro caller asked ⟨_, _, _, reply, ⟨⟩, same, stores, succeeds⟩
      rw [found] at same
      cases same
      rw [fails reply succeeds] at stores
      cases stores
  · have made : manager.replacements (.resume id) = [⟨session, resource, edited⟩] := by
      simp [replacements, found, present]
    have head := here.line.head_of_phase found rfl (by simp) (by simp)
    have tally := here.tally_served head found
    have held : manager.locks.holder resource = some session := tally.held_of_window rfl
    have named : edited.id = resource := identified.id_storing sound found
    rw [LockTable.release_of_own held] at trail
    constructor
    · exact ⟨_, trail, .inr ⟨_, made, held, rfl⟩⟩
    · intro inside
      rw [step, store, made]
      rfl
    · rw [made]
      intro other member
      rw [List.mem_singleton.mp member]
      exact ⟨named, named ▸ present⟩
    · intro caller asked
      rw [made]
      constructor
      · rintro ⟨_, _, _, reply, ⟨⟩, same, into, -⟩
        rw [found] at same
        cases same
        rw [stores] at into
        cases into
        exact ⟨edited, List.mem_singleton_self _⟩
      · rintro ⟨book, member⟩
        cases List.mem_singleton.mp member
        exact ⟨id, request, _, .book edited, rfl, found, stores, answer⟩

theorem tells_commits (sound : manager.Sound) (identified : manager.Identified) (act : Act) :
    manager.TellsCommits act := by
  cases act with
  | enter | turnAway =>
    exact .of_quiet rfl (List.append_nil _).symm rfl (fun _ => rfl) (not_commits_of_aside (by simp))
  | store change =>
    apply TellsCommits.of_quiet rfl (List.append_nil _).symm rfl _ (not_commits_of_aside (by simp))
    intro inside
    cases inside
  | enlist entrant =>
    cases entered : manager.entrants.get? entrant with
    | none =>
      have same : manager.enlist entrant = manager := by rw [enlist, entered]
      exact .of_quiet rfl (by rw [step, same, List.append_nil]) rfl (fun _ => by rw [step, same])
        (not_commits_of_aside (by simp))
    | some user =>
      have trail : (manager.enlist entrant).trail =
          manager.trail ++ [.sessionStarted entrant user] := by
        rw [enlist_of_entrant entered]
        rfl
      exact .of_quiet rfl trail rfl (fun _ => store_enlist manager entrant)
        (not_commits_of_aside (by simp))
  | issue id caller request =>
    have trail : (manager.issue id caller request).2.trail = manager.trail ++ [] := by
      rw [trail_issue, List.append_nil]
    exact .of_quiet rfl trail rfl (fun _ => store_issue manager id caller request)
      (not_commits_of_aside (by simp))
  | resume id =>
    cases found : manager.calls.get? id with
    | none =>
      have none : manager.replacements (.resume id) = [] := by simp [replacements, found]
      have same : manager.step (.resume id) = manager := by rw [step, resume_of_none found]
      apply TellsCommits.of_quiet none (by rw [same, List.append_nil]) rfl (fun _ => by rw [same])
      rintro caller asked ⟨_, _, _, reply, ⟨⟩, there, -⟩
      rw [found] at there
      cases there
    | some call => exact tells_commits_resume sound identified found
  | cancel id =>
    have trail : ∃ notices, (manager.cancel id).trail = manager.trail ++ notices ∧
        notices.filterMap Notice.commit? = [] := by
      cases found : manager.calls.get? id with
      | none => exact ⟨[], by rw [cancel_of_none found, List.append_nil], rfl⟩
      | some call =>
        cases opened : call.phase.window? with
        | none => exact ⟨[], by simp [cancel_of_outside found opened], rfl⟩
        | some resource =>
          exact ⟨_, by simp [cancel_of_window found opened],
            quiet_release manager.locks resource call.session⟩
    obtain ⟨notices, trail, quiet⟩ := trail
    exact .of_quiet rfl trail quiet (fun _ => store_cancel manager id)
      (not_commits_of_aside (by simp))

theorem commits_held_run (books : List Book) (acts : List Act)
    (few : Act.openings acts ≤ 2 ^ 64) :
    CommitsHeld ((start (.ofBooks books)).run acts).trail ∧
      ((start (.ofBooks books)).run acts).trail.filterMap Notice.commit? =
        (along step replacements (start (.ofBooks books)) acts).map
          fun made => (made.session, made.resource) := by
  apply run_induction (.ofBooks books) ⟨.nil, rfl⟩ _ acts few
  rintro earlier act before sound ⟨commits, told⟩
  have tells := tells_commits sound (identified_run books earlier before) act
  rw [run_append, run_singleton]
  constructor
  · exact tells.held commits (audited_run (.ofBooks books) earlier).replays
  · rw [tells.told, told, along_append_singleton, List.map_append]
    rfl

/-- Every commit in the trail lies in a tenure of its session's lock and is the last entry before
the lock is given back, so no tenure has two of them. The commits are, in this order, the
replacements of books that writes and commits make: an act tells of a commit exactly if it ends a
write or a commit with success, and exactly then it puts a book in the place of the stored one. -/
theorem commits_lie_in_tenures (books : List Book) (acts : List Act)
    (few : Act.openings acts ≤ 2 ^ 64) :
    let first := start (.ofBooks books)
    let trail := (first.run acts).trail
    (∀ earlier session resource later, trail = earlier ++ .committed session resource :: later →
      InTenure earlier resource session ∧
        ∃ rest, later = .lockReleased resource session :: rest) ∧
    (∀ before session resource within after,
      trail = before ++ .lockAcquired resource session :: (within ++ after) →
      (∀ holder, .lockReleased resource holder ∉ within) →
      ∀ body committer tail, within = body ++ .committed committer resource :: tail →
        committer = session ∧ tail = [] ∧ (∃ rest, after = .lockReleased resource session :: rest) ∧
          ∀ other, .committed other resource ∉ body) ∧
    trail.filterMap Notice.commit? =
      (along step replacements first acts).map (fun made => (made.session, made.resource)) ∧
    ∀ earlier act later, acts = earlier ++ act :: later → (first.run earlier).TellsCommits act := by
  intro first trail
  obtain ⟨commits, told⟩ := commits_held_run books acts few
  have audited := audited_run (.ofBooks books) acts
  refine ⟨?_, ?_, told, ?_⟩
  · intro earlier session resource later split
    obtain ⟨held, released⟩ := commits earlier session resource later split
    exact ⟨inTenure_of_holder held, released⟩
  · rintro before session resource _ after split kept body committer tail rfl
    exact commits.only_one audited split kept
  · rintro earlier act later rfl
    rw [Act.openings_append] at few
    exact tells_commits (sound_run (.ofBooks books) earlier (by omega)).1
      (identified_run books earlier (by omega)) act

/-- A session checks a record out, edits it and commits it. -/
def checkoutAndCommit : List Act :=
  [.enter "ann", .enlist ⟨0⟩, .issue 0 ⟨0⟩ (.checkout 7), .resume 0, .resume 0, .resume 0,
    .issue 1 ⟨0⟩ (.edit 7 .title "new"), .resume 1, .resume 1, .issue 2 ⟨0⟩ (.commit 7), .resume 2,
    .resume 2, .resume 2]

theorem commits_lie_in_tenures_of_checkoutAndCommit :
    Act.openings checkoutAndCommit ≤ 2 ^ 64 ∧
      ∃ earlier later, ((start (.ofBooks [.titled 7 "old"])).run checkoutAndCommit).trail =
          earlier ++ .committed ⟨0⟩ 7 :: later ∧
        InTenure earlier 7 ⟨0⟩ := by
  have few : Act.openings checkoutAndCommit ≤ 2 ^ 64 := by decide
  have split : ((start (.ofBooks [.titled 7 "old"])).run checkoutAndCommit).trail =
      [.sessionStarted ⟨0⟩ "ann", .lockAcquired 7 ⟨0⟩] ++
        .committed ⟨0⟩ 7 :: [.lockReleased 7 ⟨0⟩] := by
    decide
  have tenures := (commits_lie_in_tenures [.titled 7 "old"] checkoutAndCommit few).1
  exact ⟨few, _, _, split, (tenures _ _ _ _ split).1⟩

end Manager

end RecordLocks
