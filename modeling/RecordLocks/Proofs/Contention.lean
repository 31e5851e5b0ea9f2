import RecordLocks.CommandLine.Run
import RecordLocks.Proofs.ClockedCalls
namespace RecordLocks

/-- A resource that has been locked and released is as free as before. -/
theorem LockTable.release_acquire {table : LockTable} {resource : ResourceId}
    (free : table.holder resource = none) (owner : SessionId) :
    ((table.acquire resource owner).table.release resource owner).table = table := by
  have held : (LockTable.mk (table.owners.insert resource owner)).holder resource = some owner := by
    simp [holder, Index.get?_insert]
  rw [acquire_of_free free, release_of_own held, Index.erase_insert,
    Index.erase_of_none free]

namespace Walkthrough

/-- The seat of a session that has done nothing yet. -/
def unused (session : SessionId) (user : String) : Seat := ⟨.start session user, [], true, false⟩

def alice : SessionId := ⟨0⟩

def bob : SessionId := ⟨1⟩

variable (settings : Settings)

def opened : Timeline :=
  settings.timeline.withManager
    ((settings.timeline.manager.openSession "Alice").2.openSession "Bob").2

def renamed : Book := .titled settings.demo.bookId settings.demo.newTitle

def aliceRequest : Request := .write settings.demo.bookId .title settings.demo.newTitle

/-- The write has been started, and then the time of the probe has come. -/
def probed : Timeline :=
  ((opened settings).spawn aliceWrites alice (aliceRequest settings)).advanceTo
    settings.demo.probeDelay.toNat

/-- No call is going on, and nothing is locked. Only these endings are still to be told. -/
structure Between (timeline : Timeline) (book : Book) (endings : List (CallId × Ending)) :
    Prop where
  calm : timeline.Calm
  endings : timeline.endings = endings
  latency : timeline.latency = settings.latency
  seats : timeline.manager.seats = (opened settings).manager.seats
  locks : timeline.manager.locks = .empty
  stored : timeline.manager.store.books.get? settings.demo.bookId = some book

def draft : Session :=
  (((Session.start alice "Alice").checkout settings.demo.bookId settings.demoBook).2.edit
    settings.demo.bookId .title settings.demo.newTitle).2

/-- The first user's write sleeps, and but for that the manager is as `waiting`. -/
structure Writing (timeline : Timeline) (waiting : Manager) : Prop where
  manager : timeline.manager = waiting.serving aliceWrites alice (unused alice "Alice")
    (draft settings) (aliceRequest settings) (.writing settings.demo.bookId (renamed settings))
  latency : timeline.latency = settings.latency
  timers : timeline.timers = [⟨aliceWrites, settings.latency.write⟩]
  errands : timeline.errands = ∅
  endings : timeline.endings = []
  calls : waiting.calls = ∅
  seats : waiting.seats = (opened settings).manager.seats
  locks : waiting.locks = (LockTable.empty.acquire settings.demo.bookId alice).table
  stored : waiting.store.books.get? settings.demo.bookId = some settings.demoBook

variable {settings} {timeline : Timeline} {waiting : Manager} {book : Book} {id : CallId}
  {endings : List (CallId × Ending)}
  {session : SessionId} {user : String} {request : Request} {target : Nat}

theorem prompt_of_latency (latency : timeline.latency = settings.latency) :
    Timeline.Prompt timeline.latency := by
  rw [latency]
  exact ⟨rfl, rfl⟩

theorem atLeisure_unused {manager : Manager} (quiet : manager.calls.get? id = none)
    (seated : manager.seats.get? session = some (unused session user)) :
    manager.AtLeisure id session (unused session user) :=
  ⟨quiet, seated, rfl, rfl, rfl⟩

theorem Between.atLeisure (between : Between settings timeline book endings) (id : CallId)
    (seated : (opened settings).manager.seats.get? session = some (unused session user)) :
    timeline.manager.AtLeisure id session (unused session user) := by
  apply atLeisure_unused
  · rw [between.calm.calls]
    rfl
  · rw [between.seats, seated]

theorem Writing.atLeisure (writing : Writing settings timeline waiting) (id : CallId)
    (seated : (opened settings).manager.seats.get? session = some (unused session user)) :
    waiting.AtLeisure id session (unused session user) := by
  apply atLeisure_unused
  · rw [writing.calls]
    rfl
  · rw [writing.seats, seated]

theorem Between.finish (between : Between settings timeline book endings) (id : CallId)
    (ending : Ending) :
    Between settings (timeline.finish id ending) book (endings ++ [(id, ending)]) := by
  refine ⟨⟨between.calm.calls, between.calm.errands, between.calm.timers⟩, ?_, between.latency,
    between.seats, between.locks, between.stored⟩
  rw [Timeline.finish, between.endings]

theorem Between.untold (between : Between settings timeline book endings)
    (others : endings.any (·.1 = id) = false) : timeline.hasEnded id = false := by
  rw [Timeline.hasEnded, between.endings, others]

theorem Writing.atTime (writing : Writing settings timeline waiting) (now : Nat) :
    Writing settings (timeline.atTime now) waiting :=
  ⟨writing.manager, writing.latency, writing.timers, writing.errands, writing.endings,
    writing.calls, writing.seats, writing.locks, writing.stored⟩

theorem Writing.locked (writing : Writing settings timeline waiting) :
    timeline.manager.locks.snapshot = [(settings.demo.bookId, alice)] := by
  rw [writing.manager]
  show waiting.locks.snapshot = _
  rw [writing.locks]
  rfl

/-- The second user is refused, and nothing else changes. -/
theorem Writing.ask (writing : Writing settings timeline waiting) (id : CallId)
    (other : id ≠ aliceWrites) (request : Request)
    (opens : request.opens? = some settings.demo.bookId) :
    let asked := timeline.ask id bob request
    asked.1 = some (.answered (.error (.lockConflict settings.demo.bookId alice))) ∧
      Writing settings asked.2
        (waiting.record (.lockContention settings.demo.bookId alice bob)) ∧
      asked.2.now = timeline.now := by
  intro asked
  have seated : (opened settings).manager.seats.get? bob = some (unused bob "Bob") := rfl
  have held : waiting.locks.holder settings.demo.bookId = some alice := by
    rw [writing.locks, LockTable.holder_acquire, if_pos rfl]
    rfl
  have untold : timeline.endings.any (·.1 = id) = false := by
    rw [writing.endings]
    rfl
  have refused : asked = _ := Timeline.ask_of_ending
    (Timeline.spawn_beside writing.manager writing.calls rfl other (by decide)
      (writing.atLeisure id seated) opens held) untold
  rw [refused]
  exact ⟨rfl, ⟨rfl, writing.latency, writing.timers, writing.errands, writing.endings,
    writing.calls, writing.seats, writing.locks, writing.stored⟩, rfl⟩

/-- Woken at its time, the write stores the book and unlocks it. -/
theorem Writing.woken (writing : Writing settings timeline waiting)
    (due : settings.latency.write ≤ target) :
    ∃ after, timeline.advanceTo target =
        after.finish aliceWrites (.answered (.ok (.book (renamed settings)))) ∧
      Between settings after (renamed settings) [] ∧ after.now = target := by
  have seated : (opened settings).manager.seats.get? alice = some (unused alice "Alice") := rfl
  have leisure := writing.atLeisure aliceWrites seated
  have present : waiting.store.contains (renamed settings).id = true :=
    RecordStore.contains_of_stored writing.stored rfl
  have dropped : ((draft settings).release settings.demo.bookId).2 =
      ((unused alice "Alice").session.release settings.demo.bookId).2 := by
    rw [draft, Session.release_edit, Session.release_checkout]
    rfl
  have stored : ({ waiting with store := waiting.store.put (renamed settings) }.record
      (.committed alice settings.demo.bookId)).AtLeisure aliceWrites alice
        (unused alice "Alice") :=
    leisure.of_same rfl rfl
  have advanced := Timeline.advanceTo_writing (prompt_of_latency writing.latency)
    writing.timers writing.errands writing.manager writing.calls leisure present dropped due
  rw [Manager.committed, stored.yielded_of_none rfl] at advanced
  refine ⟨_, advanced, ⟨⟨writing.calls, writing.errands, rfl⟩, writing.endings, writing.latency,
    writing.seats, ?_, ?_⟩, rfl⟩
  · show (waiting.locks.release settings.demo.bookId alice).table = .empty
    rw [writing.locks, LockTable.release_acquire rfl]
  · show (waiting.store.put (renamed settings)).books.get? settings.demo.bookId = _
    rw [RecordStore.get?_put]
    exact if_pos rfl

theorem Writing.ends (writing : Writing settings timeline waiting)
    (due : settings.latency.write ≤ target) :
    let ended := ((timeline.advanceTo target).await aliceWrites).claim aliceWrites
    ended.1 = some (.answered (.ok (.book (renamed settings)))) ∧
      Between settings ended.2 (renamed settings) [] ∧ ended.2.now = target := by
  intro ended
  obtain ⟨after, woken, between, time⟩ := writing.woken due
  have untold : after.hasEnded aliceWrites = false := between.untold rfl
  have claimed : ended = (some (.answered (.ok (.book (renamed settings)))), after) := by
    show ((timeline.advanceTo target).await aliceWrites).claim aliceWrites = _
    rw [woken, Timeline.await, Timeline.awaitWithin_finish, Timeline.claim_finish untold]
  rw [claimed]
  exact ⟨rfl, between, time⟩

theorem Between.reads (between : Between settings timeline book endings) (id : CallId)
    (others : endings.any (·.1 = id) = false) :
    let asked := timeline.ask id bob (.read settings.demo.bookId .title)
    asked.1 = some (.answered (.ok (.text book.title))) ∧
      Between settings asked.2 book endings ∧
      asked.2.now = timeline.now + settings.latency.read := by
  intro asked
  have seated : (opened settings).manager.seats.get? bob = some (unused bob "Bob") := rfl
  have unlocked : timeline.manager.locks.holder settings.demo.bookId = none := by
    rw [between.locks]
    rfl
  have free := Manager.free_of_unlocked unlocked bob
  have leisure := between.atLeisure id seated
  have read : asked = _ := between.calm.ask_read (between.untold others)
    (prompt_of_latency between.latency) leisure free between.stored .title
  rw [(leisure.acquired settings.demo.bookId).yielded_of_none rfl] at read
  rw [read]
  refine ⟨rfl, ⟨⟨between.calm.calls, between.calm.errands, between.calm.timers⟩,
    between.endings, between.latency, between.seats, ?_, between.stored⟩, ?_⟩
  · show ((timeline.manager.locks.acquire settings.demo.bookId bob).table.release
      settings.demo.bookId bob).table = .empty
    rw [LockTable.release_acquire unlocked, between.locks]
  · show timeline.now + timeline.latency.read = _
    rw [between.latency]

theorem ask_removeSession_unused (calm : timeline.Calm) (untold : timeline.endings = [])
    (id : CallId)
    (seated : timeline.manager.seats.get? session = some (unused session user))
    (locks : timeline.manager.locks = .empty) :
    let asked := timeline.ask id session .removeSession
    asked.1 = some (.answered (.ok (.resources []))) ∧ asked.2.Calm ∧
      asked.2.endings = [] ∧ asked.2.manager.locks = .empty ∧
      asked.2.manager.seats =
        timeline.manager.seats.insert session ⟨.start session user, [], false, true⟩ := by
  intro asked
  have quiet : timeline.manager.calls.get? id = none := by
    rw [calm.calls]
    rfl
  have waits : timeline.hasEnded id = false := by
    rw [Timeline.hasEnded, untold]
    rfl
  have left : asked = _ := calm.ask_removeSession waits (atLeisure_unused quiet seated)
  have nothing : timeline.manager.locks.heldBy session = [] := by
    rw [locks]
    rfl
  rw [nothing] at left
  rw [left]
  refine ⟨rfl, ⟨calm.calls, calm.errands, calm.timers⟩, untold, ?_, rfl⟩
  show (timeline.manager.locks.releaseAll session).table = .empty
  rw [locks]
  rfl

theorem Between.leave (between : Between settings timeline book []) :
    let first := timeline.ask aliceLeaves alice .removeSession
    let second := first.2.ask bobLeaves bob .removeSession
    first.1 = some (.answered (.ok (.resources []))) ∧
      second.1 = some (.answered (.ok (.resources []))) ∧
      second.2.manager.sessions = [] ∧ second.2.manager.locks = .empty := by
  intro first second
  have aliceSeated : timeline.manager.seats.get? alice = some (unused alice "Alice") := by
    rw [between.seats]
    rfl
  obtain ⟨aliceTold, calm, untold, locks, seats⟩ :=
    ask_removeSession_unused between.calm between.endings aliceLeaves aliceSeated between.locks
  have bobSeated : first.2.manager.seats.get? bob = some (unused bob "Bob") := by
    rw [seats, between.seats]
    rfl
  obtain ⟨bobTold, -, -, free, unlisted⟩ :=
    ask_removeSession_unused calm untold bobLeaves bobSeated locks
  refine ⟨aliceTold, bobTold, ?_, free⟩
  rw [Manager.sessions, Manager.listedSeats, unlisted, seats, between.seats]
  rfl

section

variable {α β : Type} {lines : List WalkthroughLine} {queue : List QueuedCall} {outcome : Outcome}
  {error : AccessError} {fault : WalkthroughError} {before between after here : Walkthrough}
  {later : Timeline} {told : α} {title : String} {time : Timekeeping} {moment : Nat}

/-- The tale goes well: so much is told, and then the walkthrough has come so far. -/
def Tells (tale : Tale α) (before : Walkthrough) (told : α) (after : Walkthrough) : Prop :=
  tale.run.run before = (.ok told, after)

def Breaks (tale : Tale α) (before : Walkthrough) (fault : WalkthroughError) : Prop :=
  (tale.run.run before).1 = .error fault

theorem Tells.bind {first : Tale α} {next : α → Tale β} {last : β}
    (start : Tells first before told between) (rest : Tells (next told) between last after) :
    Tells (first >>= next) before last after := by
  rw [Tells] at start rest ⊢
  rw [ExceptT.run_bind, StateT.run_bind, start]
  exact rest

theorem Breaks.bind {first : Tale α} (broken : Breaks first before fault) (next : α → Tale β) :
    Breaks (first >>= next) before fault := by
  rw [Breaks] at broken ⊢
  rw [ExceptT.run_bind, StateT.run_bind]
  generalize first.run.run before = result at broken
  obtain ⟨_, later⟩ := result
  cases broken
  rfl

variable (settings)

def script : List WalkthroughLine :=
  let demo := settings.demo
  let book := idText demo.bookId
  let refusal := (AccessError.lockConflict demo.bookId alice).message
  let probe := demo.probeDelay.toNat
  let settle := demo.settleDelay.toNat
  [⟨0, s!"Book {book} starts with title '{demo.title}'", true⟩,
    ⟨0, s!"Alice initiated WRITE on book {book}", true⟩,
    ⟨probe, s!"Bob is unable to READ book {book} while Alice edits: {refusal}", true⟩,
    ⟨probe, s!"Bob is unable to WRITE book {book} while Alice edits: {refusal}", true⟩,
    ⟨probe, s!"Lock table: {resourceKey demo.bookId} held by session {alice.text}", true⟩,
    ⟨settle, s!"Alice committed title '{demo.newTitle}' on book {book}", true⟩,
    ⟨settle + settings.latency.read, s!"Bob read title: {demo.newTitle}", false⟩]

variable {settings}

end

section

variable {settings : Settings} {time : Timekeeping}

end

/-- The probe comes right after the start, and the write ends in between the shortest times. -/
def narrow : Settings :=
  ⟨⟨2, 5⟩, ⟨" x=y "⟩, ⟨18446744073709551615, "", "say \"hi\"", "'", 1, 3⟩⟩

end Walkthrough

end RecordLocks
