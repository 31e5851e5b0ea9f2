import RecordLocks.Manager.Timeline
import RecordLocks.Settings.Basic
namespace RecordLocks

/-- A line that the walkthrough prints; without details only its result is printed. -/
structure WalkthroughLine where
  time : Nat
  text : String
  detail : Bool
  deriving DecidableEq, Repr

inductive WalkthroughError where
  | readWhileLocked (title : String)
  | wroteWhileLocked (book : ResourceId)
  | staleTitle (read expected : String)
  | refused (error : AccessError)
  | cancelled
  deriving DecidableEq, Repr

def WalkthroughError.message : WalkthroughError → String
  | readWhileLocked title => s!"UNEXPECTED: Bob read '{title}' while Alice held the lock"
  | wroteWhileLocked book => s!"UNEXPECTED: Bob wrote book {idText book} while Alice held the lock"
  | staleTitle read expected => s!"UNEXPECTED: Bob read '{read}' instead of '{expected}'"
  | refused error => error.message
  | cancelled => "A call was cancelled"

/-- Which time the program goes by. Real time passes in ticks, and a wait ends with a tick, so that
whoever waits gives way to the others. Virtual time stands still until everybody waits: by it a wait
for a moment that has come is over at once. -/
inductive Timekeeping where
  | real
  | virtual
  deriving DecidableEq, Repr

/-- A call that is to go on by itself. It starts only when the program waits. -/
structure QueuedCall where
  id : CallId
  session : SessionId
  request : Request

structure Walkthrough where
  timeline : Timeline
  queue : List QueuedCall
  lines : List WalkthroughLine

namespace Settings

def latency (settings : Settings) : Latency :=
  Latency.limited ⟨settings.manager.writeDelay.toNat, settings.manager.readDelay.toNat, 0, 0⟩

def demoBook (settings : Settings) : Book := .titled settings.demo.bookId settings.demo.title

def timeline (settings : Settings) : Timeline :=
  .start settings.latency (.ofBooks [settings.demoBook])

end Settings

namespace Walkthrough

/-- Steps that go on until one fails. What was printed before stays. -/
abbrev Tale := ExceptT WalkthroughError (StateM Walkthrough)

def print (detail : Bool) (text : String) : Tale Unit :=
  modify fun tale => { tale with lines := tale.lines ++ [⟨tale.timeline.now, text, detail⟩] }

def tell (text : String) : Tale Unit := print true text

def pass (step : Timeline → Timeline) : Tale Unit :=
  modify fun tale => { tale with timeline := step tale.timeline }

def enter (user : String) : Tale SessionId := do
  let tale ← get
  let (id, manager) := tale.timeline.manager.openSession user
  set { tale with timeline := tale.timeline.withManager manager }
  return id

def outcomeOf : Option Ending → Tale Outcome
  | some (.answered outcome) => return outcome
  | _ => throw .cancelled

def handOver (id : CallId) (session : SessionId) (request : Request) : Tale Unit :=
  modify fun tale => { tale with queue := tale.queue ++ [⟨id, session, request⟩] }

def startAll (timeline : Timeline) (queue : List QueuedCall) : Timeline :=
  queue.foldl (fun timeline call => timeline.spawn call.id call.session call.request) timeline

def giveWay : Tale Unit :=
  modify fun tale => ⟨startAll tale.timeline tale.queue, [], tale.lines⟩

/-- Unlike a delay, a wait for a moment is never cut short. -/
def waitUntil (time : Timekeeping) (moment : Nat) : Tale Unit := do
  if time = .real ∨ (← get).timeline.now < moment then
    giveWay
    pass (·.advanceTo moment)

def finish (id : CallId) : Tale Outcome := do
  unless (← get).timeline.hasEnded id do giveWay
  let tale ← get
  let (ending, timeline) := (tale.timeline.await id).claim id
  set { tale with timeline := timeline }
  outcomeOf ending

def call (id : CallId) (session : SessionId) (request : Request) : Tale Outcome := do
  pass (·.spawn id session request)
  finish id

def titleOf : Outcome → Tale String
  | .ok (.text title) => return title
  | .ok _ => throw .cancelled
  | .error error => throw (.refused error)

def bookOf : Outcome → Tale Book
  | .ok (.book book) => return book
  | .ok _ => throw .cancelled
  | .error error => throw (.refused error)

/-- The message of a lock conflict, which is the outcome that the tale wants. -/
def conflictOf (success : Reply → WalkthroughError) : Outcome → Tale String
  | .ok reply => throw (success reply)
  | .error error => if error.isLockConflict then return error.message else throw (.refused error)

def accepted : Outcome → Tale Unit
  | .ok _ => return ()
  | .error error => throw (.refused error)

def shownTitle : Reply → String
  | .text title => title
  | _ => ""

def aliceWrites : CallId := 0

def bobReads : CallId := 1

def bobWrites : CallId := 2

def bobReadsAgain : CallId := 3

def aliceLeaves : CallId := 4

def bobLeaves : CallId := 5

def prepare (settings : Settings) : Tale (SessionId × SessionId) := do
  let demo := settings.demo
  let book := idText demo.bookId
  let alice ← enter "Alice"
  let bob ← enter "Bob"
  tell s!"Book {book} starts with title '{demo.title}'"
  tell s!"Alice initiated WRITE on book {book}"
  handOver aliceWrites alice (.write demo.bookId .title demo.newTitle)
  return (alice, bob)

def contend (settings : Settings) (bob : SessionId) : Tale Unit := do
  let demo := settings.demo
  let book := idText demo.bookId
  let read ← call bobReads bob (.read demo.bookId .title)
  let refusal ← conflictOf (fun reply => .readWhileLocked (shownTitle reply)) read
  tell s!"Bob is unable to READ book {book} while Alice edits: {refusal}"
  let write ← call bobWrites bob (.write demo.bookId .title demo.rivalTitle)
  let refusal ← conflictOf (fun _ => .wroteWhileLocked demo.bookId) write
  tell s!"Bob is unable to WRITE book {book} while Alice edits: {refusal}"
  (← get).timeline.manager.locks.snapshot.forM fun (resource, owner) =>
    tell s!"Lock table: {resourceKey resource} held by session {owner.text}"

def tale (time : Timekeeping) (settings : Settings) : Tale Unit := do
  let demo := settings.demo
  let book := idText demo.bookId
  let (alice, bob) ← prepare settings
  waitUntil time demo.probeDelay.toNat
  contend settings bob
  waitUntil time demo.settleDelay.toNat
  let committed ← bookOf (← finish aliceWrites)
  tell s!"Alice committed title '{committed.title}' on book {book}"
  let title ← titleOf (← call bobReadsAgain bob (.read demo.bookId .title))
  if title ≠ demo.newTitle then throw (.staleTitle title demo.newTitle)
  print false s!"Bob read title: {title}"
  accepted (← call aliceLeaves alice .removeSession)
  accepted (← call bobLeaves bob .removeSession)

def start (settings : Settings) : Walkthrough := ⟨settings.timeline, [], []⟩

/-- One user writes a book, and another one tries to read and to write it meanwhile. -/
def run (time : Timekeeping) (settings : Settings) : Except WalkthroughError Unit × Walkthrough :=
  (tale time settings).run.run (start settings)

def shown (quiet : Bool) (walkthrough : Walkthrough) : List WalkthroughLine :=
  walkthrough.lines.filter fun line => !(quiet && line.detail)

end Walkthrough

end RecordLocks
