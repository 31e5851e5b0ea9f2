import RecordLocks.Manager.Serve
namespace RecordLocks

/-- Times in milliseconds. -/
structure Latency where
  write : Nat
  read : Nat
  get : Nat
  update : Nat
  deriving DecidableEq, Repr

/-- Thirty years of 365 days. Who asks to sleep for longer is woken after this time. -/
def longestWait : Nat := 30 * 365 * 86400000

def Latency.limited (latency : Latency) : Latency :=
  ⟨min latency.write longestWait, min latency.read longestWait, min latency.get longestWait,
    min latency.update longestWait⟩

def Latency.ofPhase (latency : Latency) : Phase → Nat
  | .arriving | .waiting => 0
  | .loading _ => latency.get
  | .writing _ _ => latency.write
  | .reading _ _ => latency.read
  | .storing _ _ => latency.update

inductive Errand where
  | get (id : ResourceId)
  | update (book : Book)
  deriving DecidableEq, Repr

inductive Ending where
  | cancelled
  | answered (outcome : Outcome)
  deriving Repr

structure Timer where
  id : CallId
  deadline : Nat
  deriving DecidableEq, Repr

/-- A manager whose calls run by a clock. Timers stand in the order in which they were set, and
endings in the order in which they came. -/
structure Timeline where
  latency : Latency
  now : Nat
  manager : Manager
  errands : Index CallId Errand
  timers : List Timer
  endings : List (CallId × Ending)

namespace Timeline

def start (latency : Latency) (store : RecordStore) : Timeline :=
  ⟨latency, 0, .start store, ∅, [], []⟩

def withManager (timeline : Timeline) (manager : Manager) : Timeline :=
  { timeline with manager := manager }

def finish (timeline : Timeline) (id : CallId) (ending : Ending) : Timeline :=
  { timeline with endings := timeline.endings ++ [(id, ending)] }

def setTimer (timeline : Timeline) (id : CallId) (delay : Nat) : Timeline :=
  { timeline with timers := timeline.timers ++ [⟨id, timeline.now + delay⟩] }

def run : Nat → Timeline → CallId → Timeline
  | 0, timeline, _ => timeline
  | steps + 1, timeline, id =>
    match timeline.manager.resume id with
    | (some outcome, manager) => (timeline.withManager manager).finish id (.answered outcome)
    | (none, manager) =>
      let after := timeline.withManager manager
      match manager.calls.get? id with
      | none => after
      | some call =>
        let delay := timeline.latency.ofPhase call.phase
        if 0 < delay then after.setTimer id delay
        else if call.phase = .waiting ∧ !manager.isReady id then after
        else run steps after id

/-- No call has more steps before it: joining the line, being served, the load, the work and the
update. -/
def callSteps : Nat := 5

def runCall (timeline : Timeline) (id : CallId) : Timeline := timeline.run callSteps id

def ready? (timeline : Timeline) : Option CallId :=
  timeline.manager.calls.keys.find? timeline.manager.isReady

def settleWithin : Nat → Timeline → Timeline
  | 0, timeline => timeline
  | rounds + 1, timeline =>
    match timeline.ready? with
    | none => timeline
    | some id => settleWithin rounds (timeline.runCall id)

/-- A call that has been run is not ready again before it ends. -/
def settle (timeline : Timeline) : Timeline :=
  timeline.settleWithin (timeline.manager.calls.size + 1)

def spawn (timeline : Timeline) (id : CallId) (session : SessionId) (request : Request) :
    Timeline :=
  match timeline.manager.issue id session request with
  | (some outcome, manager) => (timeline.withManager manager).finish id (.answered outcome)
  | (none, manager) => ((timeline.withManager manager).runCall id).settle

def runErrand (timeline : Timeline) (id : CallId) (errand : Errand) : Timeline :=
  let manager := timeline.manager
  let (outcome, store) :=
    match errand with
    | .get book => ((manager.store.get book).map Reply.book, manager.store)
    | .update book =>
      let (updated, store) := manager.store.update book
      (updated.map fun _ => Reply.done, store)
  { timeline.withManager { manager with store := store } with
    errands := timeline.errands.erase id }.finish id (.answered outcome)

def Errand.delay (latency : Latency) : Errand → Nat
  | .get _ => latency.get
  | .update _ => latency.update

def send (timeline : Timeline) (id : CallId) (errand : Errand) : Timeline :=
  let delay := Errand.delay timeline.latency errand
  if 0 < delay then
    { timeline with errands := timeline.errands.insert id errand }.setTimer id delay
  else timeline.runErrand id errand

def wake (timeline : Timeline) (id : CallId) : Timeline :=
  match timeline.errands.get? id with
  | some errand => timeline.runErrand id errand
  | none => timeline.runCall id

def nextDeadline? (timeline : Timeline) : Option Nat :=
  (timeline.timers.map (·.deadline)).min?

def moveTo (timeline : Timeline) (deadline : Nat) : Timeline :=
  let (due, later) := timeline.timers.partition (·.deadline ≤ deadline)
  let moved := { timeline with now := deadline, timers := later }
  (due.foldl (fun timeline timer => timeline.wake timer.id) moved).settle

/-- No call waits for time more often than this in all. -/
def patience (timeline : Timeline) : Nat :=
  3 * timeline.manager.calls.size + timeline.errands.size + 1

def hasEnded (timeline : Timeline) (id : CallId) : Bool :=
  timeline.endings.any (·.1 = id)

def awaitWithin : Nat → Timeline → CallId → Timeline
  | 0, timeline, _ => timeline
  | rounds + 1, timeline, id =>
    if timeline.hasEnded id then timeline
    else
      match timeline.nextDeadline? with
      | none => timeline
      | some deadline => awaitWithin rounds (timeline.moveTo deadline) id

def await (timeline : Timeline) (id : CallId) : Timeline :=
  timeline.awaitWithin timeline.patience id

def advanceWithin : Nat → Timeline → Nat → Timeline
  | 0, timeline, _ => timeline
  | rounds + 1, timeline, target =>
    match timeline.nextDeadline? with
    | none => timeline
    | some deadline =>
      if deadline ≤ target then advanceWithin rounds (timeline.moveTo deadline) target
      else timeline

def advanceTo (timeline : Timeline) (target : Nat) : Timeline :=
  let after := timeline.advanceWithin timeline.patience target
  { after with now := max target after.now }

def rest (timeline : Timeline) (milliseconds : Nat) : Timeline :=
  timeline.advanceTo (timeline.now + min milliseconds longestWait)

def isPending (timeline : Timeline) (id : CallId) : Bool :=
  timeline.manager.calls.contains id || timeline.errands.contains id

def cancel (timeline : Timeline) (id : CallId) : Timeline :=
  let stopped := timeline.withManager (timeline.manager.cancel id)
  ({ stopped with
    errands := stopped.errands.erase id
    timers := stopped.timers.filter (·.id ≠ id) }.finish id .cancelled).settle

/-- How a call has ended, which is told once. -/
def claim (timeline : Timeline) (id : CallId) : Option Ending × Timeline :=
  (timeline.endings.lookup id,
    { timeline with endings := timeline.endings.filter (·.1 ≠ id) })

def collect (timeline : Timeline) : List (CallId × Ending) × Timeline :=
  (timeline.endings.mergeSort fun a b => a.1 ≤ b.1, { timeline with endings := [] })

def ask (timeline : Timeline) (id : CallId) (session : SessionId) (request : Request) :
    Option Ending × Timeline :=
  ((timeline.spawn id session request).await id).claim id

end Timeline

end RecordLocks
