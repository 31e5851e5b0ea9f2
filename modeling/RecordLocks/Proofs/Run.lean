import RecordLocks.Manager.Serve
namespace RecordLocks

/-- A change of the store that no session makes. -/
inductive StoreAct where
  | add (book : Book)
  | update (book : Book)
  | remove (id : ResourceId)
  deriving DecidableEq, Repr

def RecordStore.after (store : RecordStore) : StoreAct → RecordStore
  | .add book => (store.add book).2
  | .update book => (store.update book).2
  | .remove id => (store.remove id).2

/-- What happens to a manager at once. Between two acts any caller may be at work: a new session
has its number and waits to be listed, a call waits for its session, for the store or for time
to pass. A call that waits can be resumed or cancelled. -/
inductive Act where
  | enter (user : String)
  | enlist (session : SessionId)
  | turnAway (session : SessionId)
  | issue (id : CallId) (session : SessionId) (request : Request)
  | resume (id : CallId)
  | cancel (id : CallId)
  | store (act : StoreAct)
  deriving DecidableEq, Repr

namespace Act

def isOpening : Act → Bool
  | enter _ => true
  | _ => false

def isOutside : Act → Bool
  | store _ => true
  | _ => false

def isCall : Act → Bool
  | issue _ _ _ | resume _ | cancel _ => true
  | _ => false

def call? : Act → Option CallId
  | issue id _ _ | resume id | cancel id => some id
  | _ => none

def openings (acts : List Act) : Nat := acts.countP isOpening

@[simp] theorem openings_nil : openings [] = 0 := rfl

@[simp] theorem openings_append (first second : List Act) :
    openings (first ++ second) = openings first + openings second :=
  List.countP_append

theorem openings_cons (act : Act) (rest : List Act) :
    openings (act :: rest) = openings [act] + openings rest :=
  openings_append [act] rest

end Act

/-- What is seen along a run, where `see` looks at each act in the state in which it happens. -/
def along (step : σ → α → σ) (see : σ → α → List β) : σ → List α → List β
  | _, [] => []
  | state, act :: rest => see state act ++ along step see (step state act) rest

theorem along_append (step : σ → α → σ) (see : σ → α → List β) (state : σ)
    (first second : List α) :
    along step see state (first ++ second) =
      along step see state first ++ along step see (first.foldl step state) second := by
  induction first generalizing state with
  | nil => rfl
  | cons act rest ih => simp [along, ih]

theorem along_append_singleton (step : σ → α → σ) (see : σ → α → List β) (state : σ)
    (acts : List α) (act : α) :
    along step see state (acts ++ [act]) =
      along step see state acts ++ see (acts.foldl step state) act := by
  simp [along_append, along]

namespace Manager

def step (manager : Manager) : Act → Manager
  | .enter user => (manager.enter user).2
  | .enlist session => manager.enlist session
  | .turnAway session => manager.turnAway session
  | .issue id session request => (manager.issue id session request).2
  | .resume id => (manager.resume id).2
  | .cancel id => manager.cancel id
  | .store act => { manager with store := manager.store.after act }

def run (manager : Manager) (acts : List Act) : Manager := acts.foldl step manager

@[simp] theorem run_nil (manager : Manager) : manager.run [] = manager := rfl

@[simp] theorem run_append (manager : Manager) (first second : List Act) :
    manager.run (first ++ second) = (manager.run first).run second :=
  List.foldl_append

@[simp] theorem run_singleton (manager : Manager) (act : Act) :
    manager.run [act] = manager.step act := rfl

/-- Some call of the session has not ended. -/
def Pending (manager : Manager) (session : SessionId) : Prop :=
  ∃ id call, manager.calls.get? id = some call ∧ call.session = session

theorem pending_iff {manager : Manager} {session : SessionId} :
    (∃ entry ∈ manager.calls.toList, entry.2.session = session) ↔ manager.Pending session := by
  constructor
  · intro ⟨⟨id, call⟩, member, own⟩
    exact ⟨id, call, Index.mem_toList.mp member, own⟩
  · intro ⟨id, call, found, own⟩
    exact ⟨(id, call), Index.mem_toList.mpr found, own⟩

instance (manager : Manager) (session : SessionId) : Decidable (manager.Pending session) :=
  decidable_of_iff _ pending_iff

end Manager

end RecordLocks
