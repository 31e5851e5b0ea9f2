import RecordLocks.Proofs.ServedInOrder
namespace RecordLocks

/-- Calls of one session come in the order of a list. Each of them looks the session up and joins
its line later, in the same order; `queue` are those that have not joined it yet. In between any
call is resumed that has joined it. -/
inductive Act.InOrder (session : SessionId) :
    List CallId → List (CallId × Request) → List Act → Prop
  | done {queue : List CallId} : InOrder session queue [] []
  | issue {queue : List CallId} {id : CallId} {request : Request}
    {rest : List (CallId × Request)} {acts : List Act}
    (later : InOrder session (queue ++ [id]) rest acts) :
    InOrder session queue ((id, request) :: rest) (.issue id session request :: acts)
  | join {queue : List CallId} {id : CallId} {rest : List (CallId × Request)} {acts : List Act}
    (later : InOrder session queue rest acts) :
    InOrder session (id :: queue) rest (.resume id :: acts)
  | resume {queue : List CallId} {id : CallId} {rest : List (CallId × Request)}
    {acts : List Act} (joined : id ∉ queue) (later : InOrder session queue rest acts) :
    InOrder session queue rest (.resume id :: acts)

namespace Manager

/-- The calls that an act answers. -/
def outcomes (manager : Manager) : Act → List (CallId × Outcome)
  | .issue id session request => (manager.issue id session request).1.toList.map (id, ·)
  | .resume id => (manager.resume id).1.toList.map (id, ·)
  | _ => []

/-- Calls are issued one after another, each when the one before it has ended. -/
def askAll (session : SessionId) (manager : Manager) :
    List (CallId × Request) → List (CallId × Outcome) × Manager
  | [] => ([], manager)
  | (id, request) :: rest =>
    let (outcome, after) := manager.ask id session request
    let (later, last) := after.askAll session rest
    (outcome.toList.map (id, ·) ++ later, last)

variable {manager begin last : Manager} {id : CallId} {session : SessionId} {request : Request}
  {issued queue : List CallId} {calls rest : List (CallId × Request)}
  {answers told : List (CallId × Outcome)}

theorem askAll_append_singleton (manager : Manager) (session : SessionId)
    (calls : List (CallId × Request)) (id : CallId) (request : Request) :
    manager.askAll session (calls ++ [(id, request)]) =
      ((manager.askAll session calls).1 ++
          ((manager.askAll session calls).2.ask id session request).1.toList.map (id, ·),
        ((manager.askAll session calls).2.ask id session request).2) := by
  induction calls generalizing manager with
  | nil => simp [askAll]
  | cons first rest ih => simp [askAll, ih]

/-- A call that comes behind the others is answered as if it came when they had ended, or it is
refused at once as it would be then. -/
theorem Drains.spawn (drains : Drains session manager answers last)
    (ours : Ours session issued [] manager) (new : id ∉ issued) (request : Request) :
    ∃ outcome left, (last.ask id session request).1 = some outcome ∧
      Drains session (manager.spawn id session request).2 left (last.ask id session request).2 ∧
      ((manager.spawn id session request).1.toList.map (id, ·) ++ left).Perm
        (answers ++ [(id, outcome)]) := by
  have fresh := ours.fresh new
  cases listed : (manager.listed? session).isSome with
  | true =>
    obtain ⟨outcome, asked, goesOn⟩ := drains.spawn_listed ours new listed request
    refine ⟨outcome, _, asked, goesOn, ?_⟩
    rw [spawn_of_listed fresh listed]
    exact .refl _
  | false =>
    have unlisted := (drains.listed ours).trans listed
    rw [ask_of_unlisted ((drains.ours ours).fresh new) unlisted, spawn_of_unlisted fresh listed]
    exact ⟨_, answers, rfl, drains, List.perm_append_comm⟩

/-- Some of the calls have been issued to a manager without calls. What has been told and what is
still to be told is what the calls are told when they come one by one. -/
structure InTurn (session : SessionId) (begin : Manager) (calls : List (CallId × Request))
    (queue : List CallId) (manager : Manager) (told : List (CallId × Outcome)) : Prop where
  ours : Ours session (calls.map (·.1)) queue manager
  nodup : queue.Nodup
  within : queue ⊆ calls.map (·.1)
  left : ∃ left, Drains session (manager.joinAll queue) left (begin.askAll session calls).2 ∧
    (told ++ left).Perm (begin.askAll session calls).1

theorem inTurn_nil (sound : begin.Sound) (quiet : begin.calls = ∅) :
    InTurn session begin [] [] begin [] := by
  refine ⟨⟨sound, ?_⟩, List.nodup_nil, List.nil_subset _, [], .done quiet, .refl _⟩
  intro id call found
  rw [quiet] at found
  cases found

theorem InTurn.issue (inTurn : InTurn session begin calls queue manager told)
    (new : id ∉ calls.map (·.1)) (request : Request) :
    InTurn session begin (calls ++ [(id, request)]) (queue ++ [id])
      (manager.issue id session request).2
      (told ++ (manager.issue id session request).1.toList.map (id, ·)) := by
  obtain ⟨ours, nodup, within, left, drains, answers⟩ := inTurn
  have joined := ours.issue_joinAll nodup within new request
  have same : (manager.issue id session request).2.joinAll (queue ++ [id]) =
      ((manager.joinAll queue).spawn id session request).2 := by
    rw [joinAll_append_singleton, Manager.spawn, joined]
  obtain ⟨outcome, later, asked, goesOn, told_or_left⟩ :=
    drains.spawn (ours.joinAll nodup) new request
  have at_once : ((manager.joinAll queue).spawn id session request).1 =
      (manager.issue id session request).1 := by
    rw [Manager.spawn, joined]
  rw [at_once] at told_or_left
  refine ⟨?_, ?_, ?_, later, ?_, ?_⟩
  · rw [List.map_append]
    exact ours.issue new request
  · have outside : id ∉ queue := fun member => new (within member)
    rw [List.nodup_append]
    refine ⟨nodup, by simp, ?_⟩
    intro other member last here
    rw [List.mem_singleton.mp here]
    rintro rfl
    exact outside member
  · rw [List.map_append]
    exact List.append_subset.mpr ⟨List.subset_append_of_subset_left _ within, by simp⟩
  · rw [same, askAll_append_singleton]
    exact goesOn
  · rw [askAll_append_singleton, asked, List.append_assoc]
    refine (told_or_left.append_left told).trans ?_
    rw [← List.append_assoc]
    exact answers.append_right _

theorem InTurn.join (inTurn : InTurn session begin calls (id :: queue) manager told) :
    (manager.resume id).1 = none ∧
      InTurn session begin calls queue (manager.resume id).2 told := by
  obtain ⟨ours, nodup, within, left, drains, answers⟩ := inTurn
  exact ⟨ours.resume_unjoined, ours.resume_first nodup, (List.nodup_cons.mp nodup).2,
    List.subset_of_cons_subset within, left, drains, answers⟩

theorem InTurn.resume (inTurn : InTurn session begin calls queue manager told)
    (joined : id ∉ queue) :
    InTurn session begin calls queue (manager.resume id).2
      (told ++ (manager.resume id).1.toList.map (id, ·)) := by
  obtain ⟨ours, nodup, within, left, drains, answers⟩ := inTurn
  obtain ⟨later, goesOn, rfl⟩ := drains.resume (ours.joinAll nodup) id
  rw [ours.resume_joinAll nodup joined] at goesOn answers
  refine ⟨?_, nodup, within, later, goesOn, ?_⟩
  · have kept := ours.resume nodup id
    rw [List.erase_of_not_mem joined] at kept
    exact kept
  · rw [List.append_assoc]
    exact answers

/-- However the calls are interleaved, their manager is on its way to where it gets when they come
one by one. -/
theorem InTurn.run {acts : List Act} (inTurn : InTurn session begin calls queue manager told)
    (ordered : Act.InOrder session queue rest acts)
    (distinct : ((calls ++ rest).map (·.1)).Nodup) :
    ∃ later, InTurn session begin (calls ++ rest) later (manager.run acts)
      (told ++ along step outcomes manager acts) := by
  induction ordered generalizing manager calls told with
  | @done queue =>
    refine ⟨queue, ?_⟩
    simpa [along] using inTurn
  | @issue queue id request rest acts later ih =>
    have new : id ∉ calls.map (·.1) := by
      rw [List.map_append, List.map_cons, List.nodup_append] at distinct
      intro member
      exact distinct.2.2 id member id (by simp) rfl
    rw [List.append_cons] at distinct ⊢
    have goesOn := ih (inTurn.issue new request) distinct
    rw [List.append_assoc told] at goesOn
    exact goesOn
  | @join queue id rest acts later ih =>
    obtain ⟨silent, joined⟩ := inTurn.join
    have nothing : manager.outcomes (.resume id) = [] := by simp [outcomes, silent]
    rw [along, nothing]
    exact ih joined distinct
  | @resume queue id rest acts joined later ih =>
    have goesOn := ih (inTurn.resume joined) distinct
    rw [List.append_assoc] at goesOn
    exact goesOn

/-- When no call is pending any more, everything is as it is when the calls come one by one. -/
theorem InTurn.ended (inTurn : InTurn session begin calls queue manager told)
    (quiet : manager.calls = ∅) :
    manager = (begin.askAll session calls).2 ∧ told.Perm (begin.askAll session calls).1 := by
  obtain ⟨ours, nodup, within, left, drains, answers⟩ := inTurn
  have joined : manager.joinAll queue = manager := by
    clear ours nodup within drains
    induction queue with
    | nil => rfl
    | cons first rest ih =>
      have missing : manager.calls.get? first = none := by simp [quiet]
      rw [joinAll_cons, resume_of_none missing]
      exact ih
  rw [joined] at drains
  have arrived := ours.joinAll nodup
  rw [joined] at arrived
  have idle : ∀ id, manager.first? session ≠ some id := by
    intro id head
    obtain ⟨request, phase, seat, found, -⟩ := arrived.first head
    rw [quiet] at found
    cases found
  cases drains with
  | done => exact ⟨rfl, by simpa using answers⟩
  | answer head => exact absurd head (idle _)
  | wait head => exact absurd head (idle _)

theorem ask_quiet (sound : manager.Sound) (quiet : manager.calls = ∅) (id : CallId)
    (session : SessionId) (request : Request) :
    ∃ outcome, (manager.ask id session request).1 = some outcome ∧
      (manager.ask id session request).2.Sound ∧
      (manager.ask id session request).2.calls = ∅ := by
  have ours : Ours session [] [] manager := (inTurn_nil sound quiet).ours
  have drains : Drains session manager [] manager := .done quiet
  obtain ⟨outcome, left, asked, goesOn, -⟩ := drains.spawn ours List.not_mem_nil request
  exact ⟨outcome, asked, (goesOn.ours (ours.spawn List.not_mem_nil request)).sound, goesOn.quiet⟩

/-- Each call that comes when the one before it has ended is answered. -/
theorem askAll_quiet (sound : manager.Sound) (quiet : manager.calls = ∅) (session : SessionId)
    (calls : List (CallId × Request)) :
    (manager.askAll session calls).1.map (·.1) = calls.map (·.1) ∧
      (manager.askAll session calls).2.calls = ∅ := by
  induction calls generalizing manager with
  | nil => exact ⟨rfl, quiet⟩
  | cons first rest ih =>
    obtain ⟨id, request⟩ := first
    obtain ⟨outcome, asked, later, still⟩ := ask_quiet sound quiet id session request
    obtain ⟨told, ended⟩ := ih later still
    exact ⟨by simp [askAll, asked, told], ended⟩

/-- Once each call has been told its outcome, none is pending. -/
theorem InTurn.all_told (inTurn : InTurn session begin calls [] manager told)
    (sound : begin.Sound) (quiet : begin.calls = ∅) (distinct : (calls.map (·.1)).Nodup)
    (all : ∀ id ∈ calls.map (·.1), id ∈ told.map (·.1)) : manager.calls = ∅ := by
  obtain ⟨ours, -, -, left, drains, answers⟩ := inTurn
  have ids := answers.map (·.1)
  rw [(askAll_quiet sound quiet session calls).1, List.map_append] at ids
  have once := ids.nodup_iff.mpr distinct
  by_contra pending
  obtain ⟨id, call, found⟩ := Index.exists_of_ne_empty pending
  have waits : id ∈ left.map (·.1) := drains.answered ours (by simp [Index.contains, found])
  have asked : id ∈ calls.map (·.1) := (ours.calls id call found).2.1
  exact (List.nodup_append.mp once).2.2 id (all id asked) id waits rfl

end Manager

end RecordLocks
