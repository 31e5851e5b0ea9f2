import RecordLocks.Proofs.Refinement
namespace RecordLocks

namespace Represents

open Manager

variable {machine : Machine} {manager after : Manager} {id : CallId} {session : SessionId}
  {request : Request} {phase : Phase} {seat : Seat} {resource : ResourceId}

theorem serve_of_opens (machine : Machine) (opens : request.opens? = some resource) :
    machine.serve session request = machine.lock session resource request := by
  cases request with
  | write | read | checkout =>
    cases opens
    rfl
  | edit | commit | discard | locksHeld | removeSession => cases opens

/-- The copy that another session holds while it has nothing to do. -/
theorem draft_of_held (represents : Represents machine manager) {call : Call}
    (alone : manager.Alone id call) (held : manager.locks.holder resource = some session)
    (other : call.session ≠ session) :
    ∃ copy, machine.drafts.get? resource = some (session, copy) := by
  obtain ⟨seat, seated⟩ := represents.sound.owned resource session held
  have here := represents.sound.seats session seat seated
  have tally := here.tally
  rw [alone.phaseAt here other] at tally
  obtain ⟨copy, copied⟩ := Option.isSome_iff_exists.mp ((tally resource).mp held)
  exact ⟨copy, (represents.drafts session resource copy).mp (by simp [copy?, seated, copied])⟩

theorem issue_unlisted (represents : Represents machine manager) (quiet : manager.calls = ∅)
    (gone : machine.live.contains session = false) :
    manager.issue id session request =
      (some (.error (.sessionNotFound session)), manager) := by
  apply issue_of_unlisted (by simp [quiet])
  intro seat seated
  cases listed : seat.listed with
  | false => rfl
  | true =>
    rw [Index.contains, ← represents.live] at gone
    simp [listed?, seated, Option.filter, listed] at gone

/-- A request finds its session, and a removal unlists it. -/
theorem issue (represents : Represents machine manager) (quiet : manager.calls = ∅)
    (live : machine.live.contains session = true) (id : CallId) (request : Request) :
    ∃ next after, manager.issue id session request = (none, after) ∧ Represents next after ∧
      after.Alone id ⟨session, request, .arriving⟩ ∧
      (request ≠ .removeSession → next.live.contains session = true) ∧
      next.serve session request = machine.serve session request := by
  have found : ∃ seat, manager.seats.get? session = some seat ∧ seat.listed = true := by
    rw [Index.contains, ← represents.live, Option.isSome_map] at live
    obtain ⟨seat, listed⟩ := Option.isSome_iff_exists.mp live
    exact ⟨seat, Option.filter_eq_some_iff.mp listed⟩
  obtain ⟨seat, seated, listed⟩ := found
  have fresh : manager.calls.get? id = none := by simp [quiet]
  have issued : manager.issue id session request = _ := issue_of_listed fresh seated listed
  have sound : (manager.issue id session request).2.Sound := represents.sound.issue
  have numbered : (manager.issue id session request).2.Numbered machine.next :=
    represents.numbered.of_apart apart_issue seated
  rw [issued] at sound numbered
  have alone : ((manager.setSeat session
      { seat with listed := decide (request ≠ .removeSession) }).setCall id
        ⟨session, request, .arriving⟩).Alone id ⟨session, request, .arriving⟩ := by
    apply alone_setCall
    intro other different
    simp [setCall, setSeat, quiet, Index.get?_insert, different.symm]
  have copies : ∀ other resource, ((manager.setSeat session
      { seat with listed := decide (request ≠ .removeSession) }).setCall id
        ⟨session, request, .arriving⟩).copy? other resource = manager.copy? other resource := by
    intro other resource
    rw [copy?_setCall, copy?_setSeat]
    split
    · rename_i same
      rw [← same]
      simp [copy?, seated]
    · rfl
  by_cases removal : request = .removeSession
  · subst removal
    refine ⟨{ machine with live := machine.live.erase session }, _, issued,
      represents.relist sound numbered rfl copies ?_, alone, fun other => absurd rfl other, ?_⟩
    · intro other
      rw [Index.get?_erase]
      by_cases own : session = other
      · simp [listed?, setCall, setSeat, Index.get?_insert, own, Option.filter]
      · rw [if_neg own, ← represents.live]
        simp [listed?, setCall, setSeat, Index.get?_insert, own]
    · have gone : (machine.live.erase session).get? session = none := by
        simp [Index.get?_erase]
      simp only [Machine.serve, Index.erase_of_none gone]
      rfl
  · refine ⟨machine, _, issued, represents.relist sound numbered rfl copies ?_, alone,
      fun _ => live, rfl⟩
    intro other
    rw [← represents.live]
    by_cases own : session = other
    · subst own
      simp [listed?, setCall, setSeat, Index.get?_insert, seated, removal, Option.filter, listed]
    · simp [listed?, setCall, setSeat, Index.get?_insert, own]

/-- What is listed of a session does not change while its calls are served. -/
theorem steady_resume (represents : Represents machine manager)
    (found : manager.calls.get? id = some ⟨session, request, phase⟩) :
    Steady machine.next manager (manager.resume id).2 := by
  have sound := represents.sound
  obtain ⟨seat, seated⟩ := sound.seated id _ found
  have advanced := resume_advance sound found seated
  have numbered : (manager.step (.resume id)).Numbered machine.next := by
    have call : Act.isCall (.resume id) = true := rfl
    rcases sound.step_call call with same | ⟨caller, there, placed, apart⟩
    · rw [same]
      exact represents.numbered
    · exact represents.numbered.of_apart apart placed
  refine ⟨sound.resume found, numbered, ?_⟩
  intro other
  by_cases own : other = session
  · subst own
    obtain ⟨changed, reseated, listed, user, -⟩ := advanced.reseated seated
    by_cases stays : seat.listed = true
    · simp [listed?, seated, reseated, Option.filter, listed, stays, user]
    · simp [listed?, seated, reseated, Option.filter, listed, stays]
  · rw [listed?, listed?, (advanced.apart found).seats other own]

end Represents

/-- The machine `next` stands for the manager after a step of a call, and what was left to do for
the call has been done or is still left. -/
structure InStep (machine next : Machine) (id : CallId) (call : Call) (outcome : Option Outcome)
    (after : Manager) : Prop where
  represents : Represents next after
  live : next.live = machine.live
  ended : ∀ result, outcome = some result →
    machine.proceed call.session call.request call.phase = (result, next)
  goes : ∀ later, after.calls.get? id = some ⟨call.session, call.request, later⟩ →
    next.proceed call.session call.request later =
      machine.proceed call.session call.request call.phase

namespace InStep

open Manager

variable {machine next : Machine} {manager after : Manager} {id : CallId} {session : SessionId}
  {request : Request} {phase later : Phase} {seat : Seat} {result : Outcome}
  {outcome : Option Outcome}

theorem of_end (represents : Represents next (after.forget id session))
    (live : next.live = machine.live)
    (done : machine.proceed session request phase = (result, next)) :
    InStep machine next id ⟨session, request, phase⟩ (some result) (after.forget id session) := by
  refine ⟨represents, live, ?_, ?_⟩
  · intro other same
    rw [← Option.some.inj same]
    exact done
  · intro later found
    rw [calls_forget, Index.get?_erase, if_pos rfl] at found
    cases found

theorem of_wait (represents : Represents next (after.setCall id ⟨session, request, later⟩))
    (live : next.live = machine.live)
    (left : next.proceed session request later = machine.proceed session request phase) :
    InStep machine next id ⟨session, request, phase⟩ none
      (after.setCall id ⟨session, request, later⟩) := by
  refine ⟨represents, live, ?_, ?_⟩
  · intro other same
    cases same
  · intro other found
    simp only [setCall, Index.get?_insert, if_true] at found
    cases found
    exact left

/-- The session turns to its only call. -/
theorem of_serve (represents : Represents machine manager)
    (alone : manager.Alone id ⟨session, request, .waiting⟩)
    (live : request ≠ .removeSession → machine.live.contains session = true)
    (seated : manager.seats.get? session = some seat)
    (steady : Steady machine.next manager after)
    (advanced : Advance manager id session seat request .waiting outcome after) :
    ∃ next, InStep machine next id ⟨session, request, .waiting⟩ outcome after := by
  have here := represents.sound.seats session seat seated
  have own : ∀ resource, seat.session.copy? resource = machine.own? session resource := by
    intro resource
    rw [represents.own_eq]
    simp [copy?, seated]
  cases advanced with
  | behind blocked => exact absurd (alone.head here (by simp)) blocked
  | removed head =>
    have gone := represents.live_of_unlisted seated (here.leaving id _ alone.found)
    have released : manager.locks.heldBy session = machine.held session := by
      rw [← checkedOut_eq_heldBy (here.tally_served head alone.found)]
      exact represents.held_eq seated
    refine ⟨machine.clear session, .of_end (represents.clear steady ?_ ?_) rfl ?_⟩
    · simp [record, setSeat, releaseAll, applyLocks]
    · intro other resource
      simp
    · simp only [Machine.proceed, Machine.serve, released, Index.erase_of_none gone]
      rfl
  | shut head closed other =>
    -- Only a removal closes a session, and it has unlisted the session before.
    have gone := represents.live_of_unlisted seated (here.closed closed).1
    have listed := live other
    rw [Index.contains, gone] at listed
    cases listed
  | @contended request resource holder head live opens held foreign =>
    obtain ⟨copy, drafted⟩ := represents.draft_of_held alone held foreign.symm
    refine ⟨machine, .of_end (represents.same steady (by simp [record]) (by simp)) rfl ?_⟩
    simp only [Machine.proceed]
    rw [Represents.serve_of_opens machine opens]
    exact Machine.lock_of_other drafted foreign request
  | @opened request resource head live opens free =>
    refine ⟨machine, .of_wait (represents.same steady rfl (by simp)) rfl ?_⟩
    simp only [Machine.proceed]
    rw [Represents.serve_of_opens machine opens]
    refine (Machine.lock_of_free ?_ request).symm
    intro holder copy drafted
    exact free holder (represents.sound.held_of_copy ((represents.drafts _ _ _).mpr drafted))
  | @edited resource book field value head live copied =>
    have held := here.held_of_copy (by rw [copied]; rfl)
    rw [own] at copied
    have named : (book.set field value).id = resource := by
      rw [represents.own_eq] at copied
      rw [Book.id_set]
      exact represents.named session resource book copied
    refine ⟨_, .of_end (represents.keep steady (by simp [setSession, setSeat]) named ?_ ?_ held)
      rfl ?_⟩
    · simp [own, copied]
    · intro other asked apart
      rw [copy?_forget]
      exact copy?_edit_other seated apart _ _
    · simp [Machine.proceed, Machine.serve, copied]
  | notCheckedOut head live missing needs =>
    refine ⟨machine, .of_end (represents.same steady (by simp) (by simp)) rfl ?_⟩
    rw [own] at missing
    rcases needs with ⟨field, value, rfl⟩ | rfl <;> simp [Machine.proceed, Machine.serve, missing]
  | committing head live copied =>
    refine ⟨machine, .of_wait (represents.same steady rfl (by simp)) rfl ?_⟩
    rw [own] at copied
    simp [Machine.proceed, Machine.serve, copied]
  | discarded head live copied =>
    have held := here.held_of_copy (by rw [copied]; rfl)
    refine ⟨_, .of_end (represents.drop steady (by simp [record]) ?_ held) rfl ?_⟩
    · intro other asked
      simp
    · rw [own] at copied
      simp [Machine.proceed, Machine.serve, copied]
  | @nothingDiscarded resource head live missing =>
    rw [own] at missing
    refine ⟨machine, .of_end (represents.same steady (by simp) ?_) rfl ?_⟩
    · intro other asked
      rw [copy?_forget, copy?_closeWindow]
      split
      · rename_i here
        rw [← here.1, ← here.2, ← represents.own_eq, missing]
      · rfl
    · simp [Machine.proceed, Machine.serve, missing]
  | told head live =>
    refine ⟨machine, .of_end (represents.same steady (by simp) (by simp)) rfl ?_⟩
    simp [Machine.proceed, Machine.serve, represents.held_eq seated]

/-- The store has looked the record up. -/
theorem of_load {resource : ResourceId} (represents : Represents machine manager)
    (alone : manager.Alone id ⟨session, request, .loading resource⟩)
    (seated : manager.seats.get? session = some seat)
    (steady : Steady machine.next manager after)
    (advanced : Advance manager id session seat request (.loading resource) outcome after) :
    ∃ next, InStep machine next id ⟨session, request, .loading resource⟩ outcome after := by
  have here := represents.sound.seats session seat seated
  have head := alone.head here (by simp)
  have held := (here.tally_served head alone.found).held_of_window rfl
  have own : seat.session.copy? resource = machine.own? session resource := by
    rw [represents.own_eq]
    simp [copy?, seated]
  have named : ∀ book, manager.store.books.get? resource = some book →
      ((machine.own? session resource).getD book).id = resource := by
    intro book stored
    rw [represents.records] at stored
    cases copied : machine.own? session resource with
    | none => exact represents.identity resource book stored
    | some copy =>
      rw [represents.own_eq] at copied
      exact represents.named session resource copy copied
  cases advanced with
  | vanished missing =>
    rw [represents.records] at missing
    refine ⟨_, .of_end (represents.drop steady (by simp) ?_ held) rfl ?_⟩
    · intro other asked
      simp
    · simp [Machine.proceed, Machine.load, missing]
  | @loadedToWrite _ book field value stored =>
    have edited : (((machine.own? session resource).getD book).set field value).id = resource := by
      rw [Book.id_set]
      exact named book stored
    rw [own] at steady ⊢
    refine ⟨_, .of_wait (represents.keep steady (by simp [setSession, setCall, setSeat]) edited ?_
      ?_ held) rfl ?_⟩
    · simp [own]
    · intro other asked apart
      rw [copy?_setCall]
      exact copy?_write_other seated apart _ _ _
    · rw [represents.records] at stored
      simp only [Machine.proceed]
      rw [Machine.load_of_get stored]
      have still : ∀ copy, (machine.keep session resource copy).records.get? resource =
          some book := fun _ => stored
      rw [Machine.commit_of_get (still _)]
      simp [Machine.work]
  | @loadedToRead _ field book stored =>
    refine ⟨_, .of_wait (represents.keep steady (by simp [setSession, setCall, setSeat])
      (named book stored) ?_ ?_ held) rfl ?_⟩
    · simp [own]
    · intro other asked apart
      rw [copy?_setCall]
      exact copy?_checkout_other seated apart _
    · rw [represents.records] at stored
      simp only [Machine.proceed]
      rw [Machine.load_of_get stored]
      simp [Machine.work]
  | @checkedOut _ book stored =>
    rw [own]
    refine ⟨_, .of_end (represents.keep steady (by simp [setSession, setSeat])
      (named book stored) ?_ ?_ held) rfl ?_⟩
    · simp [own]
    · intro other asked apart
      rw [copy?_forget]
      exact copy?_checkout_other seated apart _
    · rw [represents.records] at stored
      simp only [Machine.proceed]
      rw [Machine.load_of_get stored]
      rfl

/-- The record has been read. -/
theorem of_read {resource : ResourceId} {field : BookField}
    (represents : Represents machine manager)
    (alone : manager.Alone id ⟨session, request, .reading resource field⟩)
    (seated : manager.seats.get? session = some seat)
    (steady : Steady machine.next manager after)
    (advanced : Advance manager id session seat request (.reading resource field) outcome after) :
    ∃ next, InStep machine next id ⟨session, request, .reading resource field⟩ outcome after := by
  have here := represents.sound.seats session seat seated
  have head := alone.head here (by simp)
  have held := (here.tally_served head alone.found).held_of_window rfl
  cases advanced with
  | @readDone _ _ _ book copied =>
    have own : machine.own? session resource = some book := by
      rw [represents.own_eq, copy?, seated]
      exact copied
    refine ⟨_, .of_end (represents.drop steady (by simp) ?_ held) rfl ?_⟩
    · intro other asked
      simp
    · simp [Machine.proceed, own]

/-- The store has taken the book or refused it. -/
theorem of_store {resource : ResourceId} {edited : Book}
    (represents : Represents machine manager)
    (alone : manager.Alone id ⟨session, request, .storing resource edited⟩)
    (seated : manager.seats.get? session = some seat)
    (steady : Steady machine.next manager after)
    (advanced : Advance manager id session seat request (.storing resource edited) outcome after) :
    ∃ next, InStep machine next id ⟨session, request, .storing resource edited⟩ outcome after := by
  have here := represents.sound.seats session seat seated
  have head := alone.head here (by simp)
  have tally := here.tally_served head alone.found
  have held := tally.held_of_window rfl
  have named : edited.id = resource := by
    apply represents.named session resource edited
    simp [copy?, seated, tally.2]
  cases advanced with
  | refused missing =>
    rw [named, represents.records] at missing
    rw [named]
    refine ⟨_, .of_end (represents.drop steady (by simp) ?_ held) rfl ?_⟩
    · intro other asked
      simp
    · simp [Machine.proceed, Machine.commit, Index.contains, missing]
  | stored present =>
    have kept : Represents (machine.store resource edited)
        { manager with store := manager.store.put edited } := by
      rw [← named]
      exact represents.put_outside edited
    rw [named, represents.records] at present
    refine ⟨_, .of_end (kept.drop ⟨steady.sound, steady.numbered, steady.users⟩ (by simp [record])
      ?_ held) rfl ?_⟩
    · intro other asked
      simp
    · exact Machine.commit_of_get present edited

theorem of_resume (represents : Represents machine manager)
    (alone : manager.Alone id ⟨session, request, phase⟩)
    (live : request ≠ .removeSession → machine.live.contains session = true) :
    ∃ next, InStep machine next id ⟨session, request, phase⟩ (manager.resume id).1
      (manager.resume id).2 := by
  obtain ⟨seat, seated⟩ := represents.sound.seated id _ alone.found
  have steady := represents.steady_resume alone.found
  have advanced := resume_advance represents.sound alone.found seated
  generalize (manager.resume id).1 = outcome at advanced ⊢
  generalize (manager.resume id).2 = after at advanced steady ⊢
  cases phase with
  | arriving =>
    cases advanced with
    | queued =>
      refine ⟨machine, .of_wait (represents.same steady rfl ?_) rfl rfl⟩
      intro other resource
      rw [copy?_setCall, copy?_setSeat]
      split
      · rename_i same
        rw [← same]
        simp [copy?, seated]
      · rfl
  | waiting => exact of_serve represents alone live seated steady advanced
  | loading resource => exact of_load represents alone seated steady advanced
  | writing resource edited =>
    cases advanced with
    | worked => exact ⟨machine, .of_wait (represents.same steady rfl (by simp)) rfl rfl⟩
  | reading resource field => exact of_read represents alone seated steady advanced
  | storing resource edited => exact of_store represents alone seated steady advanced

end InStep

end RecordLocks
