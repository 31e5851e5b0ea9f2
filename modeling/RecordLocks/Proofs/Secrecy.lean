import RecordLocks.Proofs.Veils
import RecordLocks.Proofs.LostUpdate
import RecordLocks.Proofs.AuditTrail
namespace RecordLocks

/-- The same session, with the same outcome but for the contents of records if it is the one that
edits in secret. -/
structure Answer.Like (spy : SessionId) (one two : SessionId × Outcome) : Prop where
  session : two.1 = one.1
  outcome : Outcome.Like (one.1 ≠ spy) one.2 two.2

/-- The same act, or the issue of an edit with another value by one session. -/
inductive Act.Like (spy : SessionId) : Act → Act → Prop
  | refl (act) : Like spy act act
  | edit (id resource field value other) :
    Like spy (.issue id spy (.edit resource field value)) (.issue id spy (.edit resource field other))

namespace Manager

/-- In the act an edit of the record by the session succeeds, with another value in each run. -/
def SecretEdit (spy : SessionId) (resource : ResourceId) (one two : Manager) (act : Act) : Prop :=
  ∃ id here there field value other reply, act = .resume id ∧
    one.calls.get? id = some here ∧ two.calls.get? id = some there ∧ here.session = spy ∧
    here.request = .edit resource field value ∧ there.request = .edit resource field other ∧
    value ≠ other ∧ (one.resume id).1 = some (.ok reply)

/-- Two runs act by act: what the first makes of a manager. -/
def first (manager : Manager) (twins : List (Act × Act)) : Manager :=
  manager.run (twins.map (·.1))

/-- What the second of two runs makes of a manager. -/
def second (manager : Manager) (twins : List (Act × Act)) : Manager :=
  manager.run (twins.map (·.2))

/-- The session has edited the record otherwise in the second run, and it has still got that
copy. -/
def Secret (manager : Manager) (spy : SessionId) (twins : List (Act × Act))
    (resource : ResourceId) : Prop :=
  ∃ earlier pair later, twins = earlier ++ pair :: later ∧
    SecretEdit spy resource (manager.first earlier) (manager.second earlier) pair.1 ∧
    ∀ passed rest, later = passed ++ rest →
      ((manager.first (earlier ++ pair :: passed)).copy? spy resource).isSome

end Manager

namespace Manager.Veiled

variable {spy : SessionId} {secret : SessionId → ResourceId → Prop} {one two : Manager}
  {id : CallId}

theorem resume (veiled : Veiled spy secret one two)
    (own : ∀ session resource, secret session resource → session = spy)
    (here : one.Sound) (there : two.Sound)
    (uncommitted : ∀ resource, secret spy resource → ¬ one.Commits (.resume id) spy resource) :
    Veiled spy (fun session resource => secret session resource ∨
        session = spy ∧ SecretEdit spy resource one two (.resume id))
      (one.resume id).2 (two.resume id).2 ∧
    Option.Rel (Answer.Like spy) (one.answered? (.resume id)) (two.answered? (.resume id)) := by
  cases found : one.calls.get? id with
  | none =>
    have missing := rel_of_none (veiled.calls id) found
    simp only [answered?, resume_of_none found, resume_of_none missing, found, missing]
    exact ⟨veiled.mono fun _ _ hides => .inl hides, .none⟩
  | some call =>
    obtain ⟨session, request, phase⟩ := call
    obtain ⟨⟨caller, asked, reached⟩, also, like⟩ := rel_of_some (veiled.calls id) found
    have same : caller = session := like.session
    subst same
    obtain ⟨seat, seated⟩ := here.seated id _ found
    obtain ⟨place, placed, places⟩ := rel_of_some (veiled.seats caller) seated
    have advanced := resume_advance here found seated
    -- A secret copy that the store took would have been committed.
    have kept : ∀ resource edited, phase = .storing resource edited →
        (one.resume id).1 = some (.ok (.book edited)) → reached = phase := by
      rintro resource edited rfl stored
      have phases := like.phase
      cases phases with
      | refl => rfl
      | storing _ books =>
        by_cases hides : secret caller resource
        · have spying := own caller resource hides
          subst spying
          have stores : request.stores? = some resource := by
            rcases here.fits id _ found with ⟨field, value, rfl⟩ | rfl <;> rfl
          exact absurd ⟨id, request, _, _, rfl, found, stores, stored⟩
            (uncommitted resource hides)
        · rw [books.same hides]
    have wide : ∀ session resource, secret session resource → secret session resource ∨
        session = spy ∧ SecretEdit spy resource one two (.resume id) :=
      fun _ _ hides => .inl hides
    -- An edit with another value that succeeds is what makes the copy a secret.
    have marked : ∀ resource field value other reply, request = .edit resource field value →
        asked = .edit resource field other → (one.resume id).1 = some (.ok reply) →
        ¬ (secret caller resource ∨
          caller = spy ∧ SecretEdit spy resource one two (.resume id)) → other = value := by
      rintro resource field value other reply rfl rfl succeeds shown
      by_contra differs
      have requests := like.request
      cases requests with
      | refl => exact differs rfl
      | edit spying =>
        exact shown (.inr ⟨spying, id, _, _, field, value, other, reply, rfl, found, also,
          spying, rfl, rfl, Ne.symm differs, succeeds⟩)
    obtain ⟨answer, later, mirrored, veils, alike⟩ :=
      (veiled.mono wide).advance (fun session resource hides => hides.elim
        (own session resource) And.left) (places.mono (wide caller)) like.request
        (like.phase.mono (wide caller)) kept marked advanced
    have resumed := resume_of_advance there also placed mirrored
    rw [resumed]
    refine ⟨veils, ?_⟩
    simp only [answered?, found, also, resumed, Option.bind_some]
    generalize (one.resume id).1 = outcome at alike
    cases alike with
    | none => exact .none
    | some outcomes => exact .some ⟨rfl, outcomes⟩

theorem step (veiled : Veiled spy secret one two)
    (own : ∀ session resource, secret session resource → session = spy)
    (here : one.Sound) (there : two.Sound) {act twin : Act} (like : Act.Like spy act twin)
    (uncommitted : ∀ resource, secret spy resource → ¬ one.Commits act spy resource) :
    Veiled spy (fun session resource => secret session resource ∨
        session = spy ∧ SecretEdit spy resource one two act) (one.step act) (two.step twin) ∧
    Option.Rel (Answer.Like spy) (one.answered? act) (two.answered? twin) := by
  have wide : ∀ {before after : Manager}, Veiled spy secret before after →
      Veiled spy (fun session resource => secret session resource ∨
        session = spy ∧ SecretEdit spy resource one two act) before after :=
    fun veils => veils.mono fun _ _ hides => .inl hides
  have issued : ∀ {session request asked} (id : CallId),
      Request.Like (session = spy) request asked →
      Veiled spy secret (one.issue id session request).2 (two.issue id session asked).2 ∧
      Option.Rel (Answer.Like spy) (one.answered? (.issue id session request))
        (two.answered? (.issue id session asked)) := by
    intro session request asked id requests
    obtain ⟨veils, same⟩ := veiled.issue id requests
    refine ⟨veils, ?_⟩
    simp only [answered?, same]
    cases (one.issue id session request).1 with
    | none => exact .none
    | some outcome => exact .some ⟨rfl, rfl, fun _ => rfl⟩
  cases like with
  | edit id resource field value other =>
    obtain ⟨veils, answers⟩ := issued id (.edit rfl resource field value other)
    exact ⟨wide veils, answers⟩
  | refl =>
    cases act with
    | enter user =>
      have entered : Veiled spy secret (one.enter user).2 (two.enter user).2 :=
        ⟨veiled.store, veiled.locks, veiled.trail,
          by simp only [Manager.enter, veiled.nextSession],
          by simp only [Manager.enter, veiled.nextSession, veiled.entrants], veiled.seats,
          veiled.calls⟩
      exact ⟨wide entered, .none⟩
    | enlist session => exact ⟨wide (veiled.enlist session), .none⟩
    | turnAway session =>
      have away : Veiled spy secret (one.turnAway session) (two.turnAway session) :=
        ⟨veiled.store, veiled.locks, veiled.trail, veiled.nextSession,
          by simp only [turnAway, veiled.entrants], veiled.seats, veiled.calls⟩
      exact ⟨wide away, .none⟩
    | issue id session request =>
      obtain ⟨veils, answers⟩ := issued id (.refl request)
      exact ⟨wide veils, answers⟩
    | resume id => exact veiled.resume own here there uncommitted
    | cancel id => exact ⟨wide veiled.cancel, .none⟩
    | store act =>
      refine ⟨wide ?_, .none⟩
      simp only [Manager.step, veiled.store]
      exact veiled.withStore _
end Manager.Veiled

namespace Manager

variable {manager : Manager} {spy : SessionId} {twins : List (Act × Act)} {pair : Act × Act}
  {resource : ResourceId}

theorem first_append_singleton (manager : Manager) (twins : List (Act × Act))
    (pair : Act × Act) : manager.first (twins ++ [pair]) = (manager.first twins).step pair.1 := by
  simp [first]

theorem second_append_singleton (manager : Manager) (twins : List (Act × Act))
    (pair : Act × Act) :
    manager.second (twins ++ [pair]) = (manager.second twins).step pair.2 := by
  simp [second]

/-- A secret stays one as long as its copy is there. -/
theorem Secret.append_singleton
    (secret : manager.Secret spy twins resource ∨
      SecretEdit spy resource (manager.first twins) (manager.second twins) pair.1)
    (present : ((manager.first (twins ++ [pair])).copy? spy resource).isSome) :
    manager.Secret spy (twins ++ [pair]) resource := by
  rcases secret with ⟨earlier, edit, later, rfl, edited, held⟩ | edited
  · refine ⟨earlier, edit, later ++ [pair], by simp, edited, ?_⟩
    intro passed rest split
    rcases List.eq_nil_or_concat rest with rfl | ⟨before, last, rfl⟩
    · rw [List.append_nil] at split
      rw [← split]
      simpa using present
    · have shorter : later = passed ++ before := by
        rw [List.concat_eq_append, ← List.append_assoc] at split
        exact (List.append_inj' split rfl).1
      exact held passed before shorter
  · refine ⟨twins, pair, [], rfl, edited, ?_⟩
    intro passed rest split
    obtain ⟨rfl, -⟩ := List.nil_eq_append_iff.mp split
    exact present

theorem openings_second (like : ∀ pair ∈ twins, Act.Like spy pair.1 pair.2) :
    Act.openings (twins.map (·.2)) = Act.openings (twins.map (·.1)) := by
  induction twins with
  | nil => rfl
  | cons pair rest ih =>
    have same : Act.openings [pair.2] = Act.openings [pair.1] := by
      have related := like pair (by simp)
      generalize pair.1 = act at related
      generalize pair.2 = twin at related
      cases related <;> rfl
    have others := ih fun other member => like other (List.mem_cons_of_mem _ member)
    simp only [List.map_cons]
    rw [Act.openings_cons, same, others, ← Act.openings_cons]

/-- No act of the runs commits a secret copy. -/
def KeepsSecrets (manager : Manager) (spy : SessionId) (twins : List (Act × Act)) : Prop :=
  ∀ earlier pair later resource, twins = earlier ++ pair :: later →
    manager.Secret spy earlier resource → ¬ (manager.first earlier).Commits pair.1 spy resource

theorem KeepsSecrets.earlier {later : List (Act × Act)}
    (keeps : manager.KeepsSecrets spy (twins ++ later)) : manager.KeepsSecrets spy twins := by
  intro earlier pair rest resource split
  apply keeps earlier pair (rest ++ later) resource
  rw [split]
  simp

/-- If the runs have differed in nothing but secrets, they do not in one act more. -/
theorem veiled_step (store : RecordStore)
    (like : ∀ member ∈ twins ++ [pair], Act.Like spy member.1 member.2)
    (few : Act.openings ((twins ++ [pair]).map (·.1)) ≤ 2 ^ 64)
    (keeps : (start store).KeepsSecrets spy (twins ++ [pair]))
    (veiled : Veiled spy
      (fun session resource => session = spy ∧ (start store).Secret spy twins resource)
      ((start store).first twins) ((start store).second twins)) :
    Veiled spy
      (fun session resource => session = spy ∧ (start store).Secret spy (twins ++ [pair]) resource)
      ((start store).first (twins ++ [pair])) ((start store).second (twins ++ [pair])) ∧
    Option.Rel (Answer.Like spy) (((start store).first twins).answered? pair.1)
      (((start store).second twins).answered? pair.2) := by
  have few_second : Act.openings ((twins ++ [pair]).map (·.2)) ≤ 2 ^ 64 := by
    rw [openings_second like]
    exact few
  have opened : Act.openings (twins.map (·.1)) ≤ 2 ^ 64 := by
    rw [List.map_append, Act.openings_append] at few
    omega
  have opened_second : Act.openings (twins.map (·.2)) ≤ 2 ^ 64 := by
    rw [List.map_append, Act.openings_append] at few_second
    omega
  have here : ((start store).first twins).Sound := (sound_run store _ opened).1
  have there : ((start store).second twins).Sound := (sound_run store _ opened_second).1
  have after : ((start store).first (twins ++ [pair])).Sound := (sound_run store _ few).1
  obtain ⟨veils, answers⟩ := veiled.step (fun _ _ hides => hides.1) here there (like pair (by simp))
    fun resource hides => keeps twins pair [] resource rfl hides.2
  rw [← first_append_singleton, ← second_append_singleton] at veils
  refine ⟨(veils.tighten after).mono ?_, answers⟩
  rintro session resource ⟨⟨rfl, secret⟩ | ⟨rfl, edited⟩, present⟩
  · exact ⟨rfl, .append_singleton (.inl secret) present⟩
  · exact ⟨rfl, .append_singleton (.inr edited) present⟩

theorem veiled_run (store : RecordStore) (twins : List (Act × Act))
    (like : ∀ pair ∈ twins, Act.Like spy pair.1 pair.2)
    (few : Act.openings (twins.map (·.1)) ≤ 2 ^ 64)
    (keeps : (start store).KeepsSecrets spy twins) :
    Veiled spy (fun session resource => session = spy ∧ (start store).Secret spy twins resource)
      ((start store).first twins) ((start store).second twins) := by
  induction twins using List.reverseRecOn with
  | nil => exact .refl (start store)
  | append_singleton earlier pair ih =>
    have opened : Act.openings (earlier.map (·.1)) ≤ 2 ^ 64 := by
      rw [List.map_append, Act.openings_append] at few
      omega
    have before := ih (fun other member => like other (by simp [member])) opened keeps.earlier
    exact (veiled_step store like few keeps before).1

/-- Uncommitted edits are invisible. Take two runs with the same acts, but for the values that one
session passes to edits, and let no copy that it has edited otherwise be committed. At all times
the stored books, the locks and the records of what happened are the same in both runs. So are all
answers to other sessions, and the session itself is told the same but for the contents of
records. -/
theorem uncommitted_edits_are_invisible (store : RecordStore) (spy : SessionId)
    (twins : List (Act × Act)) (like : ∀ pair ∈ twins, Act.Like spy pair.1 pair.2)
    (few : Act.openings (twins.map (·.1)) ≤ 2 ^ 64)
    (keeps : (start store).KeepsSecrets spy twins) :
    (∀ earlier later, twins = earlier ++ later →
      let one := (start store).first earlier
      let two := (start store).second earlier
      two.store = one.store ∧ two.locks = one.locks ∧ two.trail = one.trail ∧
        two.nextSession = one.nextSession) ∧
    (∀ earlier pair later, twins = earlier ++ pair :: later →
      Option.Rel (Answer.Like spy) (((start store).first earlier).answered? pair.1)
        (((start store).second earlier).answered? pair.2)) := by
  have before : ∀ earlier later, twins = earlier ++ later →
      (∀ pair ∈ earlier, Act.Like spy pair.1 pair.2) ∧
        Act.openings (earlier.map (·.1)) ≤ 2 ^ 64 ∧ (start store).KeepsSecrets spy earlier := by
    rintro earlier later rfl
    rw [List.map_append, Act.openings_append] at few
    exact ⟨fun pair member => like pair (by simp [member]), by omega, keeps.earlier⟩
  constructor
  · intro earlier later split
    obtain ⟨alike, opened, kept⟩ := before earlier later split
    have veiled := veiled_run store earlier alike opened kept
    exact ⟨veiled.store, veiled.locks, veiled.trail, veiled.nextSession⟩
  · intro earlier pair later split
    obtain ⟨alike, opened, kept⟩ := before earlier (pair :: later) split
    obtain ⟨both, together, keeping⟩ := before (earlier ++ [pair]) later (by simp [split])
    exact (veiled_step store both together keeping (veiled_run store earlier alike opened kept)).2

/-- One session checks a record out, edits it and throws the copy away. Another one asks for the
record in the meantime, and again afterwards. -/
def editAndDiscard (value : String) : List Act :=
  [.enter "ann", .enlist ⟨0⟩, .enter "bob", .enlist ⟨1⟩, .issue 0 ⟨0⟩ (.checkout 7), .resume 0,
    .resume 0, .resume 0, .issue 1 ⟨0⟩ (.edit 7 .title value), .resume 1, .resume 1,
    .issue 2 ⟨1⟩ (.checkout 7), .resume 2, .resume 2, .issue 3 ⟨0⟩ (.discard 7), .resume 3,
    .resume 3, .issue 4 ⟨1⟩ (.checkout 7), .resume 4, .resume 4, .resume 4]

theorem uncommitted_edits_are_invisible_of_editAndDiscard :
    Act.openings (editAndDiscard "here") ≤ 2 ^ 64 ∧
      ((start (.ofBooks [.titled 7 "old"])).run (editAndDiscard "there")).trail =
        ((start (.ofBooks [.titled 7 "old"])).run (editAndDiscard "here")).trail ∧
      ((start (.ofBooks [.titled 7 "old"])).run (editAndDiscard "there").dropLast).answered?
        (.resume 4) = some (⟨1⟩, .ok (.book (.titled 7 "old"))) := by
  let twins := (editAndDiscard "here").zip (editAndDiscard "there")
  have few : Act.openings (twins.map (·.1)) ≤ 2 ^ 64 := by decide
  have like : ∀ pair ∈ twins, Act.Like ⟨0⟩ pair.1 pair.2 := by
    intro pair member
    simp only [twins, editAndDiscard, List.zip_cons_cons, List.zip_nil_left, List.mem_cons,
      List.not_mem_nil, or_false] at member
    rcases member with rfl | rfl | rfl | rfl | rfl | rfl | rfl | rfl | rfl | rfl | rfl | rfl |
      rfl | rfl | rfl | rfl | rfl | rfl | rfl | rfl | rfl
    case inr.inr.inr.inr.inr.inr.inr.inr.inl => exact .edit 1 7 .title "here" "there"
    all_goals exact .refl _
  have idle : ∀ count < twins.length,
      ∀ entry ∈ ((start (.ofBooks [.titled 7 "old"])).first (twins.take count)).calls.toList,
        entry.2.request.stores? = none := by
    decide
  have keeps : (start (.ofBooks [.titled 7 "old"])).KeepsSecrets ⟨0⟩ twins := by
    rintro earlier pair later resource split secret ⟨id, request, phase, -, -, found, stores, -⟩
    have inside : earlier.length < twins.length := by simp [split]
    have part : twins.take earlier.length = earlier := by simp [split]
    have none_stores := idle earlier.length inside ⟨id, ⟨0⟩, request, phase⟩
      (Index.mem_toList.mpr (by rw [part, found]))
    exact absurd (stores.symm.trans none_stores) (by simp)
  obtain ⟨same, answers⟩ := uncommitted_edits_are_invisible _ ⟨0⟩ twins like few keeps
  refine ⟨few, (same twins [] (by simp)).2.2.1, ?_⟩
  have last := answers twins.dropLast (.resume 4, .resume 4) [] rfl
  have here : ((start (.ofBooks [.titled 7 "old"])).first twins.dropLast).answered? (.resume 4) =
      some (⟨1⟩, .ok (.book (.titled 7 "old"))) := by
    decide
  obtain ⟨⟨session, outcome⟩, there, alike⟩ := rel_of_some last here
  obtain rfl : session = ⟨1⟩ := alike.session
  obtain rfl : outcome = .ok (.book (.titled 7 "old")) := alike.outcome.same (by decide)
  exact there

end Manager

end RecordLocks
