import RecordLocks.CommandLine.Run
import RecordLocks.Proofs.CodedValues
import RecordLocks.Proofs.JsonLines
import RecordLocks.Proofs.TakingTurns
namespace RecordLocks

namespace BookField

/-- How a field may be written in a command. -/
def spellings : BookField → List String
  | title => ["Title", "title"]
  | author => ["Author", "author"]

variable {name : String} {field : BookField}

theorem ofName_of_spelling (spelt : name ∈ field.spellings) : ofName name = .ok field := by
  cases field <;>
  · simp only [spellings, List.mem_cons, List.not_mem_nil, or_false] at spelt
    rcases spelt with rfl | rfl <;> rfl

theorem ofName_of_misspelt (misspelt : ∀ field : BookField, name ∉ field.spellings) :
    ofName name = .error (.invalidField name) := by
  have noTitle := misspelt .title
  have noAuthor := misspelt .author
  simp only [spellings, List.mem_cons, List.not_mem_nil, or_false] at noTitle noAuthor
  rw [ofName, if_neg noTitle, if_neg noAuthor]

end BookField

namespace Machine

/-- A request that locks a record for as long as it works on it, and answers from its book. -/
structure Visit (request : Request) (resource : ResourceId) (reply : Book → Reply) : Prop where
  locks : ∀ (machine : Machine) (session : SessionId),
    machine.serve session request = machine.lock session resource request
  answers : ∀ (machine : Machine) (session : SessionId) (book : Book),
    (machine.work session resource book request).1 = .ok (reply book)
  stays : ∀ (machine : Machine) (session : SessionId) (book : Book),
    (machine.work session resource book request).2.live = machine.live

theorem visit_write (resource : ResourceId) (field : BookField) (value : String) :
    Visit (.write resource field value) resource fun book => .book (book.set field value) :=
  ⟨fun _ _ => rfl, fun _ _ _ => rfl, fun _ _ _ => rfl⟩

theorem visit_read (resource : ResourceId) (field : BookField) :
    Visit (.read resource field) resource fun book => .text (book.get field) :=
  ⟨fun _ _ => rfl, fun _ _ _ => rfl, fun _ _ _ => rfl⟩

variable {machine : Machine} {session : SessionId} {resource : ResourceId} {request : Request}
  {reply : Book → Reply}

/-- Where nobody has a draft the stored book answers, and the sessions stay. -/
theorem Visit.ends (visit : Visit request resource reply)
    (live : machine.live.contains session = true) (undrafted : machine.drafts = ∅) :
    (machine.request session request).1 =
        (match machine.records.get? resource with
          | none => .error (.recordNotFound resource)
          | some book => .ok (reply book)) ∧
      (machine.request session request).2.live = machine.live := by
  have free : ∀ holder copy, machine.drafts.get? resource = some (holder, copy) →
      holder = session := by
    intro holder copy drafted
    rw [undrafted] at drafted
    cases drafted
  have uncopied : machine.own? session resource = none := by
    rw [own?, undrafted]
    rfl
  rw [Machine.request, if_pos live, visit.locks, lock_of_free free]
  cases stored : machine.records.get? resource with
  | none =>
    rw [load, stored]
    exact ⟨rfl, rfl⟩
  | some book =>
    rw [load_of_get stored, uncopied]
    exact ⟨visit.answers machine session book, visit.stays machine session book⟩

theorem request_removeSession (live : machine.live.contains session = true) :
    (machine.request session .removeSession).1 = .ok (.resources (machine.held session)) := by
  rw [Machine.request, if_pos live]
  rfl

end Machine

namespace Report

/-- Adds the book of the walkthrough to an empty store. -/
def stocked (settings : Settings) : Except AccessError Timeline :=
  match RecordStore.empty.add settings.demoBook with
  | (.error error, _) => .error error
  | (.ok (), store) => .ok (.start settings.latency store)

/-- The session is removed after its answer has been printed. -/
def takeLeave (file : SettingsFile) (session : SessionId) (reply : Reply) (timeline : Timeline) :
    Report :=
  let printed := [⟨timeline.now, accessLine reply⟩]
  match (timeline.ask 1 session .removeSession).1 with
  | some (.answered (.ok _)) => ⟨0, printed, "", file⟩
  | some (.answered (.error error)) => ⟨1, printed, (Failure.ofText error.message).text, file⟩
  | _ => ⟨1, printed, (Failure.ofText WalkthroughError.cancelled.message).text, file⟩

/-- Opens a session for the user, which asks for the record. -/
def inquire (file : SettingsFile) (user : String) (request : Request) (timeline : Timeline) :
    Report :=
  let (session, manager) := timeline.manager.openSession user
  let (ending, after) := (timeline.withManager manager).ask 0 session request
  match ending with
  | some (.answered (.ok reply)) => takeLeave file session reply after
  | some (.answered (.error error)) => .failure file (.explained error)
  | _ => .failure file (.ofText WalkthroughError.cancelled.message)

/-- Finds out the field, adds the book, opens a session for the user, asks for the record, prints
the answer and removes the session, up to the first of these that fails. -/
def accessInSteps (settings : Settings) (file : SettingsFile) (user fieldName : String)
    (book : Option ResourceId) (request : ResourceId → BookField → Request) : Report :=
  match BookField.ofName fieldName with
  | .error error => .failure file (.ofText error.message)
  | .ok field =>
    match stocked settings with
    | .error error => .failure file (.ofText error.message)
    | .ok timeline => inquire file user (request (book.getD settings.demo.bookId) field) timeline

/-- What the machine is like for the first session, with the book of the walkthrough only. -/
def visited (settings : Settings) (user : String) : Machine :=
  ((Machine.start (RecordStore.ofBooks [settings.demoBook]).books).newSession user).2

/-- The time and the ending of a request by the first session, which is the user's. -/
def asked (settings : Settings) (user : String) (request : Request) : Nat × Option Ending :=
  let (session, manager) := settings.timeline.manager.openSession user
  let (ending, after) := (settings.timeline.withManager manager).ask 0 session request
  (after.now, ending)

/-- The report on a request. -/
def told (file : SettingsFile) : Nat × Option Ending → Report
  | (time, some (.answered (.ok reply))) => ⟨0, [⟨time, accessLine reply⟩], "", file⟩
  | (_, some (.answered (.error error))) => .failure file (.explained error)
  | (_, _) => .failure file (.ofText WalkthroughError.cancelled.message)

section Inquiry

variable {settings : Settings} {user : String} {resource : ResourceId} {request : Request}
  {reply : Book → Reply} {timeline : Timeline}

theorem get?_visited (settings : Settings) (user : String) (resource : ResourceId) :
    (visited settings user).records.get? resource =
      if settings.demo.bookId = resource then some settings.demoBook else none :=
  Index.get?_insert ∅ settings.demo.bookId resource settings.demoBook

theorem live_visited (settings : Settings) (user : String) :
    (visited settings user).live.contains ⟨0⟩ = true := rfl

/-- The first session has number zero, and it finds the manager at rest. -/
theorem opened (settings : Settings) (user : String) :
    ∃ manager, settings.timeline.manager.openSession user = (⟨0⟩, manager) ∧
      (settings.timeline.withManager manager).Quiet (visited settings user) := by
  have few : 0 + Turn.openings [.newSession user] ≤ 2 ^ 64 := by
    show 0 + 1 ≤ 2 ^ 64
    omega
  obtain ⟨named, quiet, -⟩ :=
    (Timeline.quiet_start settings.latency [settings.demoBook]).take 0 (.newSession user) few
  exact ⟨_, Prod.ext (Answer.session.inj named) rfl, quiet⟩

theorem takeLeave_eq {machine : Machine} {session : SessionId} (quiet : timeline.Quiet machine)
    (live : machine.live.contains session = true) (file : SettingsFile) (reply : Reply) :
    takeLeave file session reply timeline = ⟨0, [⟨timeline.now, accessLine reply⟩], "", file⟩ := by
  have removed := (quiet.ask 1 session .removeSession).1
  rw [Machine.request_removeSession live] at removed
  simp only [takeLeave, removed]

/-- The session that has asked can be removed, so that the report is that on its request. -/
theorem inquire_eq (visit : Machine.Visit request resource reply) (settings : Settings)
    (file : SettingsFile) (user : String) :
    inquire file user request settings.timeline = told file (asked settings user request) := by
  obtain ⟨manager, entered, quiet⟩ := opened settings user
  obtain ⟨ended, later⟩ := quiet.ask 0 ⟨0⟩ request
  have stays := (visit.ends (live_visited settings user) rfl).2
  have live : ((visited settings user).request ⟨0⟩ request).2.live.contains ⟨0⟩ = true := by
    rw [stays]
    exact live_visited settings user
  simp only [inquire, asked, entered, ended]
  cases ((visited settings user).request ⟨0⟩ request).1 with
  | error error => rfl
  | ok reply => exact takeLeave_eq later live file reply

theorem asked_eq (visit : Machine.Visit request resource reply) (settings : Settings)
    (user : String) :
    ∃ time, asked settings user request = (time, some (.answered
      (if settings.demo.bookId = resource then .ok (reply settings.demoBook)
        else .error (.recordNotFound resource)))) := by
  obtain ⟨manager, entered, quiet⟩ := opened settings user
  have answered := (visit.ends (live_visited settings user) rfl).1
  rw [get?_visited] at answered
  have ended := (quiet.ask 0 ⟨0⟩ request).1
  rw [answered] at ended
  refine ⟨((settings.timeline.withManager manager).ask 0 ⟨0⟩ request).2.now, ?_⟩
  simp only [asked, entered, ended]
  by_cases own : settings.demo.bookId = resource
  · rw [if_pos own, if_pos own]
  · rw [if_neg own, if_neg own]

end Inquiry

/-- A kind of request on a field of a record, and what a book answers to it. -/
abbrev Visits (request : ResourceId → BookField → Request) (reply : BookField → Book → Reply) :
    Prop :=
  ∀ resource field, Machine.Visit (request resource field) resource (reply field)

section Access

variable {settings : Settings} {file : SettingsFile} {user fieldName : String}
  {field : BookField} {book : Option ResourceId} {other : ResourceId}
  {request : ResourceId → BookField → Request} {reply : BookField → Book → Reply}

/-- The report leaves out the removal of the session, which makes no difference. -/
theorem access_eq (visits : Visits request reply) (settings : Settings) (file : SettingsFile)
    (fieldName : String) (book : Option ResourceId) :
    access settings file fieldName book request =
      accessInSteps settings file "cli" fieldName book request := by
  rw [access, accessInSteps]
  cases BookField.ofName fieldName with
  | error error => rfl
  | ok field => exact (inquire_eq (visits _ field) settings file "cli").symm

theorem accessInSteps_of_misspelt (misspelt : ∀ field : BookField, fieldName ∉ field.spellings) :
    accessInSteps settings file user fieldName book request =
      .failure file (.ofText (AccessError.invalidField fieldName).message) := by
  rw [accessInSteps, BookField.ofName_of_misspelt misspelt]

theorem accessInSteps_of_spelling (visits : Visits request reply)
    (spelt : fieldName ∈ field.spellings) :
    accessInSteps settings file user fieldName book request =
      told file (asked settings user (request (book.getD settings.demo.bookId) field)) := by
  rw [accessInSteps, BookField.ofName_of_spelling spelt]
  exact inquire_eq (visits _ field) settings file user

theorem accessInSteps_of_own (visits : Visits request reply) (spelt : fieldName ∈ field.spellings)
    (own : book = none ∨ book = some settings.demo.bookId) :
    ∃ time, accessInSteps settings file user fieldName book request =
      ⟨0, [⟨time, accessLine (reply field settings.demoBook)⟩], "", file⟩ := by
  have chosen : book.getD settings.demo.bookId = settings.demo.bookId := by
    rcases own with rfl | rfl <;> rfl
  obtain ⟨time, ending⟩ := asked_eq (visits settings.demo.bookId field) settings user
  rw [accessInSteps_of_spelling visits spelt, chosen, ending, if_pos rfl]
  exact ⟨time, rfl⟩

theorem accessInSteps_of_other (visits : Visits request reply)
    (spelt : fieldName ∈ field.spellings) (foreign : other ≠ settings.demo.bookId) :
    accessInSteps settings file user fieldName (some other) request =
      .failure file (.explained (.recordNotFound other)) := by
  obtain ⟨time, ending⟩ := asked_eq (visits other field) settings user
  rw [accessInSteps_of_spelling visits spelt, Option.getD_some, ending, if_neg foreign.symm]
  rfl

/-- When a command on a record is done, and what it reports when it is not: a name that is no field
is refused whatever the record, and a record that is not there without a hint. -/
structure Decides (settings : Settings) (file : SettingsFile) (fieldName : String)
    (book : Option ResourceId) (report : Report) : Prop where
  success : report.exitCode = 0 ↔ (∃ field : BookField, fieldName ∈ field.spellings) ∧
    (book = none ∨ book = some settings.demo.bookId)
  silent : report.exitCode ≠ 0 → report.printed = []
  misspelt : (∀ field : BookField, fieldName ∉ field.spellings) →
    report = .failure file (.ofText (AccessError.invalidField fieldName).message)
  foreign : ∀ (field : BookField) (other : ResourceId), fieldName ∈ field.spellings →
    book = some other → other ≠ settings.demo.bookId →
    report = .failure file (.ofText s!"[E002] {(AccessError.recordNotFound other).message}")

theorem decides_accessInSteps (visits : Visits request reply) (settings : Settings)
    (file : SettingsFile) (user fieldName : String) (book : Option ResourceId) :
    Decides settings file fieldName book
      (accessInSteps settings file user fieldName book request) := by
  by_cases named : ∃ field : BookField, fieldName ∈ field.spellings
  · obtain ⟨field, spelt⟩ := named
    by_cases own : book = none ∨ book = some settings.demo.bookId
    · obtain ⟨time, done⟩ : ∃ time, accessInSteps settings file user fieldName book request =
        ⟨0, [⟨time, accessLine (reply field settings.demoBook)⟩], "", file⟩ :=
        accessInSteps_of_own visits spelt own
      rw [done]
      refine ⟨⟨fun _ => ⟨⟨field, spelt⟩, own⟩, fun _ => rfl⟩, fun failed => absurd rfl failed,
        fun misspelt => absurd spelt (misspelt field), ?_⟩
      rintro _ other - rfl foreign
      simp [foreign] at own
    · obtain ⟨other, rfl⟩ : ∃ other, book = some other := by
        cases book with
        | none => simp at own
        | some other => exact ⟨other, rfl⟩
      have foreign : other ≠ settings.demo.bookId := fun same => own (.inr (by rw [same]))
      rw [accessInSteps_of_other visits spelt foreign]
      refine ⟨⟨fun done => absurd done Nat.one_ne_zero, fun ⟨_, chosen⟩ => absurd chosen own⟩,
        fun _ => rfl, fun misspelt => absurd spelt (misspelt field), ?_⟩
      rintro _ _ - ⟨⟩ -
      rfl
  · have misspelt : ∀ field : BookField, fieldName ∉ field.spellings := not_exists.mp named
    rw [accessInSteps_of_misspelt misspelt]
    exact ⟨⟨fun done => absurd done Nat.one_ne_zero, fun ⟨spelt, _⟩ => absurd spelt named⟩,
      fun _ => rfl, fun _ => rfl, fun field _ spelt => absurd spelt (misspelt field)⟩

end Access

theorem output_of_one (time : Nat) (text : String) (file : SettingsFile) :
    output ⟨0, [⟨time, text⟩], "", file⟩ = text := by
  simp [output, String.join]

/-- The lines that are printed for a book are read as this book. -/
theorem read_bookLines (book : Book) :
    Coded.read (Json.renderLines (Coded.bookMembers book)) = some book := by
  have reads : ∀ member ∈ Coded.bookMembers book, Json.Reads member.2 := by
    simp only [Coded.bookMembers, List.forall_mem_cons]
    exact ⟨(Coded.kept_word book.id).whole.reads, (Coded.kept_text book.title).whole.reads,
      (Coded.kept_text book.author).whole.reads, by simp⟩
  rw [Coded.read, Coded.bookMembers, Json.read_renderLines reads]
  exact (Coded.kept_book book).decoded

theorem visits_write (value : String) :
    Visits (fun resource field => .write resource field value)
      fun field book => .book (book.set field value) :=
  fun resource field => Machine.visit_write resource field value

theorem visits_read : Visits .read fun field book => .text (book.get field) :=
  Machine.visit_read

/-- For any settings, user, name of a field, value and chosen record, a write and a read are done
if and only if the field is named and the record is the one of the settings, which is taken also
when none is chosen. Then a write prints lines that are read as the book of the settings, without
an author, in which the field has the value, whatever characters it has, and a read prints the
field of this book. A wrong name is reported whatever record has been chosen, otherwise a record
that does not exist, and then nothing is printed. With the name for the user that the program has,
these are the reports of its commands. -/
theorem book_commands_are_exact (settings : Settings) (file : SettingsFile)
    (user fieldName value : String) (book : Option ResourceId) :
    let write := accessInSteps settings file user fieldName book fun resource field =>
      .write resource field value
    let read := accessInSteps settings file user fieldName book .read
    Decides settings file fieldName book write ∧ Decides settings file fieldName book read ∧
    (∀ field : BookField, fieldName ∈ field.spellings →
      book = none ∨ book = some settings.demo.bookId →
      (∃ text, write.output = text ++ "\n" ∧ Coded.read text =
        some ((Book.mk settings.demo.bookId settings.demo.title "").set field value)) ∧
      read.output = (match field with
        | .title => settings.demo.title
        | .author => "") ++ "\n") ∧
    (user = "cli" → file.load = .ok settings → ∀ quiet,
      ofCommand file quiet (.write fieldName value book) = write ∧
      ofCommand file quiet (.read fieldName book) = read) := by
  intro write read
  refine ⟨decides_accessInSteps (visits_write value) settings file user fieldName book,
    decides_accessInSteps visits_read settings file user fieldName book, ?_, ?_⟩
  · intro field spelt own
    obtain ⟨time, written⟩ : ∃ time, write = ⟨0, [⟨time, _⟩], "", file⟩ :=
      accessInSteps_of_own (visits_write value) spelt own
    obtain ⟨later, shown⟩ : ∃ time, read = ⟨0, [⟨time, _⟩], "", file⟩ :=
      accessInSteps_of_own visits_read spelt own
    rw [written, shown, output_of_one, output_of_one]
    refine ⟨⟨_, rfl, read_bookLines _⟩, ?_⟩
    cases field <;> rfl
  · rintro rfl loaded quiet
    simp only [ofCommand, withSettings, loaded]
    exact ⟨access_eq (visits_write value) settings file fieldName book,
      access_eq visits_read settings file fieldName book⟩

/-- A value with quotes and a line break, a record that does not exist and a wrong name for it. -/
theorem book_commands_are_exact_of_quoted :
    let file : SettingsFile := ⟨"settings", .missing⟩
    file.load = .ok .standard ∧ "author" ∈ BookField.author.spellings ∧
      (∃ text, (ofCommand file false (.write "author" "\"é\"\n" none)).output = text ++ "\n" ∧
        Coded.read text = some (Book.mk 1 "The Hobbit" "\"é\"\n")) ∧
      (ofCommand file false (.read "author" (some 7))).errors =
        "Error: [E002] Record 7 not found in the record store.\n" ∧
      (ofCommand file false (.read "AUTHOR" (some 7))).errors =
        "Error: 'AUTHOR' is not a valid book field. Expected one of: Title, Author.\n" := by
  intro file
  have loaded : file.load = .ok .standard := rfl
  have spelt : "author" ∈ BookField.author.spellings := by decide
  have misspelt : ∀ field : BookField, "AUTHOR" ∉ field.spellings := by
    intro field
    cases field <;> decide
  obtain ⟨-, -, answered, program⟩ :=
    book_commands_are_exact .standard file "cli" "author" "\"é\"\n" none
  obtain ⟨-, foreign, -, another⟩ :=
    book_commands_are_exact .standard file "cli" "author" "" (some 7)
  obtain ⟨-, wrong, -, third⟩ :=
    book_commands_are_exact .standard file "cli" "AUTHOR" "" (some 7)
  refine ⟨loaded, spelt, ?_, ?_, ?_⟩
  · rw [(program rfl loaded false).1]
    exact (answered .author spelt (.inl rfl)).1
  · rw [(another rfl loaded false).2, foreign.foreign .author 7 spelt rfl (by decide)]
    rfl
  · rw [(third rfl loaded false).2, wrong.misspelt misspelt]
    rfl

end Report

end RecordLocks
