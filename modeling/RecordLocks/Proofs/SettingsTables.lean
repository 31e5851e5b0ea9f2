import RecordLocks.Proofs.JsonRecords
import RecordLocks.Settings.Source
namespace RecordLocks

namespace SettingKey

/-- What a setting is: a text or a number. -/
def Content : SettingKey → Type
  | filter | title | newTitle | rivalTitle => String
  | writeDelay | readDelay | bookId | probeDelay | settleDelay => UInt64

def group : SettingKey → String
  | writeDelay | readDelay => "manager"
  | filter => "logging"
  | bookId | title | newTitle | rivalTitle | probeDelay | settleDelay => "demo"

def field : SettingKey → String
  | writeDelay => "write_delay_ms"
  | readDelay => "read_delay_ms"
  | filter => "filter"
  | bookId => "book_id"
  | title => "title"
  | newTitle => "new_title"
  | rivalTitle => "rival_title"
  | probeDelay => "probe_delay_ms"
  | settleDelay => "settle_delay_ms"

def groups : List String := ["manager", "logging", "demo"]

def ofGroup (name : String) : List SettingKey := all.filter fun key => key.group = name

def fields (name : String) : List String := (ofGroup name).map field

theorem name_eq (key : SettingKey) : key.name = key.group ++ "." ++ key.field := by
  cases key <;> decide

def shown : (key : SettingKey) → key.Content → String
  | filter, text | title, text | newTitle, text | rivalTitle, text => text
  | writeDelay, n | readDelay, n | bookId, n | probeDelay, n | settleDelay, n => idText n

end SettingKey

/-- Values for some of the settings. -/
def Assignment : Type := (key : SettingKey) → Option key.Content

namespace Settings

def content (settings : Settings) : (key : SettingKey) → key.Content
  | .writeDelay => settings.manager.writeDelay
  | .readDelay => settings.manager.readDelay
  | .filter => settings.logging.filter
  | .bookId => settings.demo.bookId
  | .title => settings.demo.title
  | .newTitle => settings.demo.newTitle
  | .rivalTitle => settings.demo.rivalTitle
  | .probeDelay => settings.demo.probeDelay
  | .settleDelay => settings.demo.settleDelay

def ofContents (contents : (key : SettingKey) → key.Content) : Settings :=
  ⟨⟨contents .writeDelay, contents .readDelay⟩, ⟨contents .filter⟩,
    ⟨contents .bookId, contents .title, contents .newTitle, contents .rivalTitle,
      contents .probeDelay, contents .settleDelay⟩⟩

/-- The standard settings, with the assigned ones in their places. -/
def overlay (assignment : Assignment) : Settings :=
  ofContents fun key => (assignment key).getD (standard.content key)

theorem content_overlay (assignment : Assignment) (key : SettingKey) :
    (overlay assignment).content key = (assignment key).getD (standard.content key) := by
  cases key <;> rfl

/-- Settings that are all assigned are the ones that are taken. -/
theorem overlay_content (settings : Settings) :
    overlay (fun key => some (settings.content key)) = settings := rfl

theorem get_eq_shown (settings : Settings) (key : SettingKey) :
    settings.get key = key.shown (settings.content key) := by
  cases key <;> rfl

end Settings

/-- A source in which a record can be a table of members, among which its parts go by their
names. -/
class TableSource (α : Type) extends SettingsSource α where
  table : List (String × α) → α
  Unambiguous : List String → List (String × α) → Prop
  unambiguous : ∀ {names members}, (members.map Prod.fst).Nodup → Unambiguous names members
  parts?_table : ∀ {names members}, Unambiguous names members →
    parts? names (table members) = some (names.map fun name => members.lookup name)

instance : TableSource Toml.Value where
  table := .table
  Unambiguous _ _ := True
  unambiguous _ := trivial
  parts?_table _ := rfl

/-- In an object no name that counts stands twice. -/
instance : TableSource Json.Document where
  table members := .object (members.map fun member => (some member.1, member.2))
  Unambiguous names members :=
    ∀ name ∈ names, (members.filter fun member => member.1 = name).length ≤ 1
  unambiguous distinct := fun name _ => Json.length_filter_le_one distinct name
  parts?_table once := Json.fields?_object true once

theorem SettingsSource.orStandard_eq {α β : Type} {read : α → Option β} {part : Option α}
    {given : Option β} (same : part.map read = given.map some) (standard : β) :
    orStandard read standard part = some (given.getD standard) := by
  cases part <;> cases given <;> simp_all [orStandard]

section Tables

open SettingsSource TableSource

variable {α : Type} [TableSource α] {assignment : Assignment}

def SettingKey.read? : (key : SettingKey) → α → Option key.Content
  | .filter | .title | .newTitle | .rivalTitle => text?
  | .writeDelay | .readDelay | .bookId | .probeDelay | .settleDelay => word?

/-- The settings that stand in a table of their group are exactly the assigned ones. There may be
anything else. -/
def HoldsGroup (name : String) (members : List (String × α)) (assignment : Assignment) : Prop :=
  Unambiguous (SettingKey.fields name) members ∧
    ∀ key : SettingKey, key.group = name →
      (members.lookup key.field).map key.read? = (assignment key).map some

/-- The settings in the tables are exactly the assigned ones. A group without assigned settings
may be missing, and there may be anything else. -/
def Holds (members : List (String × α)) (assignment : Assignment) : Prop :=
  Unambiguous SettingKey.groups members ∧ ∀ name ∈ SettingKey.groups,
    (members.lookup name = none ∧ ∀ key : SettingKey, key.group = name → assignment key = none) ∨
      ∃ inside, members.lookup name = some (table inside) ∧ HoldsGroup name inside assignment

theorem readManager_table {members : List (String × α)}
    (holds : HoldsGroup "manager" members assignment) :
    readManager (table members) = some (Settings.overlay assignment).manager := by
  obtain ⟨unambiguous, given⟩ := holds
  have parts : parts? ["write_delay_ms", "read_delay_ms"] (table members) =
      some [members.lookup "write_delay_ms", members.lookup "read_delay_ms"] :=
    parts?_table unambiguous
  have write := orStandard_eq (given .writeDelay rfl) ManagerSettings.standard.writeDelay
  have read := orStandard_eq (given .readDelay rfl) ManagerSettings.standard.readDelay
  simp only [readManager, parts, Option.bind_eq_bind, Option.bind_some]
  exact Option.bind_eq_some_iff.mpr ⟨_, write, Option.bind_eq_some_iff.mpr ⟨_, read, rfl⟩⟩

theorem readLogging_table {members : List (String × α)}
    (holds : HoldsGroup "logging" members assignment) :
    readLogging (table members) = some (Settings.overlay assignment).logging := by
  obtain ⟨unambiguous, given⟩ := holds
  have parts : parts? ["filter"] (table members) = some [members.lookup "filter"] :=
    parts?_table unambiguous
  have filter := orStandard_eq (given .filter rfl) LoggingSettings.standard.filter
  simp only [readLogging, parts, Option.bind_eq_bind, Option.bind_some]
  exact Option.bind_eq_some_iff.mpr ⟨_, filter, rfl⟩

theorem readDemo_table {members : List (String × α)}
    (holds : HoldsGroup "demo" members assignment) :
    readDemo (table members) = some (Settings.overlay assignment).demo := by
  obtain ⟨unambiguous, given⟩ := holds
  have parts : parts?
      ["book_id", "title", "new_title", "rival_title", "probe_delay_ms", "settle_delay_ms"]
      (table members) =
      some [members.lookup "book_id", members.lookup "title", members.lookup "new_title",
        members.lookup "rival_title", members.lookup "probe_delay_ms",
        members.lookup "settle_delay_ms"] := parts?_table unambiguous
  have bookId := orStandard_eq (given .bookId rfl) DemoSettings.standard.bookId
  have title := orStandard_eq (given .title rfl) DemoSettings.standard.title
  have newTitle := orStandard_eq (given .newTitle rfl) DemoSettings.standard.newTitle
  have rivalTitle := orStandard_eq (given .rivalTitle rfl) DemoSettings.standard.rivalTitle
  have probe := orStandard_eq (given .probeDelay rfl) DemoSettings.standard.probeDelay
  have settle := orStandard_eq (given .settleDelay rfl) DemoSettings.standard.settleDelay
  simp only [readDemo, parts, Option.bind_eq_bind, Option.bind_some]
  exact Option.bind_eq_some_iff.mpr ⟨_, bookId, Option.bind_eq_some_iff.mpr ⟨_, title,
    Option.bind_eq_some_iff.mpr ⟨_, newTitle, Option.bind_eq_some_iff.mpr ⟨_, rivalTitle,
      Option.bind_eq_some_iff.mpr ⟨_, probe, Option.bind_eq_some_iff.mpr ⟨_, settle, rfl⟩⟩⟩⟩⟩⟩

/-- Tables are read as the standard settings, with the assigned ones in their places. -/
theorem readSettings_table {members : List (String × α)} (holds : Holds members assignment) :
    readSettings (table members) = some (Settings.overlay assignment) := by
  obtain ⟨unambiguous, groups⟩ := holds
  have parts : parts? ["manager", "logging", "demo"] (table members) =
      some [members.lookup "manager", members.lookup "logging", members.lookup "demo"] :=
    parts?_table unambiguous
  have manager : orStandard readManager .standard (members.lookup "manager") =
      some (Settings.overlay assignment).manager := by
    rcases groups "manager" (by decide) with ⟨missing, unset⟩ | ⟨inside, found, holds⟩
    · simp only [missing, Settings.overlay, Settings.ofContents, unset .writeDelay rfl,
        unset .readDelay rfl]
      rfl
    · rw [found]
      exact readManager_table holds
  have logging : orStandard readLogging .standard (members.lookup "logging") =
      some (Settings.overlay assignment).logging := by
    rcases groups "logging" (by decide) with ⟨missing, unset⟩ | ⟨inside, found, holds⟩
    · simp only [missing, Settings.overlay, Settings.ofContents, unset .filter rfl]
      rfl
    · rw [found]
      exact readLogging_table holds
  have demo : orStandard readDemo .standard (members.lookup "demo") =
      some (Settings.overlay assignment).demo := by
    rcases groups "demo" (by decide) with ⟨missing, unset⟩ | ⟨inside, found, holds⟩
    · simp only [missing, Settings.overlay, Settings.ofContents, unset .bookId rfl,
        unset .title rfl, unset .newTitle rfl, unset .rivalTitle rfl, unset .probeDelay rfl,
        unset .settleDelay rfl]
      rfl
    · rw [found]
      exact readDemo_table holds
  simp only [readSettings, parts, manager, logging, demo, Option.bind_eq_bind, Option.bind_some]
  rfl

def Settings.members (write : (key : SettingKey) → key.Content → α) (settings : Settings) :
    List (String × α) :=
  let entry (key : SettingKey) := (key.field, write key (settings.content key))
  [("manager", table [entry .writeDelay, entry .readDelay]),
    ("logging", table [entry .filter]),
    ("demo", table [entry .bookId, entry .title, entry .newTitle, entry .rivalTitle,
      entry .probeDelay, entry .settleDelay])]

theorem Settings.holds_members {write : (key : SettingKey) → key.Content → α}
    (written : ∀ (key : SettingKey) content, key.read? (write key content) = some content)
    (settings : Settings) :
    Holds (settings.members write) fun key => some (settings.content key) := by
  refine ⟨TableSource.unambiguous (by simp [members]), ?_⟩
  simp only [SettingKey.groups, List.forall_mem_cons]
  refine ⟨.inr ⟨_, rfl, ?_⟩, .inr ⟨_, rfl, ?_⟩, .inr ⟨_, rfl, ?_⟩, by simp⟩
  all_goals
    refine ⟨TableSource.unambiguous (by simp [SettingKey.field]), fun key grouped => ?_⟩
    cases key <;> simp [SettingKey.group] at grouped
    all_goals simp [SettingKey.field, List.lookup_cons, written]

theorem Settings.readSettings_members {write : (key : SettingKey) → key.Content → α}
    (written : ∀ (key : SettingKey) content, key.read? (write key content) = some content)
    (settings : Settings) : readSettings (table (settings.members write)) = some settings := by
  rw [readSettings_table (settings.holds_members written), overlay_content]

end Tables

end RecordLocks
