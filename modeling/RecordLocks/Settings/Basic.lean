import RecordLocks.Ids
import RecordLocks.Text.Blank
namespace RecordLocks

/-- Simulated latency, in milliseconds, while a record is locked. -/
structure ManagerSettings where
  writeDelay : UInt64
  readDelay : UInt64
  deriving DecidableEq, Repr

structure LoggingSettings where
  filter : String
  deriving DecidableEq, Repr

/-- The walkthrough of one user who edits a book and another who is in the way. The other one
probes the book after `probeDelay` milliseconds and reads it after `settleDelay`. -/
structure DemoSettings where
  bookId : ResourceId
  title : String
  newTitle : String
  rivalTitle : String
  probeDelay : UInt64
  settleDelay : UInt64
  deriving DecidableEq, Repr

structure Settings where
  manager : ManagerSettings
  logging : LoggingSettings
  demo : DemoSettings
  deriving DecidableEq, Repr

def ManagerSettings.standard : ManagerSettings := ⟨1500, 0⟩

def LoggingSettings.standard : LoggingSettings := ⟨"info"⟩

def DemoSettings.standard : DemoSettings :=
  ⟨1, "The Hobbit", "Harry Potter", "Watership Down", 1000, 2000⟩

def Settings.standard : Settings := ⟨.standard, .standard, .standard⟩

inductive SettingKey where
  | writeDelay
  | readDelay
  | filter
  | bookId
  | title
  | newTitle
  | rivalTitle
  | probeDelay
  | settleDelay
  deriving DecidableEq, Repr

namespace SettingKey

def all : List SettingKey :=
  [writeDelay, readDelay, filter, bookId, title, newTitle, rivalTitle, probeDelay, settleDelay]

def name : SettingKey → String
  | writeDelay => "manager.write_delay_ms"
  | readDelay => "manager.read_delay_ms"
  | filter => "logging.filter"
  | bookId => "demo.book_id"
  | title => "demo.title"
  | newTitle => "demo.new_title"
  | rivalTitle => "demo.rival_title"
  | probeDelay => "demo.probe_delay_ms"
  | settleDelay => "demo.settle_delay_ms"

def ofName? (name : String) : Option SettingKey := all.find? fun key => key.name = name

/-- What a message about a bad number calls the key. -/
def label : SettingKey → String
  | bookId => "book_id"
  | key => key.name

end SettingKey

inductive SettingsError where
  | unknownKey (name : String)
  | invalidNumber (key : SettingKey) (value : String) (fault : Decimal.Fault)
  | blankFilter
  | probeTooLate (probe write : UInt64)
  | settleTooEarly (settle write : UInt64)
  | unreadable (path : String)
  | malformed (path : String)
  | noDirectory (directory : String)
  | notRepresentable
  | unwritable (path : String)
  | unremovable (path : String)
  | nowhere
  deriving DecidableEq, Repr

namespace SettingsError

def message : SettingsError → String
  | unknownKey name =>
    s!"Unknown configuration key: {name}. Use `pesslock config list` to see available keys."
  | invalidNumber key value _ => s!"Invalid {key.label} value: {value}"
  | blankFilter => "logging.filter must not be empty"
  | probeTooLate probe write =>
    s!"demo.probe_delay_ms ({idText probe}) must be less than manager.write_delay_ms " ++
      s!"({idText write})"
  | settleTooEarly settle write =>
    s!"demo.settle_delay_ms ({idText settle}) must be greater than manager.write_delay_ms " ++
      s!"({idText write})"
  | unreadable path => s!"Failed to read config file: {path}"
  | malformed path => s!"Failed to parse config file: {path}"
  | noDirectory directory => s!"Failed to create config directory: {directory}"
  | notRepresentable => "Failed to serialize config"
  | unwritable path => s!"Failed to write config file: {path}"
  | unremovable path => s!"Failed to remove config file: {path}"
  | nowhere => "Could not determine config directory"

/-- The reason behind the message, as far as it is told. -/
def cause : SettingsError → Option String
  | invalidNumber _ _ fault => some fault.message
  | _ => none

end SettingsError

namespace Settings

def get (settings : Settings) : SettingKey → String
  | .writeDelay => idText settings.manager.writeDelay
  | .readDelay => idText settings.manager.readDelay
  | .filter => settings.logging.filter
  | .bookId => idText settings.demo.bookId
  | .title => settings.demo.title
  | .newTitle => settings.demo.newTitle
  | .rivalTitle => settings.demo.rivalTitle
  | .probeDelay => idText settings.demo.probeDelay
  | .settleDelay => idText settings.demo.settleDelay

def readNumber (key : SettingKey) (value : String) : Except SettingsError UInt64 :=
  (Decimal.readWord value).mapError (.invalidNumber key value)

def set (settings : Settings) (key : SettingKey) (value : String) :
    Except SettingsError Settings :=
  let number := readNumber key value
  match key with
  | .writeDelay => number.map fun n => { settings with manager.writeDelay := n }
  | .readDelay => number.map fun n => { settings with manager.readDelay := n }
  | .filter =>
    if Text.IsAllBlank value then .error .blankFilter
    else .ok { settings with logging.filter := value }
  | .bookId => number.map fun n => { settings with demo.bookId := n }
  | .title => .ok { settings with demo.title := value }
  | .newTitle => .ok { settings with demo.newTitle := value }
  | .rivalTitle => .ok { settings with demo.rivalTitle := value }
  | .probeDelay => number.map fun n => { settings with demo.probeDelay := n }
  | .settleDelay => number.map fun n => { settings with demo.settleDelay := n }

def findKey (name : String) : Except SettingsError SettingKey :=
  match SettingKey.ofName? name with
  | some key => .ok key
  | none => .error (.unknownKey name)

def getNamed (settings : Settings) (name : String) : Except SettingsError String :=
  (findKey name).map settings.get

def setNamed (settings : Settings) (name value : String) : Except SettingsError Settings := do
  settings.set (← findKey name) value

def list (settings : Settings) : List (String × String) :=
  SettingKey.all.map fun key => (key.name, settings.get key)

/-- The probe falls into the first user's write and the last read after it. -/
structure Valid (settings : Settings) : Prop where
  filter : ¬ Text.IsAllBlank settings.logging.filter
  probe : settings.demo.probeDelay < settings.manager.writeDelay
  settle : settings.manager.writeDelay < settings.demo.settleDelay

def validate (settings : Settings) : Except SettingsError Unit :=
  let write := settings.manager.writeDelay
  if Text.IsAllBlank settings.logging.filter then .error .blankFilter
  else if write ≤ settings.demo.probeDelay then
    .error (.probeTooLate settings.demo.probeDelay write)
  else if settings.demo.settleDelay ≤ write then
    .error (.settleTooEarly settings.demo.settleDelay write)
  else .ok ()

theorem validate_eq_ok_iff (settings : Settings) :
    settings.validate = .ok () ↔ settings.Valid := by
  simp only [validate]
  constructor
  · intro accepted
    split at accepted
    · contradiction
    split at accepted
    · contradiction
    split at accepted
    · contradiction
    next blank probe settle =>
      exact ⟨blank, UInt64.not_le.mp probe, UInt64.not_le.mp settle⟩
  · intro valid
    rw [if_neg valid.filter, if_neg (UInt64.not_le.mpr valid.probe),
      if_neg (UInt64.not_le.mpr valid.settle)]

end Settings

end RecordLocks
