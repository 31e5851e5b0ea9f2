import RecordLocks.Settings.Location
import RecordLocks.Settings.Source
import RecordLocks.Text.Utf8
namespace RecordLocks

instance decidableEqBytes : DecidableEq ByteArray := ByteArray.instDecidableEq

/-- What stands at the path of the settings. The path is blocked if its directory's name belongs
to something else. -/
inductive FileEntry where
  | missing
  | content (bytes : ByteArray)
  | directory
  | blocked
  deriving DecidableEq

structure SettingsFile where
  directory : String
  entry : FileEntry
  deriving DecidableEq

namespace SettingsFile

def path (file : SettingsFile) : String := Surroundings.settingsPath file.directory

def put (file : SettingsFile) (text : String) : SettingsFile :=
  { file with entry := .content text.toUTF8 }

/-- The settings in the file, which have to be valid, or the standard ones if it is missing. -/
def load (file : SettingsFile) : Except SettingsError Settings :=
  match file.entry with
  | .missing | .blocked => .ok .standard
  | .directory => .error (.unreadable file.path)
  | .content bytes =>
    match String.fromUTF8? bytes with
    | none => .error (.unreadable file.path)
    | some text =>
      match Settings.ofToml? text with
      | none => .error (.malformed file.path)
      | some settings => settings.validate.map fun _ => settings

/-- Writes the settings, if they are valid and their numbers can be written. -/
def save (file : SettingsFile) (settings : Settings) : Except SettingsError SettingsFile :=
  match settings.validate with
  | .error error => .error error
  | .ok () =>
    if file.entry = .blocked then .error (.noDirectory (Location.trim file.directory))
    else
      match settings.toToml? with
      | none => .error .notRepresentable
      | some text =>
        if file.entry = .directory then .error (.unwritable file.path) else .ok (file.put text)

def reset (file : SettingsFile) : Except SettingsError SettingsFile :=
  match file.entry with
  | .directory => .error (.unremovable file.path)
  | .missing | .blocked => .ok file
  | .content _ => .ok { file with entry := .missing }

def shown? (file : SettingsFile) : Option String :=
  match file.entry with
  | .content bytes => some (Text.Utf8.display bytes.data.toList)
  | _ => none

end SettingsFile

end RecordLocks
