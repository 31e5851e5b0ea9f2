import RecordLocks.CommandLine.Invocation
import RecordLocks.CommandLine.Report
import RecordLocks.LogFilter
import RecordLocks.Walkthrough
namespace RecordLocks

namespace Settings

/-- Has one session work on the store of the walkthrough. -/
def serve (settings : Settings) (request : Request) : Nat × Option Ending :=
  let timeline := settings.timeline
  let (session, manager) := timeline.manager.openSession "cli"
  let (ending, after) := (timeline.withManager manager).ask 0 session request
  (after.now, ending)

end Settings

namespace Report

def accessLine : Reply → String
  | .text title => title ++ "\n"
  | .book book => Json.renderLines (Coded.bookMembers book) ++ "\n"
  | _ => "\n"

def access (settings : Settings) (file : SettingsFile) (fieldName : String)
    (book : Option ResourceId) (request : ResourceId → BookField → Request) : Report :=
  match BookField.ofName fieldName with
  | .error error => .failure file (.ofText error.message)
  | .ok field =>
    match settings.serve (request (book.getD settings.demo.bookId) field) with
    | (time, some (.answered (.ok reply))) => ⟨0, [⟨time, accessLine reply⟩], "", file⟩
    | (_, some (.answered (.error error))) => .failure file (.explained error)
    | (_, _) => .failure file (.ofText WalkthroughError.cancelled.message)

def demo (time : Timekeeping) (settings : Settings) (file : SettingsFile) (quiet : Bool) : Report :=
  let (result, walkthrough) := Walkthrough.run time settings
  let printed := (walkthrough.shown quiet).map fun line => ⟨line.time, line.text ++ "\n"⟩
  match result with
  | .ok () => ⟨0, printed, "", file⟩
  | .error error => ⟨1, printed, (Failure.ofText error.message).text, file⟩

def unlessQuiet (quiet : Bool) (text : String) : String := if quiet then "" else text

def inspect (file : SettingsFile) (view : Settings → Except SettingsError String) : Report :=
  match file.load.bind view with
  | .error error => .failure file (.ofSettings error)
  | .ok text => .success file text

def listing (settings : Settings) : String :=
  String.join (settings.list.map fun (key, value) => s!"{key} = {value}\n")

def written (settings : Settings) : Except SettingsError String :=
  match settings.toToml? with
  | some text => .ok text
  | none => .error .notRepresentable

def change (file : SettingsFile) (key value : String) : Except SettingsError SettingsFile := do
  let settings ← file.load
  file.save (← settings.setNamed key value)

def store (file : SettingsFile) (quiet : Bool) (text : String) :
    Except SettingsError SettingsFile → Report
  | .error error => .failure file (.ofSettings error)
  | .ok after => .success after (unlessQuiet quiet text)

/-- These commands read the file on their own, so that a broken one can be found and reset. -/
def settingsReport (file : SettingsFile) (quiet : Bool) : SettingsCommand → Report
  | .showAll => inspect file written
  | .get key => inspect file fun settings => (settings.getNamed key).map (· ++ "\n")
  | .set key value => store file quiet s!"Set {key} = {value}\n" (change file key value)
  | .list => inspect file fun settings => .ok (listing settings)
  | .reset => store file quiet "Configuration reset to defaults.\n" file.reset
  | .path => .success file (file.path ++ "\n")

def withSettings (file : SettingsFile) (use : Settings → Report) : Report :=
  match file.load with
  | .error error => .failure file (.ofSettings error)
  | .ok settings => use settings

def ofCommand (file : SettingsFile) (quiet : Bool) : Command → Report
  | .demo => withSettings file fun settings => demo .real settings file quiet
  | .read field book =>
    withSettings file fun settings =>
      access settings file field book fun resource field => .read resource field
  | .write field value book =>
    withSettings file fun settings =>
      access settings file field book fun resource field => .write resource field value
  | .settings command => settingsReport file quiet command

/-- The filter in the settings, or the standard one if they cannot be read. -/
def settingsFilter (file : SettingsFile) : String :=
  match file.load with
  | .ok settings => settings.logging.filter
  | .error _ => LoggingSettings.standard.filter

def checkFilter (file : SettingsFile) (given : Option String) : LogFilter.Check :=
  match given.map LogFilter.check with
  | some (.ok ()) => .ok ()
  | some (.error .torn) => .error .torn
  | some (.error .malformed) | none => LogFilter.check (settingsFilter file)

def usage : String :=
  "Usage: pesslock [OPTIONS] <COMMAND>\n\n" ++
  "Commands:\n" ++
  "  demo                        Run the two-user contention walkthrough\n" ++
  "  read <FIELD>                Read a field of the demo book under a lock\n" ++
  "  write <FIELD> <VALUE>       Write a field of the demo book and print the record\n" ++
  "  config show                 Print the whole configuration as TOML\n" ++
  "  config get <KEY>            Get a config value\n" ++
  "  config set <KEY> <VALUE>    Set a config value\n" ++
  "  config list                 List all config values\n" ++
  "  config reset                Reset to defaults\n" ++
  "  config path                 Show config file path\n" ++
  "  help                        Print this message\n\n" ++
  "Options:\n" ++
  "  -b, --book <BOOK>           Book ID for read and write (defaults to demo.book_id)\n" ++
  "  -q, --quiet                 Quiet mode (minimal output)\n" ++
  "  -h, --help                  Print help\n" ++
  "  -V, --version               Print version\n"

def version : String := "pesslock 0.1.0\n"

/-- A run of the program. Without a usable filter for the log no command is carried out, and a
directive that was torn apart ends the program with a number of its own. -/
def ofRun (given : Option String) (file : SettingsFile) (arguments : List String) : Report :=
  match Invocation.ofArguments arguments with
  | .misuse => ⟨2, [], usage, file⟩
  | .help => success file usage
  | .version => success file version
  | .run quiet command =>
    match checkFilter file given with
    | .ok () => ofCommand file quiet command
    | .error .malformed => failure file (.ofText "invalid filter directive")
    | .error .torn => ⟨101, [], "A filter directive was torn within a character\n", file⟩

end Report

end RecordLocks
