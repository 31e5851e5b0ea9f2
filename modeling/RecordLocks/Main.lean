import RecordLocks.CommandLine.Run
namespace RecordLocks.Main

/-- The number by which the system reports that part of a path is no directory. -/
def notADirectory : UInt32 := 20

def inspect (path : String) : IO FileEntry := do
  try
    return .content (← IO.FS.readBinFile path)
  catch error =>
    match error with
    | .noFileOrDirectory _ _ _ => return .missing
    | .inappropriateType _ code _ => return if code = notADirectory then .blocked else .directory
    | _ => return .directory

def replace (before after : SettingsFile) : IO Unit := do
  unless after.entry = before.entry do
    match after.entry with
    | .content bytes =>
      IO.FS.createDirAll after.directory
      IO.FS.writeBinFile after.path bytes
    | .missing => IO.FS.removeFile after.path
    | .directory | .blocked => return

def hour : Nat := 3600000

def pause (milliseconds : Nat) : IO Unit := do
  for _ in [0:milliseconds / hour] do
    IO.sleep (UInt32.ofNat hour)
  IO.sleep (UInt32.ofNat (milliseconds % hour))

/-- Prints each text when its time has come. -/
def print : Nat → List Printed → IO Unit
  | _, [] => return
  | now, next :: rest => do
    pause (next.time - now)
    IO.print next.text
    (← IO.getStdout).flush
    print next.time rest

def fail (error : SettingsError) : IO UInt32 := do
  IO.eprint (Failure.ofSettings error).text
  return 1

def carryOut (before : SettingsFile) (report : Report) : IO UInt32 := do
  try
    replace before report.file
  catch _ =>
    return ← fail (.unwritable before.path)
  print 0 report.printed
  IO.eprint report.errors
  return UInt32.ofNat report.exitCode

def run (arguments : List String) : IO UInt32 := do
  let surroundings : Surroundings :=
    ⟨← IO.getEnv "PESSLOCK_CONFIG_DIR", ← IO.getEnv "XDG_CONFIG_HOME", ← IO.getEnv "HOME"⟩
  match surroundings.directory with
  | .error error => fail error
  | .ok directory =>
    let entry ← inspect (Surroundings.settingsPath directory)
    let file : SettingsFile := ⟨directory, entry⟩
    carryOut file (Report.ofRun none file arguments)

end RecordLocks.Main

def main (arguments : List String) : IO UInt32 := RecordLocks.Main.run arguments
