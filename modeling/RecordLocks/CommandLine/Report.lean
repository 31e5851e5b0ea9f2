import RecordLocks.AccessError
import RecordLocks.Settings.File
namespace RecordLocks

/-- Text for the standard output, and the millisecond in which it is written. -/
structure Printed where
  time : Nat
  text : String
  deriving DecidableEq, Repr

structure Report where
  exitCode : Nat
  printed : List Printed
  errors : String
  file : SettingsFile

structure Failure where
  message : String
  cause : Option String
  deriving DecidableEq, Repr

namespace Failure

def ofText (message : String) : Failure := ⟨message, none⟩

def ofSettings (error : SettingsError) : Failure := ⟨error.message, error.cause⟩

/-- An access error with its code and, if there is one, a hint. -/
def explained (error : AccessError) : Failure :=
  let head := s!"[{error.code}] {error.message}"
  match error.suggestion with
  | none => ofText head
  | some hint => ofText s!"{head}\n  hint: {hint}"

def text (failure : Failure) : String :=
  match failure.cause with
  | none => s!"Error: {failure.message}\n"
  | some cause => s!"Error: {failure.message}\n\nCaused by:\n    {cause}\n"

end Failure

namespace Report

def output (report : Report) : String := String.join (report.printed.map (·.text))

def success (file : SettingsFile) (text : String) : Report := ⟨0, [⟨0, text⟩], "", file⟩

def failure (file : SettingsFile) (reason : Failure) : Report := ⟨1, [], reason.text, file⟩

end Report

end RecordLocks
