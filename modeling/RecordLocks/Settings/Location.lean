import RecordLocks.Settings.Basic
namespace RecordLocks

structure Surroundings where
  settingsDirectory : Option String
  configHome : Option String
  home : Option String
  deriving DecidableEq, Repr

namespace Location

def join (directory name : String) : String :=
  match directory.toList.getLast? with
  | none | some '/' => directory ++ name
  | some _ => directory ++ "/" ++ name

def isAbsolute (path : String) : Bool := path.toList.head? = some '/'

/-- Slashes, and points that stand for the directory itself, do not count at the end of a path,
which is given from its last character on. -/
def trimBack : List Char → List Char
  | ['/'] => ['/']
  | '/' :: rest => trimBack rest
  | '.' :: '/' :: rest => trimBack ('/' :: rest)
  | cs => cs

def trim (path : String) : String := String.ofList (trimBack path.toList.reverse).reverse

def userDirectory? (surroundings : Surroundings) : Option String :=
  match surroundings.configHome.filter isAbsolute with
  | some directory => some directory
  | none => (surroundings.home.filter (· ≠ "")).map (join · ".config")

end Location

namespace Surroundings

/-- A directory that is named outright counts before those of the user. -/
def directory (surroundings : Surroundings) : Except SettingsError String :=
  match surroundings.settingsDirectory with
  | some directory => .ok directory
  | none =>
    match Location.userDirectory? surroundings with
    | some directory => .ok (Location.join directory "pesslock")
    | none => .error .nowhere

def settingsPath (directory : String) : String := Location.join directory "config.toml"

def path (surroundings : Surroundings) : Except SettingsError String :=
  surroundings.directory.map settingsPath

end Surroundings

end RecordLocks
