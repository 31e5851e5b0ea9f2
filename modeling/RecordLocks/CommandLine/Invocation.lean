import RecordLocks.Ids
namespace RecordLocks

inductive SettingsCommand where
  | showAll
  | get (key : String)
  | set (key value : String)
  | list
  | reset
  | path
  deriving DecidableEq, Repr

inductive Command where
  | demo
  | read (field : String) (book : Option ResourceId)
  | write (field value : String) (book : Option ResourceId)
  | settings (command : SettingsCommand)
  deriving DecidableEq, Repr

inductive Invocation where
  | run (quiet : Bool) (command : Command)
  | version
  | help
  | misuse
  deriving DecidableEq, Repr

structure Given where
  words : List String
  quiet : Bool
  book : Option ResourceId
  deriving DecidableEq, Repr

def Given.none : Given := ⟨[], false, .none⟩

/-- What a command takes: words up to a number, and for some commands a book or a version
request. -/
structure Intake where
  words : Nat
  book : Bool
  version : Bool
  deriving DecidableEq, Repr

/-- Why reading the arguments of a command ends early. -/
inductive Halt where
  | version
  | help
  | misuse
  deriving DecidableEq, Repr

def Halt.invocation : Halt → Invocation
  | version => .version
  | help => .help
  | misuse => .misuse

namespace Intake

def addWord (intake : Intake) (given : Given) (word : String) : Except Halt Given :=
  if given.words.length < intake.words then .ok { given with words := given.words ++ [word] }
  else .error .misuse

def addQuiet (given : Given) : Except Halt Given :=
  if given.quiet then .error .misuse else .ok { given with quiet := true }

def addBook (given : Given) (text : String) : Except Halt Given :=
  match Decimal.readWord text with
  | .error _ => .error .misuse
  | .ok id => if given.book.isSome then .error .misuse else .ok { given with book := some id }

/-- What an argument leaves to do: nothing, or to take the next argument for its value. -/
inductive Next where
  | done (given : Given)
  | bookFollows (given : Given)
  deriving DecidableEq, Repr

def askVersion (intake : Intake) : Except Halt Next :=
  .error (if intake.version then .version else .misuse)

def withoutEquals : List Char → List Char
  | '=' :: text => text
  | text => text

/-- Letters after a hyphen. What follows a letter that takes a value is the value. -/
def readLetters (intake : Intake) (given : Given) : List Char → Except Halt Next
  | [] => .ok (.done given)
  | 'q' :: rest => do intake.readLetters (← addQuiet given) rest
  | 'h' :: _ => .error .help
  | 'V' :: _ => intake.askVersion
  | 'b' :: rest =>
    if !intake.book then .error .misuse
    else if rest.isEmpty then .ok (.bookFollows given)
    else (addBook given (String.ofList (withoutEquals rest))).map .done
  | _ => .error .misuse

def readName (intake : Intake) (given : Given) (name : String) (value : Option String) :
    Except Halt Next :=
  match name, value with
  | "quiet", none => (addQuiet given).map .done
  | "help", none => .error .help
  | "version", none => intake.askVersion
  | "book", value =>
    if !intake.book then .error .misuse
    else
      match value with
      | none => .ok (.bookFollows given)
      | some text => (addBook given text).map .done
  | _, _ => .error .misuse

def splitName (cs : List Char) : String × Option String :=
  let name := String.ofList (cs.takeWhile (· ≠ '='))
  match cs.dropWhile (· ≠ '=') with
  | [] => (name, none)
  | _ :: value => (name, some (String.ofList value))

def readArgument (intake : Intake) (given : Given) (argument : String) : Except Halt Next :=
  match argument.toList with
  | '-' :: '-' :: cs =>
    let (name, value) := splitName cs
    intake.readName given name value
  | '-' :: c :: cs => intake.readLetters given (c :: cs)
  | _ => (intake.addWord given argument).map .done

/-- After two hyphens there are only words. -/
def readAll (intake : Intake) : Given → List String → Except Halt Given
  | given, [] => .ok given
  | given, "--" :: rest => rest.foldlM intake.addWord given
  | given, argument :: rest =>
    match intake.readArgument given argument with
    | .error halt => .error halt
    | .ok (.done given) => intake.readAll given rest
    | .ok (.bookFollows given) =>
      match rest with
      | [] => .error .misuse
      | text :: rest =>
        match addBook given text with
        | .error halt => .error halt
        | .ok given => intake.readAll given rest

/-- The arguments up to the first word that is not an option, and what follows it. -/
def readBefore (intake : Intake) : Given → List String →
    Except Halt (Given × Option (String × List String))
  | given, [] => .ok (given, none)
  | _, "--" :: _ => .error .misuse
  | given, argument :: rest =>
    match intake.readArgument given argument with
    | .error halt => .error halt
    | .ok (.bookFollows _) => .error .misuse
    | .ok (.done after) =>
      if after.words.isEmpty then intake.readBefore after rest
      else .ok (given, some (argument, rest))

end Intake

namespace Invocation

def commandIntake (words : Nat) : Intake := ⟨words, false, false⟩

def bookIntake (words : Nat) : Intake := ⟨words, true, false⟩

def groupIntake : Intake := ⟨1, false, false⟩

def programIntake : Intake := ⟨1, false, true⟩

def finish (quiet : Bool) (intake : Intake) (arguments : List String)
    (make : Given → Option Command) : Invocation :=
  match intake.readAll .none arguments with
  | .error halt => halt.invocation
  | .ok given =>
    match make given with
    | none => .misuse
    | some command => .run (quiet || given.quiet) command

def ofSettings (quiet : Bool) (name : String) (arguments : List String) : Invocation :=
  let plain (command : SettingsCommand) : Invocation :=
    finish quiet (commandIntake 0) arguments fun _ => some (.settings command)
  match name with
  | "show" => plain .showAll
  | "get" =>
    finish quiet (commandIntake 1) arguments fun given =>
      match given.words with
      | [key] => some (.settings (.get key))
      | _ => none
  | "set" =>
    finish quiet (commandIntake 2) arguments fun given =>
      match given.words with
      | [key, value] => some (.settings (.set key value))
      | _ => none
  | "list" => plain .list
  | "reset" => plain .reset
  | "path" => plain .path
  | _ => .misuse

def settingsNames : List String := ["show", "get", "set", "list", "reset", "path", "help"]

def programNames : List String := ["demo", "read", "write", "config", "help"]

def helpOn : List String → Invocation
  | [] => .help
  | ["config", name] => if settingsNames.contains name then .help else .misuse
  | [name] => if programNames.contains name then .help else .misuse
  | _ => .misuse

def helpOnSettings : List String → Invocation
  | [] => .help
  | [name] => if settingsNames.contains name then .help else .misuse
  | _ => .misuse

def ofGroup (quiet : Bool) (arguments : List String) : Invocation :=
  match groupIntake.readBefore .none arguments with
  | .error halt => halt.invocation
  | .ok (_, none) => .misuse
  | .ok (given, some (name, rest)) =>
    if name = "help" then helpOnSettings rest else ofSettings (quiet || given.quiet) name rest

def ofCommand (quiet : Bool) (name : String) (arguments : List String) : Invocation :=
  match name with
  | "demo" => finish quiet (commandIntake 0) arguments fun _ => some .demo
  | "read" =>
    finish quiet (bookIntake 1) arguments fun given =>
      match given.words with
      | [field] => some (.read field given.book)
      | _ => none
  | "write" =>
    finish quiet (bookIntake 2) arguments fun given =>
      match given.words with
      | [field, value] => some (.write field value given.book)
      | _ => none
  | "config" => ofGroup quiet arguments
  | "help" => helpOn arguments
  | _ => .misuse

/-- Options may stand before a command and among its words. -/
def ofArguments (arguments : List String) : Invocation :=
  match programIntake.readBefore .none arguments with
  | .error halt => halt.invocation
  | .ok (_, none) => .misuse
  | .ok (given, some (name, rest)) => ofCommand given.quiet name rest

end Invocation

end RecordLocks
