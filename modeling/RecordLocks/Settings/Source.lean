import RecordLocks.Json.Coded
import RecordLocks.Settings.Basic
import RecordLocks.Toml.Tree
namespace RecordLocks

/-- A form of data from which settings are read. The parts of a record go by their names, or stand
in the order of the names; parts may be missing. -/
class SettingsSource (α : Type) where
  parts? : List String → α → Option (List (Option α))
  word? : α → Option UInt64
  text? : α → Option String

instance : SettingsSource Json.Document where
  parts? names document := document.fields? names true
  word? := Json.Document.word?
  text? := Json.Document.text?

namespace Toml.Value

def part? (name : Key) (members : List (Key × Value)) : Option Value := members.lookup name

/-- A date or a time has no parts with these names, and what follows the named parts in an array
does not count. -/
def parts? (names : List Key) : Value → Option (List (Option Value))
  | .table members => some (names.map fun name => part? name members)
  | .array items =>
    some ((items.take names.length).map some ++ List.replicate (names.length - items.length) none)
  | .moment => some (names.map fun _ => none)
  | _ => none

def word? : Value → Option UInt64
  | .integer n => if 0 ≤ n then some (UInt64.ofNat n.toNat) else none
  | _ => none

def text? : Value → Option String
  | .text value => some value
  | _ => none

end Toml.Value

instance : SettingsSource Toml.Value := ⟨Toml.Value.parts?, Toml.Value.word?, Toml.Value.text?⟩

namespace SettingsSource

variable {α : Type} [SettingsSource α]

/-- A part that is missing keeps its standard value. -/
def orStandard (read : α → Option β) (standard : β) : Option α → Option β
  | none => some standard
  | some source => read source

def wordOr : UInt64 → Option α → Option UInt64 := orStandard word?

def textOr : String → Option α → Option String := orStandard text?

def readManager (source : α) : Option ManagerSettings := do
  match ← parts? ["write_delay_ms", "read_delay_ms"] source with
  | [write, read] =>
    let standard := ManagerSettings.standard
    return ⟨← wordOr standard.writeDelay write, ← wordOr standard.readDelay read⟩
  | _ => none

def readLogging (source : α) : Option LoggingSettings := do
  match ← parts? ["filter"] source with
  | [filter] => return ⟨← textOr LoggingSettings.standard.filter filter⟩
  | _ => none

def readDemo (source : α) : Option DemoSettings := do
  match ← parts?
    ["book_id", "title", "new_title", "rival_title", "probe_delay_ms", "settle_delay_ms"]
    source with
  | [bookId, title, newTitle, rivalTitle, probe, settle] =>
    let standard := DemoSettings.standard
    return ⟨← wordOr standard.bookId bookId, ← textOr standard.title title,
      ← textOr standard.newTitle newTitle, ← textOr standard.rivalTitle rivalTitle,
      ← wordOr standard.probeDelay probe, ← wordOr standard.settleDelay settle⟩
  | _ => none

def readSettings (source : α) : Option Settings := do
  match ← parts? ["manager", "logging", "demo"] source with
  | [manager, logging, demo] =>
    return ⟨← orStandard readManager .standard manager,
      ← orStandard readLogging .standard logging, ← orStandard readDemo .standard demo⟩
  | _ => none

end SettingsSource

namespace Settings

def encode (settings : Settings) : Json :=
  .object
    [("manager", .object
      [("write_delay_ms", .word settings.manager.writeDelay),
        ("read_delay_ms", .word settings.manager.readDelay)]),
      ("logging", .object [("filter", .text settings.logging.filter)]),
      ("demo", .object
        [("book_id", .word settings.demo.bookId), ("title", .text settings.demo.title),
          ("new_title", .text settings.demo.newTitle),
          ("rival_title", .text settings.demo.rivalTitle),
          ("probe_delay_ms", .word settings.demo.probeDelay),
          ("settle_delay_ms", .word settings.demo.settleDelay)])]

instance : Coded Settings := ⟨encode, SettingsSource.readSettings⟩

def ofToml? (text : String) : Option Settings := do
  SettingsSource.readSettings (Toml.Value.table (← Toml.read text))

/-- A line for a key; numbers go up to the greatest signed one. -/
def wordLine? (key : String) (n : UInt64) : Option String :=
  if (n.toNat : Int) ≤ Toml.greatestInteger then some s!"{key} = {idText n}\n" else none

def textLine (key text : String) : String :=
  s!"{key} = {String.ofList (Toml.writeString text.toList)}\n"

def toToml? (settings : Settings) : Option String := do
  let manager := settings.manager
  let demo := settings.demo
  let lines :=
    ["[manager]\n", ← wordLine? "write_delay_ms" manager.writeDelay,
      ← wordLine? "read_delay_ms" manager.readDelay,
      "\n[logging]\n", textLine "filter" settings.logging.filter,
      "\n[demo]\n", ← wordLine? "book_id" demo.bookId, textLine "title" demo.title,
      textLine "new_title" demo.newTitle, textLine "rival_title" demo.rivalTitle,
      ← wordLine? "probe_delay_ms" demo.probeDelay,
      ← wordLine? "settle_delay_ms" demo.settleDelay]
  return String.join lines

end Settings

end RecordLocks
