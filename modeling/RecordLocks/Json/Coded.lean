import RecordLocks.Book
import RecordLocks.Instant
import RecordLocks.Json.Document
import RecordLocks.Uuid
namespace RecordLocks

/-- Values that are written as JSON and read from it. -/
class Coded (α : Type) where
  encode : α → Json
  decode : Json.Document → Option α

namespace Json

/-- The parts of a record with the given field names, from an object or from an array in that
order. An object may have further members, but each field at most once. With `partly` an array
may also be shorter; without it every field of an array is there. -/
def Document.fields? (names : List String) (partly : Bool) :
    Document → Option (List (Option Document))
  | .object members => do
    let members ← members.mapM fun (key, value) => key.map (·, value)
    let values := names.map fun name => members.filter (·.1 = name)
    if values.any (·.length > 1) then none
    else return values.map fun found => found.head?.map (·.2)
  | .array items =>
    if items.length = names.length ∨ (partly ∧ items.length < names.length) then
      some (items.map some ++ List.replicate (names.length - items.length) none)
    else none
  | _ => none

def Document.word? : Document → Option UInt64
  | .number literal =>
    match literal.value? with
    | some (.integer n) => if 0 ≤ n then some (UInt64.ofNat n.toNat) else none
    | _ => none
  | _ => none

def Document.text? : Document → Option String
  | .text value => value
  | _ => none

def Document.items? : Document → Option (List Document)
  | .array items => some items
  | _ => none

/-- One of several names, as text or as the only key of an object, with null for its value. -/
def Document.variant? (variants : List (String × α)) : Document → Option α
  | .text (some name) => variants.lookup name
  | .object [(some name, .null)] => variants.lookup name
  | _ => none

end Json

namespace Coded

open Json (Document)

def read [Coded α] (text : String) : Option α := (Document.read text).bind decode

def render [Coded α] (value : α) : String := (encode value).render

instance : Coded UInt64 := ⟨Json.word, Document.word?⟩

instance : Coded String := ⟨.text, Document.text?⟩

instance : Coded SessionId :=
  ⟨fun id => Json.word id.number, fun document => document.word?.map SessionId.mk⟩

instance : Coded Instant :=
  ⟨fun instant => .text instant.text, fun document => document.text?.bind Instant.read⟩

instance : Coded Uuid :=
  ⟨fun uuid => .text uuid.text, fun document => document.text?.bind Uuid.read⟩

instance [Coded α] : Coded (List α) :=
  ⟨fun values => .array (values.map encode), fun document => do (← document.items?).mapM decode⟩

instance : Coded BookField :=
  ⟨fun field => .text field.name, Document.variant? (BookField.all.map fun f => (f.name, f))⟩

def bookMembers (book : Book) : List (String × Json) :=
  [("id", .word book.id), ("title", .text book.title), ("author", .text book.author)]

instance : Coded Book where
  encode book := .object (bookMembers book)
  decode document := do
    match ← document.fields? ["id", "title", "author"] false with
    | [some id, some title, some author] =>
      return ⟨← decode id, ← decode title, ← decode author⟩
    | _ => none

end Coded

end RecordLocks
