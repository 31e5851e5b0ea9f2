import RecordLocks.Decimal
import RecordLocks.Index
namespace RecordLocks

abbrev ResourceId := UInt64

/-- Sessions are numbered in the order in which they are opened. -/
structure SessionId where
  number : UInt64
  deriving DecidableEq, Repr, Inhabited

def idText (id : UInt64) : String := Decimal.text id.toNat

/-- The name of a resource in the audit trail. -/
def resourceKey (resource : ResourceId) : String := "resource:" ++ idText resource

namespace SessionId

def text (id : SessionId) : String := idText id.number

def read (text : String) : Except Decimal.Fault SessionId :=
  (Decimal.readWord text).map SessionId.mk

def key (id : SessionId) : String := "session:" ++ id.text

instance : Ranked SessionId where
  rank id := id.number.toNat
  rank_inj {a b} same := by
    cases a
    cases b
    simpa [UInt64.toNat_inj] using same

instance : LE SessionId := ⟨fun a b => a.number ≤ b.number⟩

instance (a b : SessionId) : Decidable (a ≤ b) := inferInstanceAs (Decidable (a.number ≤ b.number))

def sort (ids : List SessionId) : List SessionId := ids.mergeSort (· ≤ ·)

end SessionId

end RecordLocks
