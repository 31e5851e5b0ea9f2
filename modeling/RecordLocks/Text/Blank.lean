namespace RecordLocks.Text

/-- The white space of Unicode. -/
def blanks : List (Nat × Nat) :=
  [(0x09, 0x0D), (0x20, 0x20), (0x85, 0x85), (0xA0, 0xA0), (0x1680, 0x1680), (0x2000, 0x200A),
    (0x2028, 0x2029), (0x202F, 0x202F), (0x205F, 0x205F), (0x3000, 0x3000)]

def isBlank (c : Char) : Bool := blanks.any fun (first, last) => first ≤ c.toNat && c.toNat ≤ last

def trimStart (cs : List Char) : List Char := cs.dropWhile isBlank

def trim (cs : List Char) : List Char := (trimStart (trimStart cs).reverse).reverse

def IsAllBlank (text : String) : Prop := ∀ c ∈ text.toList, isBlank c

instance (text : String) : Decidable (IsAllBlank text) :=
  List.decidableBAll _ text.toList

end RecordLocks.Text
