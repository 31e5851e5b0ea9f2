import Mathlib.Algebra.Ring.Int.Defs
import Mathlib.Data.String.Basic
import RecordLocks.Proofs.JsonText
namespace RecordLocks.Json

/-- Data as it is kept: whole numbers in the range that stays exact, the members of an object in
ascending order, and arrays and objects nested at most `depth` deep. -/
inductive Canonical : Nat → Json → Prop
  | null {depth : Nat} : Canonical depth .null
  | bool {depth : Nat} (value : Bool) : Canonical depth (.bool value)
  | integer {depth : Nat} {value : Int} (least : -2 ^ 63 ≤ value) (greatest : value < 2 ^ 64) :
    Canonical depth (.integer value)
  | text {depth : Nat} (value : String) : Canonical depth (.text value)
  | array {depth : Nat} {items : List Json} (inside : ∀ item ∈ items, Canonical depth item) :
    Canonical (depth + 1) (.array items)
  | object {depth : Nat} {members : List (String × Json)}
    (ascending : members.Pairwise fun a b => a.1 < b.1)
    (inside : ∀ member ∈ members, Canonical depth member.2) :
    Canonical (depth + 1) (.object members)

theorem Canonical.whole {depth : Nat} {value : Json} (canonical : Canonical depth value) :
    value.Whole := by
  induction canonical with
  | null => exact .null
  | bool value => exact .bool value
  | integer least greatest => exact .integer _
  | text value => exact .text value
  | array inside ih => exact .array ih
  | object ascending inside ih => exact .object ih

section Members

variable {key : String} {value : Json} {placed : List (String × Json)}

theorem placeMember_last (last : ∀ member ∈ placed, member.1 < key) (value : Json) :
    placeMember key value placed = placed ++ [(key, value)] := by
  induction placed with
  | nil => rfl
  | cons member placed ih =>
    have before := last member List.mem_cons_self
    have further := ih fun other inside => last other (List.mem_cons_of_mem member inside)
    simp [placeMember, before.not_gt, before.ne', further]

theorem mem_placeMember {member : String × Json} (inside : member ∈ placeMember key value placed) :
    member = (key, value) ∨ member ∈ placed := by
  induction placed with
  | nil => simpa [placeMember] using inside
  | cons first placed ih =>
    simp only [placeMember] at inside
    split at inside
    · simpa using inside
    · split at inside
      · rcases List.mem_cons.mp inside with same | later
        · exact .inl same
        · exact .inr (List.mem_cons_of_mem _ later)
      · rcases List.mem_cons.mp inside with same | later
        · exact .inr (by simp [same])
        · exact (ih later).imp_right (List.mem_cons_of_mem _)

theorem placeMember_ascending (key : String) (value : Json)
    (ascending : placed.Pairwise fun a b => a.1 < b.1) :
    (placeMember key value placed).Pairwise fun a b => a.1 < b.1 := by
  induction placed with
  | nil => simp [placeMember]
  | cons first placed ih =>
    obtain ⟨above, tail⟩ := List.pairwise_cons.mp ascending
    simp only [placeMember]
    split
    · rename_i before
      refine List.pairwise_cons.mpr ⟨?_, ascending⟩
      intro member inside
      rcases List.mem_cons.mp inside with rfl | later
      · exact before
      · exact before.trans (above member later)
    · split
      · rename_i same
        exact List.pairwise_cons.mpr ⟨fun member inside => same ▸ above member inside, tail⟩
      · rename_i notBefore other
        have after : first.1 < key := lt_of_le_of_ne (not_lt.mp notBefore) (Ne.symm other)
        refine List.pairwise_cons.mpr ⟨?_, ih tail⟩
        intro member inside
        rcases mem_placeMember inside with rfl | later
        · exact after
        · exact above member later

end Members

section Values

variable {depth : Nat}

theorem itemsValue?_documents {items : List Json}
    (values : ∀ item ∈ items, item.document.value? depth = some item) :
    itemsValue? depth (itemDocuments items) = some items := by
  induction items with
  | nil => rfl
  | cons item items ih =>
    have first := values item List.mem_cons_self
    have further := ih fun other inside => values other (List.mem_cons_of_mem item inside)
    simp [itemDocuments, itemsValue?, first, further]

theorem membersValue?_documents {members : List (String × Json)} (placed : List (String × Json))
    (ascending : (placed ++ members).Pairwise fun a b => a.1 < b.1)
    (values : ∀ member ∈ members, member.2.document.value? depth = some member.2) :
    membersValue? depth (memberDocuments members) placed = some (placed ++ members) := by
  induction members generalizing placed with
  | nil => simp [memberDocuments, membersValue?]
  | cons member members ih =>
    obtain ⟨key, value⟩ := member
    have first : value.document.value? depth = some value := values _ List.mem_cons_self
    have last : ∀ earlier ∈ placed, earlier.1 < key := fun earlier inside =>
      (List.pairwise_append.mp ascending).2.2 earlier inside (key, value) List.mem_cons_self
    have further := ih (placed ++ [(key, value)]) (by simpa using ascending)
      fun other inside => values other (List.mem_cons_of_mem _ inside)
    simp [memberDocuments, membersValue?, first, placeMember_last last, further]

theorem value?_integerLiteral {n : Int} (least : -2 ^ 63 ≤ n) (greatest : n < 2 ^ 64) :
    (integerLiteral n).value? = some (.integer n) := by
  have size := Decimal.value_chars n.natAbs
  by_cases negative : n < 0
  · have exact : n.natAbs ≠ 0 ∧ n.natAbs ≤ UInt64.size / 2 := by
      simp only [UInt64.size]
      omega
    have same : -(n.natAbs : Int) = n := by omega
    simp only [Literal.value?, integerLiteral, size, negative, decide_true, if_true, exact,
      ne_eq, not_false_eq_true, and_self, List.isEmpty_nil, Option.isNone_none, Bool.and_self, same]
  · have exact : n.natAbs < UInt64.size := by
      simp only [UInt64.size]
      omega
    have same : (n.natAbs : Int) = n := by omega
    simp only [Literal.value?, integerLiteral, size, negative, decide_false, Bool.false_eq_true,
      if_false, exact, decide_true, List.isEmpty_nil, Option.isNone_none, Bool.and_self, if_true,
      same]

/-- Data is found again in the document that it is written as. -/
theorem Canonical.value?_document {value : Json} (canonical : Canonical depth value) :
    value.document.value? depth = some value := by
  induction canonical with
  | null | bool | text => simp [document, Document.value?]
  | integer least greatest => exact value?_integerLiteral least greatest
  | array inside ih => simp [document, Document.value?, itemsValue?_documents ih]
  | object ascending inside ih =>
    simp [document, Document.value?, membersValue?_documents [] ascending ih]

theorem mem_itemsValue? {documents : List Document} {items : List Json}
    (values : itemsValue? depth documents = some items) :
    ∀ item ∈ items, ∃ document, Document.value? depth document = some item := by
  induction documents generalizing items with
  | nil =>
    cases values
    simp
  | cons document documents ih =>
    simp only [itemsValue?, Option.bind_eq_bind, Option.bind_eq_some_iff, Option.pure_def,
      Option.some.injEq] at values
    obtain ⟨first, read, rest, further, rfl⟩ := values
    intro item inside
    rcases List.mem_cons.mp inside with rfl | later
    · exact ⟨document, read⟩
    · exact ih further item later

theorem membersValue?_placed {documents : List (Option String × Document)}
    {placed members : List (String × Json)}
    (values : membersValue? depth documents placed = some members)
    (ascending : placed.Pairwise fun a b => a.1 < b.1) :
    (members.Pairwise fun a b => a.1 < b.1) ∧
      ∀ member ∈ members, member ∈ placed ∨
        ∃ document, Document.value? depth document = some member.2 := by
  -- By induction on the members that are left, whatever has been put in order before them.
  induction documents generalizing placed with
  | nil =>
    cases values
    exact ⟨ascending, fun member inside => .inl inside⟩
  | cons document documents ih =>
    obtain ⟨key, document⟩ := document
    simp only [membersValue?, Option.bind_eq_bind, Option.bind_eq_some_iff] at values
    obtain ⟨value, read, key, rfl, further⟩ := values
    obtain ⟨ordered, origin⟩ := ih further (placeMember_ascending key value ascending)
    refine ⟨ordered, ?_⟩
    intro member inside
    rcases origin member inside with there | elsewhere
    · rcases mem_placeMember there with rfl | earlier
      · exact .inr ⟨document, read⟩
      · exact .inl earlier
    · exact .inr elsewhere

/-- A number is an integer in the range that stays exact, or a double. -/
theorem value?_literal {literal : Literal} {value : Json} (read : literal.value? = some value) :
    (∃ n, value = .integer n ∧ -2 ^ 63 ≤ n ∧ n < 2 ^ 64) ∨ ∃ real, value = .real real := by
  have real : literal.real?.map Json.real = some value → ∃ real, value = .real real := by
    intro read
    obtain ⟨real, -, same⟩ := Option.map_eq_some_iff.mp read
    exact ⟨real, same.symm⟩
  simp only [Literal.value?] at read
  by_cases negative : literal.negative = true
  · simp only [negative, if_true] at read
    split at read
    · rename_i whole
      simp only [Bool.and_eq_true, decide_eq_true_eq, UInt64.size] at whole
      exact .inl ⟨_, (Option.some.inj read).symm, by omega, by omega⟩
    · exact .inr (real read)
  · simp only [negative, if_false, Bool.false_eq_true] at read
    split at read
    · rename_i whole
      simp only [Bool.and_eq_true, decide_eq_true_eq, UInt64.size] at whole
      exact .inl ⟨_, (Option.some.inj read).symm, by omega, by omega⟩
    · exact .inr (real read)

/-- The ways in which a document has a value. -/
inductive Valued : Nat → Document → Json → Prop
  | null {depth : Nat} : Valued depth .null .null
  | bool {depth : Nat} {value : Bool} : Valued depth (.bool value) (.bool value)
  | integer {depth : Nat} {literal : Literal} {value : Int} (least : -2 ^ 63 ≤ value)
    (greatest : value < 2 ^ 64) : Valued depth (.number literal) (.integer value)
  | real {depth : Nat} {literal : Literal} {value : Binary64} :
    Valued depth (.number literal) (.real value)
  | text {depth : Nat} {value : String} : Valued depth (.text (some value)) (.text value)
  | array {depth : Nat} {documents : List Document} {items : List Json}
    (values : itemsValue? depth documents = some items) :
    Valued (depth + 1) (.array documents) (.array items)
  | object {depth : Nat} {documents : List (Option String × Document)}
    {members : List (String × Json)} (values : membersValue? depth documents [] = some members) :
    Valued (depth + 1) (.object documents) (.object members)

theorem valued_of_value? {document : Document} {value : Json}
    (read : document.value? depth = some value) : Valued depth document value := by
  cases document with
  | null =>
    simp only [Document.value?, Option.some.injEq] at read
    subst read
    exact .null
  | bool value =>
    simp only [Document.value?, Option.some.injEq] at read
    subst read
    exact .bool
  | number literal =>
    rcases value?_literal (by simpa [Document.value?] using read) with
      ⟨n, rfl, least, greatest⟩ | ⟨real, rfl⟩
    · exact .integer least greatest
    · exact .real
  | text text =>
    simp only [Document.value?, Option.map_eq_some_iff] at read
    obtain ⟨text, rfl, rfl⟩ := read
    exact .text
  | array documents =>
    cases depth with
    | zero => simp [Document.value?] at read
    | succ depth =>
      simp only [Document.value?, Option.map_eq_some_iff] at read
      obtain ⟨items, values, rfl⟩ := read
      exact .array values
  | object documents =>
    cases depth with
    | zero => simp [Document.value?] at read
    | succ depth =>
      simp only [Document.value?, Option.map_eq_some_iff] at read
      obtain ⟨members, values, rfl⟩ := read
      exact .object values

/-- What is read as data without fractions is canonical. -/
theorem Whole.canonical {value : Json} (whole : value.Whole) {document : Document}
    (read : document.value? depth = some value) : Canonical depth value := by
  induction whole generalizing depth document with
  | null => exact .null
  | bool value => exact .bool value
  | text value => exact .text value
  | integer value =>
    cases valued_of_value? read with
    | integer least greatest => exact .integer least greatest
  | array whole ih =>
    cases valued_of_value? read with
    | array values =>
      refine .array fun item inside => ?_
      obtain ⟨document, value⟩ := mem_itemsValue? values item inside
      exact ih item inside value
  | object whole ih =>
    cases valued_of_value? read with
    | object values =>
      obtain ⟨ascending, origin⟩ := membersValue?_placed values .nil
      refine .object ascending fun member inside => ?_
      obtain ⟨document, value⟩ := (origin member inside).resolve_left List.not_mem_nil
      exact ih member inside value

end Values

end RecordLocks.Json
