import RecordLocks.Json.Document
import RecordLocks.Proofs.DecimalText
namespace RecordLocks.Json

/-- Every number in the value is an integer. -/
inductive Whole : Json → Prop
  | null : Whole .null
  | bool (value : Bool) : Whole (.bool value)
  | integer (value : Int) : Whole (.integer value)
  | text (value : String) : Whole (.text value)
  | array {items : List Json} (whole : ∀ item ∈ items, Whole item) : Whole (.array items)
  | object {members : List (String × Json)} (whole : ∀ member ∈ members, Whole member.2) :
    Whole (.object members)

def integerLiteral (n : Int) : Literal := ⟨n < 0, Decimal.chars n.natAbs, [], none⟩

mutual

/-- What is read where the value is written. Numbers with a fraction are left out. -/
def document : Json → Document
  | null => .null
  | bool value => .bool value
  | integer value => .number (integerLiteral value)
  | real _ => .null
  | text value => .text (some value)
  | array items => .array (itemDocuments items)
  | object members => .object (memberDocuments members)

def itemDocuments : List Json → List Document
  | [] => []
  | item :: items => item.document :: itemDocuments items

def memberDocuments : List (String × Json) → List (Option String × Document)
  | [] => []
  | (key, value) :: members => (some key, value.document) :: memberDocuments members

end

theorem memberDocuments_eq (members : List (String × Json)) :
    memberDocuments members = members.map fun member => (some member.1, member.2.document) := by
  induction members with
  | nil => rfl
  | cons member members ih => simp [memberDocuments, ih]

section Quoted

theorem value?_digit {n : Nat} (small : n < 32) :
    Hexadecimal.value? ['0', '0', Hexadecimal.digit (n / 16), Hexadecimal.digit (n % 16)] =
      some n := by
  have all : ∀ n < 32, Hexadecimal.value?
      ['0', '0', Hexadecimal.digit (n / 16), Hexadecimal.digit (n % 16)] = some n := by decide
  exact all n small

/-- A character of quoted text is read as itself or, if it is a control character, by number. -/
inductive Spells (c : Char) : Piece → Prop
  | plain : Spells c (.plain c)
  | unit (control : c.toNat < 32) : Spells c (.unit c.toNat)

theorem readPieces_short {c name : Char} (known : escape? name = some c) (other : name ≠ 'u')
    (rest : List Char) :
    readPieces ('\\' :: name :: rest) =
      (readPieces rest).map fun (pieces, rest) => (.plain c :: pieces, rest) := by
  cases read : readPieces rest <;> simp [readPieces, other, known, read]

theorem readPieces_escaped (c : Char) (rest : List Char) :
    ∃ piece, Spells c piece ∧
      readPieces (escaped c ++ rest) =
        (readPieces rest).map fun (pieces, rest) => (piece :: pieces, rest) := by
  rw [escaped]
  split
  · rename_i same
    exact ⟨_, .plain, readPieces_short (by rw [same]; rfl) (by decide) rest⟩
  split
  · rename_i same
    exact ⟨_, .plain, readPieces_short (by rw [same]; rfl) (by decide) rest⟩
  split
  · rename_i same
    exact ⟨_, .plain, readPieces_short (by rw [same]; rfl) (by decide) rest⟩
  split
  · rename_i same
    exact ⟨_, .plain, readPieces_short (by rw [same]; rfl) (by decide) rest⟩
  split
  · rename_i same
    exact ⟨_, .plain, readPieces_short (by rw [same]; rfl) (by decide) rest⟩
  split
  · rename_i same
    exact ⟨_, .plain, readPieces_short (by rw [same]; rfl) (by decide) rest⟩
  split
  · rename_i same
    exact ⟨_, .plain, readPieces_short (by rw [same]; rfl) (by decide) rest⟩
  split
  · rename_i control
    refine ⟨_, .unit control, ?_⟩
    cases read : readPieces rest <;> simp [readPieces, value?_digit control, read]
  · rename_i backslash _ _ _ _ _ printable
    refine ⟨_, .plain, ?_⟩
    cases read : readPieces rest <;> simp [readPieces, backslash, printable, read]

theorem assemble_cons {c : Char} {piece : Piece} (spells : Spells c piece) (pieces : List Piece) :
    assemble (piece :: pieces) = (assemble pieces).map (c :: ·) := by
  cases spells with
  | plain => rfl
  | unit control =>
    have high : isHighSurrogate c.toNat = false := by
      simp only [isHighSurrogate, Bool.and_eq_false_iff, decide_eq_false_iff_not]
      omega
    have low : isLowSurrogate c.toNat = false := by
      simp only [isLowSurrogate, Bool.and_eq_false_iff, decide_eq_false_iff_not]
      omega
    cases pieces with
    | nil => simp [assemble, high, low]
    | cons next pieces => cases next <;> simp [assemble, high, low]

theorem readPieces_text (text rest : List Char) :
    ∃ pieces, readPieces (text.flatMap escaped ++ '"' :: rest) = some (pieces, rest) ∧
      assemble pieces = some text := by
  induction text with
  | nil => exact ⟨[], rfl, rfl⟩
  | cons c text ih =>
    obtain ⟨pieces, read, assembled⟩ := ih
    obtain ⟨piece, spells, first⟩ := readPieces_escaped c (text.flatMap escaped ++ '"' :: rest)
    refine ⟨piece :: pieces, ?_, ?_⟩
    · rw [List.flatMap_cons, List.append_assoc, first, read]
      rfl
    · rw [assemble_cons spells, assembled]
      rfl

/-- Quoted text is read as it was before. -/
theorem readQuoted_quoted (text : String) (rest : List Char) :
    readQuoted (text.toList.flatMap escaped ++ '"' :: rest) = some (some text, rest) := by
  obtain ⟨pieces, read, assembled⟩ := readPieces_text text.toList rest
  rw [readQuoted, read]
  simp [assembled]

end Quoted

/-- What may follow a value: the end of the text or of a line, a comma or a closing bracket. -/
def Closes (rest : List Char) : Prop := ∀ c ∈ rest.head?, c = ',' ∨ c = ']' ∨ c = '}' ∨ c = '\n'

theorem digitsOf_digits {digits rest : List Char} (all : ∀ c ∈ digits, Decimal.isDigit c = true)
    (ends : ∀ c ∈ rest.head?, Decimal.isDigit c = false) :
    digitsOf (digits ++ rest) = (digits, rest) := by
  rw [digitsOf, List.takeWhile_append_of_pos all, List.dropWhile_append_of_pos all]
  cases rest with
  | nil => simp
  | cons c rest => simp [ends c rfl]

theorem readLiteral_integer (n : Int) {rest : List Char} (closes : Closes rest) :
    readLiteral (integerChars n ++ rest) = some (integerLiteral n, rest) := by
  have ends : ∀ c ∈ rest.head?, Decimal.isDigit c = false := by
    intro c first
    rcases closes c first with rfl | rfl | rfl | rfl
    all_goals rfl
  have split := digitsOf_digits (fun c => Decimal.isDigit_of_mem_chars (n := n.natAbs)) ends
  have signed : readSign (integerChars n ++ rest) =
      (decide (n < 0), Decimal.chars n.natAbs ++ rest) := by
    rw [integerChars]
    by_cases negative : n < 0
    · simp [negative, readSign]
    · obtain ⟨c, digits, written⟩ := List.exists_cons_of_ne_nil (Decimal.chars_ne_nil n.natAbs)
      have digit : Decimal.isDigit c = true :=
        Decimal.isDigit_of_mem_chars (n := n.natAbs) (by simp [written])
      have other : c ≠ '-' := by
        rintro rfl
        cases digit
      simp [negative, written, readSign, other]
  have unpadded : ((Decimal.chars n.natAbs).isEmpty ||
      ((Decimal.chars n.natAbs).head? == some '0' &&
        decide ((Decimal.chars n.natAbs).length > 1))) = false := by
    rcases Nat.eq_zero_or_pos n.natAbs with zero | positive
    · rw [zero]
      rfl
    · have nonzero := Decimal.head_chars_ne_zero positive
      simp [Decimal.chars_ne_nil, nonzero]
  have noFraction : readFraction rest = some ([], rest) := by
    cases rest with
    | nil => rfl
    | cons c rest =>
      rcases closes c rfl with rfl | rfl | rfl | rfl
      all_goals rfl
  have noExponent : readExponent rest = some (none, rest) := by
    cases rest with
    | nil => rfl
    | cons c rest =>
      rcases closes c rfl with rfl | rfl | rfl | rfl
      all_goals rfl
  simp [readLiteral, signed, split, unpadded, noFraction, noExponent, integerLiteral]

/-- The value is read where it is written. -/
def Reads (value : Json) : Prop :=
  ∀ {rest : List Char} {fuel : Nat}, Closes rest → value.chars.length < fuel →
    readValue fuel (value.chars ++ rest) = some (value.document, rest)

theorem skipBlanks_of_not {c : Char} (visible : isBlank c = false) (rest : List Char) :
    skipBlanks (c :: rest) = c :: rest := by
  simp [skipBlanks, visible]

theorem integerChars_starts (n : Int) :
    ∃ c more, integerChars n = c :: more ∧ (c = '-' ∨ Decimal.isDigit c = true) := by
  obtain ⟨c, digits, written⟩ := List.exists_cons_of_ne_nil (Decimal.chars_ne_nil n.natAbs)
  have digit : Decimal.isDigit c = true :=
    Decimal.isDigit_of_mem_chars (n := n.natAbs) (by simp [written])
  rw [integerChars]
  split
  · exact ⟨_, _, rfl, .inl rfl⟩
  · exact ⟨c, digits, written, .inr digit⟩

/-- The characters with which a value begins. -/
def Starts (c : Char) : Prop := isBlank c = false ∧ c ≠ ']'

theorem starts_of_number {c : Char} (first : c = '-' ∨ Decimal.isDigit c = true) :
    Starts c ∧ c ≠ 'n' ∧ c ≠ 't' ∧ c ≠ 'f' ∧ c ≠ '"' ∧ c ≠ '[' ∧ c ≠ '{' := by
  rcases first with rfl | digit
  · exact ⟨⟨rfl, by decide⟩, by decide⟩
  · have other : ∀ {mark : Char}, Decimal.isDigit mark = false → c ≠ mark :=
      Decimal.ne_of_isDigit digit
    have visible : isBlank c = false := by
      simp [isBlank, other (show Decimal.isDigit ' ' = false from rfl),
        other (show Decimal.isDigit '\t' = false from rfl),
        other (show Decimal.isDigit '\n' = false from rfl),
        other (show Decimal.isDigit '\r' = false from rfl)]
    exact ⟨⟨visible, other rfl⟩, other rfl, other rfl, other rfl, other rfl, other rfl, other rfl⟩

theorem chars_starts {value : Json} (whole : value.Whole) :
    ∃ c more, value.chars = c :: more ∧ Starts c := by
  cases whole with
  | null => exact ⟨_, _, rfl, rfl, by decide⟩
  | bool value => cases value <;> exact ⟨_, _, rfl, rfl, by decide⟩
  | integer value =>
    obtain ⟨c, more, written, first⟩ := integerChars_starts value
    exact ⟨c, more, written, (starts_of_number first).1⟩
  | text value => exact ⟨_, _, rfl, rfl, by decide⟩
  | @array items whole => cases items <;> exact ⟨_, _, rfl, rfl, by decide⟩
  | @object members whole => cases members <;> exact ⟨_, _, rfl, rfl, by decide⟩

theorem reads_integer (n : Int) : Reads (.integer n) := by
  intro rest fuel closes enough
  obtain ⟨fuel, rfl⟩ := Nat.exists_eq_add_of_lt enough
  have literal := readLiteral_integer n closes
  obtain ⟨c, more, written, first⟩ := integerChars_starts n
  obtain ⟨starts, others⟩ := starts_of_number first
  simp only [chars, written, List.cons_append] at literal ⊢
  rw [readValue, skipBlanks_of_not starts.1]
  simp [others, literal, document]

theorem reads_text (text : String) : Reads (.text text) := by
  intro rest fuel closes enough
  obtain ⟨fuel, rfl⟩ := Nat.exists_eq_add_of_lt enough
  have quotes := readQuoted_quoted text rest
  simp [chars, quoted, readValue, skipBlanks, isBlank, quotes, document]

theorem closes_itemsChars (items : List Json) (rest : List Char) :
    Closes (itemsChars items ++ rest) := by
  cases items <;> simp [itemsChars, Closes]

theorem closes_membersChars (members : List (String × Json)) (rest : List Char) :
    Closes (membersChars members ++ rest) := by
  cases members <;> simp [membersChars, Closes]

theorem readItems_itemsChars {items : List Json} (reads : ∀ item ∈ items, Reads item)
    {fuel : Nat} (enough : (itemsChars items).length < fuel) (rest : List Char) :
    readItems fuel (itemsChars items ++ rest) = some (itemDocuments items, rest) := by
  induction items generalizing fuel with
  | nil =>
    obtain ⟨fuel, rfl⟩ := Nat.exists_eq_add_of_lt enough
    simp [itemsChars, readItems, skipBlanks, isBlank, itemDocuments]
  | cons item items ih =>
    obtain ⟨fuel, rfl⟩ := Nat.exists_eq_succ_of_ne_zero (Nat.ne_zero_of_lt enough)
    simp only [itemsChars, List.length_cons, List.length_append] at enough
    have first := reads item List.mem_cons_self (closes_itemsChars items rest)
      (show item.chars.length < fuel by omega)
    have further := ih (fun other member => reads other (List.mem_cons_of_mem item member))
      (show (itemsChars items).length < fuel by omega)
    simp [itemsChars, readItems, skipBlanks, isBlank, first, further, itemDocuments]

theorem reads_array {items : List Json} (whole : ∀ item ∈ items, Whole item)
    (reads : ∀ item ∈ items, Reads item) : Reads (.array items) := by
  intro rest fuel closes enough
  obtain ⟨fuel, rfl⟩ := Nat.exists_eq_succ_of_ne_zero (Nat.ne_zero_of_lt enough)
  cases items with
  | nil => simp [chars, readValue, skipBlanks, isBlank, document, itemDocuments]
  | cons item items =>
    simp only [chars, List.length_cons, List.length_append] at enough
    have first := reads item List.mem_cons_self (closes_itemsChars items rest)
      (show item.chars.length < fuel by omega)
    have further := readItems_itemsChars
      (fun other member => reads other (List.mem_cons_of_mem item member))
      (show (itemsChars items).length < fuel by omega) rest
    obtain ⟨c, more, written, visible, other⟩ := chars_starts (whole item List.mem_cons_self)
    rw [written, List.cons_append] at first
    simp only [chars, List.cons_append, List.append_assoc, written]
    rw [readValue, skipBlanks_of_not rfl]
    simp [skipBlanks_of_not visible, other, first, further, document, itemDocuments]

theorem readMember_chars (key : String) {value : Json} (reads : Reads value) {fuel : Nat}
    (enough : (quoted key ++ ':' :: value.chars).length < fuel) {rest : List Char}
    (closes : Closes rest) :
    readMember fuel (quoted key ++ ':' :: (value.chars ++ rest)) =
      some ((some key, value.document), rest) := by
  obtain ⟨fuel, rfl⟩ := Nat.exists_eq_succ_of_ne_zero (Nat.ne_zero_of_lt enough)
  simp only [List.length_append, List.length_cons] at enough
  have inner := reads closes (show value.chars.length < fuel by omega)
  have quotes := readQuoted_quoted key (':' :: (value.chars ++ rest))
  simp [quoted, readMember, skipBlanks, isBlank, quotes, inner]

theorem readMembers_membersChars {members : List (String × Json)}
    (reads : ∀ member ∈ members, Reads member.2) {fuel : Nat}
    (enough : (membersChars members).length < fuel) (rest : List Char) :
    readMembers fuel (membersChars members ++ rest) = some (memberDocuments members, rest) := by
  induction members generalizing fuel with
  | nil =>
    obtain ⟨fuel, rfl⟩ := Nat.exists_eq_add_of_lt enough
    simp [membersChars, readMembers, skipBlanks, isBlank, memberDocuments]
  | cons member members ih =>
    obtain ⟨key, value⟩ := member
    obtain ⟨fuel, rfl⟩ := Nat.exists_eq_succ_of_ne_zero (Nat.ne_zero_of_lt enough)
    simp only [membersChars, List.length_cons, List.length_append] at enough
    have enoughForFirst : (quoted key ++ ':' :: value.chars).length < fuel := by
      simp only [List.length_append, List.length_cons]
      omega
    have first := readMember_chars key (reads _ List.mem_cons_self) enoughForFirst
      (closes_membersChars members rest)
    have further := ih (fun other member => reads other (List.mem_cons_of_mem _ member))
      (show (membersChars members).length < fuel by omega)
    simp [membersChars, readMembers, skipBlanks, isBlank, first, further, memberDocuments]

theorem reads_object {members : List (String × Json)} (reads : ∀ member ∈ members, Reads member.2) :
    Reads (.object members) := by
  intro rest fuel closes enough
  obtain ⟨fuel, rfl⟩ := Nat.exists_eq_succ_of_ne_zero (Nat.ne_zero_of_lt enough)
  cases members with
  | nil => simp [chars, readValue, skipBlanks, isBlank, document, memberDocuments]
  | cons member members =>
    obtain ⟨key, value⟩ := member
    simp only [chars, List.length_cons, List.length_append] at enough
    have enoughForFirst : (quoted key ++ ':' :: value.chars).length < fuel := by
      simp only [List.length_append, List.length_cons]
      omega
    have first := readMember_chars key (reads _ List.mem_cons_self) enoughForFirst
      (closes_membersChars members rest)
    have further := readMembers_membersChars
      (fun other member => reads other (List.mem_cons_of_mem _ member))
      (show (membersChars members).length < fuel by omega) rest
    simp only [chars, quoted, List.cons_append, List.append_assoc, List.nil_append] at first ⊢
    rw [readValue, skipBlanks_of_not rfl]
    simp [skipBlanks_of_not (show isBlank '"' = false from rfl), first, further, document,
      memberDocuments]

theorem Whole.reads {value : Json} (whole : value.Whole) : Reads value := by
  induction whole with
  | null =>
    intro rest fuel closes enough
    obtain ⟨fuel, rfl⟩ := Nat.exists_eq_add_of_lt enough
    simp [chars, readValue, skipBlanks, isBlank, document]
  | bool value =>
    intro rest fuel closes enough
    obtain ⟨fuel, rfl⟩ := Nat.exists_eq_add_of_lt enough
    cases value <;> simp [chars, readValue, skipBlanks, isBlank, document]
  | integer value => exact reads_integer value
  | text value => exact reads_text value
  | array whole ih => exact reads_array whole ih
  | object whole ih => exact reads_object ih

/-- A value without fractions is read back from its compact form. -/
theorem Whole.read_render {value : Json} (whole : value.Whole) :
    Document.read value.render = some value.document := by
  have closes : Closes [] := by simp [Closes]
  have read := whole.reads closes (show value.chars.length < 2 * value.chars.length + 2 by omega)
  rw [List.append_nil] at read
  simp only [Document.read, render, String.toList_ofList, read, Option.bind_eq_bind, Option.bind_some]
  rfl

end RecordLocks.Json
