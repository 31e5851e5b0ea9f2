import RecordLocks.Proofs.JsonText
namespace RecordLocks.Json

variable {member : String × Json} {members : List (String × Json)} {cs others : List Char}

/-- A member on its line. -/
def lineChars (member : String × Json) : List Char :=
  ' ' :: ' ' :: quoted member.1 ++ ':' :: ' ' :: member.2.chars

/-- What follows the line of a first member. -/
def linesChars : List (String × Json) → List Char
  | [] => ['\n', '}']
  | member :: members => ',' :: '\n' :: (lineChars member ++ linesChars members)

theorem toList_renderLines (member : String × Json) (members : List (String × Json)) :
    (renderLines (member :: members)).toList =
      '{' :: '\n' :: (lineChars member ++ linesChars members) := by
  have joined : ([',', '\n'].intercalate ((member :: members).map lineChars)) ++ ['\n', '}'] =
      lineChars member ++ linesChars members := by
    induction members generalizing member with
    | nil => simp [linesChars]
    | cons next members ih =>
      rw [List.map_cons, List.map_cons, List.intercalate_cons_cons, List.append_assoc,
        List.append_assoc, ← List.map_cons, ih]
      rfl
  have lines : ((member :: members).map fun member => String.ofList
      (' ' :: ' ' :: quoted member.1 ++ ':' :: ' ' :: member.2.chars)).map String.toList =
        (member :: members).map lineChars := by
    rw [List.map_map]
    exact List.map_congr_left fun _ _ => String.toList_ofList
  rw [← joined, renderLines, String.toList_append, String.toList_append, String.toList_intercalate,
    lines]
  rfl

/-- Blanks before a value or a member make no difference. -/
theorem readValue_congr (same : skipBlanks cs = skipBlanks others) (fuel : Nat) :
    readValue fuel cs = readValue fuel others := by
  cases fuel with
  | zero => rfl
  | succ fuel => rw [readValue, readValue, same]

theorem readMember_congr (same : skipBlanks cs = skipBlanks others) (fuel : Nat) :
    readMember fuel cs = readMember fuel others := by
  cases fuel with
  | zero => rfl
  | succ fuel => rw [readMember, readMember, same]

theorem closes_linesChars (members : List (String × Json)) (rest : List Char) :
    Closes (linesChars members ++ rest) := by
  cases members <;> simp [linesChars, Closes]

theorem readMember_lineChars (reads : Reads member.2) {fuel : Nat}
    (enough : (lineChars member).length < fuel) {rest : List Char} (closes : Closes rest) :
    readMember fuel (lineChars member ++ rest) =
      some ((some member.1, member.2.document), rest) := by
  obtain ⟨key, value⟩ := member
  obtain ⟨fuel, rfl⟩ := Nat.exists_eq_succ_of_ne_zero (Nat.ne_zero_of_lt enough)
  simp only [lineChars, List.length_append, List.length_cons] at enough
  have inner := reads closes (show value.chars.length < fuel by omega)
  have blank : skipBlanks (' ' :: (value.chars ++ rest)) = skipBlanks (value.chars ++ rest) := rfl
  have spaced := (readValue_congr blank fuel).trans inner
  have quotes := readQuoted_quoted key (':' :: ' ' :: (value.chars ++ rest))
  simp [lineChars, quoted, readMember, skipBlanks, isBlank, quotes, spaced]

theorem readMembers_linesChars (reads : ∀ member ∈ members, Reads member.2) {fuel : Nat}
    (enough : (linesChars members).length < fuel) (rest : List Char) :
    readMembers fuel (linesChars members ++ rest) = some (memberDocuments members, rest) := by
  induction members generalizing fuel with
  | nil =>
    obtain ⟨fuel, rfl⟩ := Nat.exists_eq_add_of_lt enough
    simp [linesChars, readMembers, skipBlanks, isBlank, memberDocuments]
  | cons member members ih =>
    obtain ⟨fuel, rfl⟩ := Nat.exists_eq_succ_of_ne_zero (Nat.ne_zero_of_lt enough)
    simp only [linesChars, List.length_cons, List.length_append] at enough
    have first := readMember_lineChars (reads _ List.mem_cons_self)
      (show (lineChars member).length < fuel by omega) (closes_linesChars members rest)
    have blank : skipBlanks ('\n' :: (lineChars member ++ (linesChars members ++ rest))) =
        skipBlanks (lineChars member ++ (linesChars members ++ rest)) := rfl
    have below := (readMember_congr blank fuel).trans first
    have further := ih (fun other inside => reads other (List.mem_cons_of_mem _ inside))
      (show (linesChars members).length < fuel by omega)
    simp [linesChars, readMembers, skipBlanks, isBlank, below, further, memberDocuments]

/-- An object is read back from its lines. -/
theorem read_renderLines (reads : ∀ other ∈ member :: members, Reads other.2) :
    Document.read (renderLines (member :: members)) =
      some (Json.object (member :: members)).document := by
  have written := toList_renderLines member members
  obtain ⟨fuel, enough⟩ : ∃ fuel, 2 * (renderLines (member :: members)).toList.length + 2 =
    fuel + 1 := ⟨_, rfl⟩
  have size := congrArg List.length written
  simp only [List.length_cons, List.length_append] at size
  have first := readMember_lineChars (reads member List.mem_cons_self)
    (show (lineChars member).length < fuel by omega) (closes_linesChars members [])
  have further := readMembers_linesChars
    (fun other inside => reads other (List.mem_cons_of_mem member inside))
    (show (linesChars members).length < fuel by omega) []
  rw [List.append_nil] at first further
  -- The first member is looked at without the blanks in front of it.
  obtain ⟨shown, visible⟩ : ∃ shown,
      skipBlanks ('\n' :: (lineChars member ++ linesChars members)) = '"' :: shown := ⟨_, rfl⟩
  have same : skipBlanks ('"' :: shown) = skipBlanks (lineChars member ++ linesChars members) :=
    visible.symm
  have below := (readMember_congr same fuel).trans first
  have whole : readValue (fuel + 1) (renderLines (member :: members)).toList =
      some ((Json.object (member :: members)).document, []) := by
    rw [written, readValue, skipBlanks_of_not rfl]
    simp [visible, below, further, document, memberDocuments]
  simp only [Document.read, enough, whole, Option.bind_eq_bind, Option.bind_some]
  rfl

end RecordLocks.Json
