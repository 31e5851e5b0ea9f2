import Mathlib.Algebra.Ring.Nat
import RecordLocks.Proofs.DecimalText
import RecordLocks.Proofs.QuotedText
import RecordLocks.Proofs.SettingsTables
import RecordLocks.Settings.File
namespace RecordLocks

namespace Toml

section Number

variable {digits : List Char} (rest : List Char)

/-- What is left of digits at the end of a line goes on with a digit or ends the line. -/
theorem skipMark_digits (plain : ∀ c ∈ digits, isDigit c = true) {mark : Char}
    (other : isDigit mark = false) (inside : mark ≠ '\n') :
    skipMark mark (digits ++ '\n' :: rest) = none := by
  cases digits with
  | nil => simp [skipMark, Ne.symm inside]
  | cons c digits =>
    have different : c ≠ mark := by
      rintro rfl
      rw [plain c List.mem_cons_self] at other
      cases other
    simp [skipMark, different]

theorem readFixed_digits {width value : Nat} {tail : List Char}
    (read : readFixed width (digits ++ '\n' :: rest) = some (value, tail)) :
    tail = digits.drop width ++ '\n' :: rest := by
  simp only [readFixed] at read
  split at read
  · rename_i fixed
    cases read
    rcases Nat.lt_or_ge digits.length width with short | long
    · obtain ⟨more, rfl⟩ := Nat.exists_eq_add_of_lt short
      have lineEnd : '\n' ∈ (digits ++ '\n' :: rest).take (digits.length + more + 1) := by
        simp [List.take_append, Nat.add_assoc]
      cases List.all_eq_true.mp fixed.2 '\n' lineEnd
    · rw [List.drop_append_of_le_length long]
  · cases read

/-- Digits at the end of a line are no date and no time. -/
theorem skipMoment_digits (plain : ∀ c ∈ digits, isDigit c = true) :
    skipMoment (digits ++ '\n' :: rest) = none := by
  have unmarked : ∀ width (mark : Char), isDigit mark = false → mark ≠ '\n' →
      ((readFixed width (digits ++ '\n' :: rest)).bind fun fixed => skipMark mark fixed.2) =
        none := by
    intro width mark other inside
    cases read : readFixed width (digits ++ '\n' :: rest) with
    | none => rfl
    | some fixed =>
      have tail := readFixed_digits rest read
      have left : ∀ c ∈ digits.drop width, isDigit c = true :=
        fun c member => plain c (List.mem_of_mem_drop member)
      rw [Option.bind_some, tail, skipMark_digits rest left other inside]
  have noDate : skipDate (digits ++ '\n' :: rest) = none := by
    have year := unmarked 4 '-' rfl (by decide)
    cases read : readFixed 4 (digits ++ '\n' :: rest) with
    | none => simp [skipDate, read]
    | some fixed =>
      rw [read] at year
      simp [skipDate, read, show skipMark '-' fixed.2 = none from year]
  have noTime : skipTime (digits ++ '\n' :: rest) = none := by
    have hour := unmarked 2 ':' rfl (by decide)
    cases read : readFixed 2 (digits ++ '\n' :: rest) with
    | none => simp [skipTime, read]
    | some fixed =>
      rw [read] at hour
      simp [skipTime, read, show skipMark ':' fixed.2 = none from hour]
  rw [skipMoment, noDate, noTime]

theorem readDigits_digits (plain : ∀ c ∈ digits, isDigit c = true) (nonempty : digits ≠ []) :
    readDigits isDigit (digits ++ '\n' :: rest) = some (digits, '\n' :: rest) := by
  have gapless : ∀ c, isDigit c = true → c ≠ '_' := by
    rintro c digit rfl
    cases digit
  have lineEnd : isDigit '\n' = false := rfl
  induction digits with
  | nil => exact absurd rfl nonempty
  | cons c digits ih =>
    have printed := plain c List.mem_cons_self
    cases digits with
    | nil => simp [readDigits, printed, gapless c printed, lineEnd]
    | cons d digits =>
      have next := plain d (List.mem_cons_of_mem c List.mem_cons_self)
      have further := ih (fun e member => plain e (List.mem_cons_of_mem c member)) (by simp)
      rw [List.cons_append] at further
      simp [readDigits, printed, gapless c printed, next, gapless d next, further]

theorem readWhole_chars (n : Nat) :
    readWhole (Decimal.chars n ++ '\n' :: rest) = some (Decimal.chars n, '\n' :: rest) := by
  rcases Nat.eq_zero_or_pos n with rfl | positive
  · rfl
  · have read := readDigits_digits rest (fun c => Decimal.isDigit_of_mem_chars)
      (Decimal.chars_ne_nil n)
    have nonzero := Decimal.head_chars_ne_zero positive
    obtain ⟨c, digits, written⟩ := List.exists_cons_of_ne_nil (Decimal.chars_ne_nil n)
    rw [written] at read nonzero ⊢
    have other : c ≠ '0' := by simpa using nonzero
    simpa [readWhole, other] using read

/-- A number begins with a digit, so that it is none of the other values. -/
theorem chars_starts (n : Nat) :
    ∃ c digits, Decimal.chars n = c :: digits ∧ isDigit c = true := by
  obtain ⟨c, digits, written⟩ := List.exists_cons_of_ne_nil (Decimal.chars_ne_nil n)
  have member : c ∈ Decimal.chars n := by
    rw [written]
    exact List.mem_cons_self
  exact ⟨c, digits, written, Decimal.isDigit_of_mem_chars member⟩

theorem readSign_digit {c : Char} (digit : isDigit c = true) (cs : List Char) :
    readSign (c :: cs) = (false, c :: cs) := by
  have noPlus : c ≠ '+' := Decimal.ne_of_isDigit digit rfl
  have noMinus : c ≠ '-' := Decimal.ne_of_isDigit digit rfl
  simp [readSign, noPlus, noMinus]

theorem skipReal_chars (n : Nat) : skipReal (Decimal.chars n ++ '\n' :: rest) = none := by
  have whole := readWhole_chars rest n
  obtain ⟨c, digits, written, digit⟩ := chars_starts n
  have sign := readSign_digit digit (digits ++ '\n' :: rest)
  have special : skipSpecial (c :: (digits ++ '\n' :: rest)) = none := by
    have noI : c ≠ 'i' := Decimal.ne_of_isDigit digit rfl
    have noN : c ≠ 'n' := Decimal.ne_of_isDigit digit rfl
    simp [skipSpecial, noI, noN]
  rw [written, List.cons_append] at whole ⊢
  simp [skipReal, sign, special, whole, readExponent]

theorem readInteger_chars {n : Nat} (small : (n : Int) ≤ greatestInteger) :
    readInteger (Decimal.chars n ++ '\n' :: rest) = some ((n : Int), '\n' :: rest) := by
  have whole := readWhole_chars rest n
  have value := Decimal.value_chars n
  have inside : inRange (n : Int) = some (n : Int) := by
    rw [inRange, if_pos ⟨by simp only [leastInteger]; omega, small⟩]
  rcases Nat.eq_zero_or_pos n with rfl | positive
  · rfl
  · have nonzero := Decimal.head_chars_ne_zero positive
    obtain ⟨c, digits, written, digit⟩ := chars_starts n
    have sign := readSign_digit digit (digits ++ '\n' :: rest)
    rw [written] at nonzero value
    rw [written, List.cons_append] at whole ⊢
    have other : c ≠ '0' := by simpa using nonzero
    simp [readInteger, other, sign, whole, value, inside]

theorem readScalar_chars {n : Nat} (small : (n : Int) ≤ greatestInteger) :
    readScalar (Decimal.chars n ++ '\n' :: rest) = some (.integer n, '\n' :: rest) := by
  have integer := readInteger_chars rest small
  have moment := skipMoment_digits rest fun c => Decimal.isDigit_of_mem_chars (n := n)
  have real := skipReal_chars rest n
  obtain ⟨c, digits, written, digit⟩ := chars_starts n
  rw [written, List.cons_append] at integer moment real ⊢
  have noWord : c ≠ 't' ∧ c ≠ 'f' :=
    ⟨Decimal.ne_of_isDigit digit rfl, Decimal.ne_of_isDigit digit rfl⟩
  have noQuote : c ≠ '"' ∧ c ≠ '\'' :=
    ⟨Decimal.ne_of_isDigit digit rfl, Decimal.ne_of_isDigit digit rfl⟩
  simp [readScalar, noWord, noQuote, moment, real, integer]

end Number

section Line

variable {name : List Char} (rest : List Char)

theorem not_space_of_bare {c : Char} (bare : isBare c = true) : isSpace c = false := by
  rw [Bool.eq_false_iff]
  intro space
  rcases (by simpa [isSpace] using space : c = ' ' ∨ c = '\t') with rfl | rfl
  · cases bare
  · cases bare

theorem skipSpace_of_not {c : Char} (other : isSpace c = false) (cs : List Char) :
    skipSpace (c :: cs) = c :: cs := by
  simp [skipSpace, other]

/-- A bare key ends where no character of its kind follows, and a point does not either. -/
theorem readKey_bare (bare : ∀ c ∈ name, isBare c = true) (nonempty : name ≠ []) {tail : List Char}
    (ends : ∀ c ∈ tail.head?, isBare c = false) (noPoint : (skipSpace tail).head? ≠ some '.') :
    readKey (name ++ tail) = some ([String.ofList name], skipSpace tail) := by
  have taken : (name ++ tail).takeWhile isBare = name := by
    rw [List.takeWhile_append_of_pos bare]
    cases tail with
    | nil => simp
    | cons c tail => simp [ends c rfl]
  have dropped : (name ++ tail).dropWhile isBare = tail := by
    rw [List.dropWhile_append_of_pos bare]
    cases tail with
    | nil => simp
    | cons c tail => simp [ends c rfl]
  have part : readKeyPart (skipSpace (name ++ tail)) = some (String.ofList name, tail) := by
    obtain ⟨c, name, rfl⟩ := List.exists_cons_of_ne_nil nonempty
    have first := bare c List.mem_cons_self
    have noQuote : c ≠ '"' ∧ c ≠ '\'' := by
      constructor
      · rintro rfl
        cases first
      · rintro rfl
        cases first
    rw [List.cons_append] at taken dropped ⊢
    rw [skipSpace_of_not (not_space_of_bare first)]
    simp [readKeyPart, noQuote, taken, dropped]
  rw [readKey, readKeyParts]
  cases left : skipSpace tail with
  | nil => simp [part, left, nestingLimit]
  | cons c more =>
    have other : c ≠ '.' := by simpa [left] using noPoint
    simp [part, left, nestingLimit, other]

/-- At the beginning of a statement there is nothing to skip. -/
theorem gap_of_starts {c : Char} (starts : isBare c = true ∨ c = '[') :
    gap (c :: rest) = some (c :: rest) := by
  have other : isSpace c = false ∧ c ≠ '#' ∧ c ≠ '\n' ∧ c ≠ '\r' := by
    rcases starts with bare | rfl
    · refine ⟨not_space_of_bare bare, ?_, ?_, ?_⟩
      all_goals
        rintro rfl
        cases bare
    · decide
  simp [gap, skipGap, skipSpace_of_not other.1, other]

/-- An empty line is skipped. -/
theorem gap_lineEnd {c : Char} (starts : isBare c = true ∨ c = '[') :
    gap ('\n' :: c :: rest) = some (c :: rest) := by
  have skipped : skipGap (rest.length + 1 + 1) (c :: rest) = some (c :: rest) :=
    gap_of_starts rest starts
  simpa [gap, skipGap, skipSpace_of_not (show isSpace '\n' = false from rfl)] using skipped

theorem skipLine_lineEnd : skipLine ('\n' :: rest) = some rest := rfl

theorem readTable_bare (bare : ∀ c ∈ name, isBare c = true) (nonempty : name ≠ []) :
    readStatement ('[' :: (name ++ ']' :: '\n' :: rest)) =
      some (.table [String.ofList name], rest) := by
  have key : readKey (name ++ ']' :: '\n' :: rest) =
      some ([String.ofList name], ']' :: '\n' :: rest) :=
    readKey_bare bare nonempty (by simp [isBare]) (by simp [skipSpace, isSpace])
  obtain ⟨c, name, rfl⟩ := List.exists_cons_of_ne_nil nonempty
  have other : c ≠ '[' := by
    rintro rfl
    cases bare _ List.mem_cons_self
  rw [List.cons_append] at key ⊢
  simp [readStatement, other, readTable, key, skipMark, skipLine_lineEnd]

/-- A value on the rest of a line. -/
theorem readAssignment_bare (bare : ∀ c ∈ name, isBare c = true) (nonempty : name ≠ [])
    {value : List Char} {written : Written} {c : Char} {more : List Char}
    (starts : value = c :: more)
    (other : isSpace c = false ∧ c ≠ '[' ∧ c ≠ '{')
    (read : readScalar (value ++ '\n' :: rest) = some (written, '\n' :: rest)) :
    readStatement (name ++ ' ' :: '=' :: ' ' :: (value ++ '\n' :: rest)) =
      some (.assign [String.ofList name] written, rest) := by
  have key : readKey (name ++ ' ' :: '=' :: ' ' :: (value ++ '\n' :: rest)) =
      some ([String.ofList name], '=' :: ' ' :: (value ++ '\n' :: rest)) :=
    readKey_bare bare nonempty (by simp [isBare]) (by simp [skipSpace, isSpace])
  obtain ⟨first, name, rfl⟩ := List.exists_cons_of_ne_nil nonempty
  have noHeader : first ≠ '[' := by
    rintro rfl
    cases bare _ List.mem_cons_self
  subst starts
  have direct : ∀ fuel depth, readWritten (fuel + 1) depth (c :: (more ++ '\n' :: rest)) =
      some (written, '\n' :: rest) := by
    intro fuel depth
    simpa [readWritten, other] using read
  have skipped : skipSpace (' ' :: c :: (more ++ '\n' :: rest)) = c :: (more ++ '\n' :: rest) :=
    skipSpace_of_not other.1 _
  rw [List.cons_append, List.cons_append] at key ⊢
  simp [readStatement, noHeader, readAssignment, key, skipMark, skipped, direct, skipLine_lineEnd]

end Line

/-- A text that consists of statements, each on a line of its own. -/
inductive Lines : List Char → List Statement → Prop
  | done : Lines [] []
  | line {cs begun rest : List Char} {statement : Statement} {statements : List Statement}
    (skipped : gap cs = some begun) (nonempty : begun ≠ [])
    (read : readStatement begun = some (statement, rest)) (shorter : rest.length < cs.length)
    (further : Lines rest statements) : Lines cs (statement :: statements)

theorem Lines.readLines {cs : List Char} {statements : List Statement}
    (lines : Lines cs statements) {fuel : Nat} (enough : cs.length < fuel) :
    readLines fuel cs = some statements := by
  induction lines generalizing fuel with
  | done =>
    obtain ⟨fuel, rfl⟩ := Nat.exists_eq_add_of_lt enough
    simp [Toml.readLines, gap, skipGap, skipSpace]
  | @line cs begun rest statement statements skipped nonempty read shorter further ih =>
    obtain ⟨fuel, rfl⟩ : ∃ less, fuel = less + 1 := ⟨fuel - 1, by omega⟩
    have more : Toml.readLines fuel rest = some statements := ih (by omega)
    obtain ⟨c, tail, rfl⟩ := List.exists_cons_of_ne_nil nonempty
    simp [Toml.readLines, skipped, read, more]

theorem Lines.readStatements {cs : List Char} {statements : List Statement}
    (lines : Lines cs statements) (unmarked : cs.head? ≠ some byteOrderMark) :
    readStatements cs = some statements := by
  rw [Toml.readStatements, if_neg unmarked]
  exact lines.readLines (Nat.lt_succ_self _)

theorem Form.write_starts (form : Form) (text : List Char) :
    ∃ c more, form.write text = c :: more ∧ (c = '"' ∨ c = '\'') := by
  cases form with
  | basic => exact ⟨_, _, rfl, .inl rfl⟩
  | literal => exact ⟨_, _, rfl, .inr rfl⟩
  | longBasic => exact ⟨_, _, rfl, .inl rfl⟩
  | longLiteral => exact ⟨_, _, rfl, .inr rfl⟩

theorem readScalar_write {form : Form} {text : List Char} (fits : form.Fits text)
    (rest : List Char) :
    readScalar (form.write text ++ '\n' :: rest) =
      some (.text (String.ofList text), '\n' :: rest) := by
  have stops : Stops ('\n' :: rest) := by simp [Stops]
  have read := readString_write fits stops
  obtain ⟨c, more, written, quote⟩ := form.write_starts text
  rw [written, List.cons_append] at read ⊢
  rcases quote with rfl | rfl
  · simp [readScalar, read]
  · simp [readScalar, read]

variable {key : String} {rest : List Char} {statements : List Statement}

/-- A name that is written as it is, without quotes. -/
def IsBareName (name : String) : Prop :=
  name.toList ≠ [] ∧ ∀ c ∈ name.toList, isBare c = true

instance (name : String) : Decidable (IsBareName name) :=
  decidable_of_iff (name.toList ≠ [] ∧ name.toList.all isBare) (by simp [IsBareName])

theorem Lines.table (bare : IsBareName key) {header : String}
    (written : header.toList = '[' :: (key.toList ++ [']', '\n']))
    (further : Lines rest statements) :
    Lines (header.toList ++ rest) (.table [key] :: statements) := by
  rw [written, List.cons_append, List.append_assoc]
  have read := readTable_bare rest bare.2 bare.1
  rw [String.ofList_toList] at read
  have shorter : rest.length < ('[' :: (key.toList ++ ([']', '\n'] ++ rest))).length := by
    simp only [List.length_cons, List.length_append]
    omega
  exact .line (gap_of_starts _ (.inr rfl)) (List.cons_ne_nil _ _) read shorter further

/-- Tables after the first have an empty line in front. -/
theorem Lines.nextTable (bare : IsBareName key) {header : String}
    (written : header.toList = '\n' :: '[' :: (key.toList ++ [']', '\n']))
    (further : Lines rest statements) :
    Lines (header.toList ++ rest) (.table [key] :: statements) := by
  rw [written, List.cons_append, List.cons_append, List.append_assoc]
  have read := readTable_bare rest bare.2 bare.1
  rw [String.ofList_toList] at read
  have shorter : rest.length < ('\n' :: '[' :: (key.toList ++ ([']', '\n'] ++ rest))).length := by
    simp only [List.length_cons, List.length_append]
    omega
  exact .line (gap_lineEnd _ (.inr rfl)) (List.cons_ne_nil _ _) read shorter further

theorem Lines.assign (bare : IsBareName key) {value : List Char} {written : Written} {c : Char}
    {more : List Char} (starts : value = c :: more) (other : isSpace c = false ∧ c ≠ '[' ∧ c ≠ '{')
    (read : readScalar (value ++ '\n' :: rest) = some (written, '\n' :: rest))
    (further : Lines rest statements) :
    Lines (key.toList ++ ' ' :: '=' :: ' ' :: (value ++ '\n' :: rest))
      (.assign [key] written :: statements) := by
  have line := readAssignment_bare rest bare.2 bare.1 starts other read
  rw [String.ofList_toList] at line
  obtain ⟨nonempty, all⟩ := bare
  obtain ⟨first, name, named⟩ := List.exists_cons_of_ne_nil nonempty
  rw [named] at all line ⊢
  have shorter : rest.length <
      (first :: name ++ ' ' :: '=' :: ' ' :: (value ++ '\n' :: rest)).length := by
    simp only [List.length_cons, List.length_append]
    omega
  exact .line (gap_of_starts _ (.inl (all first List.mem_cons_self))) (List.cons_ne_nil _ _) line
    shorter further

theorem Lines.assignNumber (bare : IsBareName key) {n : Nat} (small : (n : Int) ≤ greatestInteger)
    (further : Lines rest statements) :
    Lines (key.toList ++ ' ' :: '=' :: ' ' :: (Decimal.chars n ++ '\n' :: rest))
      (.assign [key] (.integer n) :: statements) := by
  obtain ⟨c, digits, written, digit⟩ := chars_starts n
  have other : isSpace c = false ∧ c ≠ '[' ∧ c ≠ '{' := by
    refine ⟨?_, Decimal.ne_of_isDigit digit rfl, Decimal.ne_of_isDigit digit rfl⟩
    simp [isSpace, Decimal.ne_of_isDigit digit (show isDigit ' ' = false from rfl),
      Decimal.ne_of_isDigit digit (show isDigit '\t' = false from rfl)]
  exact .assign bare written other (readScalar_chars rest small) further

theorem Lines.assignText (bare : IsBareName key) {form : Form} {text : List Char}
    (fits : form.Fits text) (further : Lines rest statements) :
    Lines (key.toList ++ ' ' :: '=' :: ' ' :: (form.write text ++ '\n' :: rest))
      (.assign [key] (.text (String.ofList text)) :: statements) := by
  obtain ⟨c, more, written, quote⟩ := form.write_starts text
  have other : isSpace c = false ∧ c ≠ '[' ∧ c ≠ '\x7b' := by
    rcases quote with rfl | rfl
    · decide
    · decide
  exact .assign bare written other (readScalar_write fits rest) further

end Toml

namespace Settings

open Toml

variable {settings : Settings} {key : String} {rest : List Char} {later : List Statement}

/-- The numbers among the settings. -/
def numbers (settings : Settings) : List UInt64 :=
  [settings.manager.writeDelay, settings.manager.readDelay, settings.demo.bookId,
    settings.demo.probeDelay, settings.demo.settleDelay]

/-- Numbers in a file are signed, so they end at half the range of a word. -/
def Representable (settings : Settings) : Prop := ∀ n ∈ settings.numbers, n.toNat ≤ 2 ^ 63 - 1

instance (settings : Settings) : Decidable settings.Representable :=
  List.decidableBAll _ settings.numbers

def wordLine (key : String) (n : UInt64) : String := s!"{key} = {idText n}\n"

theorem wordLine?_of_le {n : UInt64} (small : n.toNat ≤ 2 ^ 63 - 1) :
    wordLine? key n = some (wordLine key n) :=
  if_pos (by simp only [greatestInteger]; omega)

theorem le_of_wordLine? {n : UInt64} {line : String} (written : wordLine? key n = some line) :
    n.toNat ≤ 2 ^ 63 - 1 := by
  rw [wordLine?] at written
  split at written
  · rename_i small
    simp only [greatestInteger] at small
    omega
  · cases written

theorem lines_word (bare : IsBareName key) {n : UInt64} (small : n.toNat ≤ 2 ^ 63 - 1)
    (further : Lines rest later) :
    Lines ((wordLine key n).toList ++ rest)
      (.assign [key] (.integer n.toNat) :: later) := by
  have text : (wordLine key n).toList ++ rest =
      key.toList ++ ' ' :: '=' :: ' ' :: (Decimal.chars n.toNat ++ '\n' :: rest) := by
    simp [wordLine, idText, Decimal.text, String.toList_append, toString]
  rw [text]
  exact .assignNumber bare (by simp only [greatestInteger]; omega) further

theorem lines_text (bare : IsBareName key) (value : String) (further : Lines rest later) :
    Lines ((textLine key value).toList ++ rest) (.assign [key] (.text value) :: later) := by
  have text : (textLine key value).toList ++ rest =
      key.toList ++ ' ' :: '=' :: ' ' :: (writeString value.toList ++ '\n' :: rest) := by
    simp [textLine, String.toList_append, toString]
  have line := Lines.assignText bare (Form.fits_choose value.toList) further
  rw [String.ofList_toList] at line
  rw [text]
  exact line

/-- What a file with the settings says. -/
def statements (settings : Settings) : List Statement :=
  [.table ["manager"],
    .assign ["write_delay_ms"] (.integer settings.manager.writeDelay.toNat),
    .assign ["read_delay_ms"] (.integer settings.manager.readDelay.toNat),
    .table ["logging"],
    .assign ["filter"] (.text settings.logging.filter),
    .table ["demo"],
    .assign ["book_id"] (.integer settings.demo.bookId.toNat),
    .assign ["title"] (.text settings.demo.title),
    .assign ["new_title"] (.text settings.demo.newTitle),
    .assign ["rival_title"] (.text settings.demo.rivalTitle),
    .assign ["probe_delay_ms"] (.integer settings.demo.probeDelay.toNat),
    .assign ["settle_delay_ms"] (.integer settings.demo.settleDelay.toNat)]

/-- The lines of a file with the settings. -/
def lines (settings : Settings) : List String :=
  ["[manager]\n", wordLine "write_delay_ms" settings.manager.writeDelay,
    wordLine "read_delay_ms" settings.manager.readDelay,
    "\n[logging]\n", textLine "filter" settings.logging.filter,
    "\n[demo]\n", wordLine "book_id" settings.demo.bookId,
    textLine "title" settings.demo.title, textLine "new_title" settings.demo.newTitle,
    textLine "rival_title" settings.demo.rivalTitle,
    wordLine "probe_delay_ms" settings.demo.probeDelay,
    wordLine "settle_delay_ms" settings.demo.settleDelay]

theorem representable_iff : settings.Representable ↔
    settings.manager.writeDelay.toNat ≤ 2 ^ 63 - 1 ∧
      settings.manager.readDelay.toNat ≤ 2 ^ 63 - 1 ∧
      UInt64.toNat settings.demo.bookId ≤ 2 ^ 63 - 1 ∧
      settings.demo.probeDelay.toNat ≤ 2 ^ 63 - 1 ∧
      settings.demo.settleDelay.toNat ≤ 2 ^ 63 - 1 := by
  simp [Representable, numbers]

theorem toToml?_of_representable (representable : settings.Representable) :
    settings.toToml? = some (String.join settings.lines) := by
  obtain ⟨write, read, book, probe, settle⟩ := representable_iff.mp representable
  simp only [toToml?, wordLine?_of_le write, wordLine?_of_le read, wordLine?_of_le book,
    wordLine?_of_le probe, wordLine?_of_le settle]
  rfl

theorem representable_of_toToml? {text : String} (written : settings.toToml? = some text) :
    settings.Representable := by
  simp only [toToml?, Option.bind_eq_bind, Option.bind_eq_some_iff] at written
  obtain ⟨_, write, _, read, _, book, _, probe, _, settle, -⟩ := written
  exact representable_iff.mpr ⟨le_of_wordLine? write, le_of_wordLine? read, le_of_wordLine? book,
    le_of_wordLine? probe, le_of_wordLine? settle⟩

theorem lines_read (representable : settings.Representable) :
    Lines (String.join settings.lines).toList settings.statements := by
  obtain ⟨write, read, book, probe, settle⟩ := representable_iff.mp representable
  rw [String.toList_join]
  simp only [lines, List.flatMap_cons, List.flatMap_nil]
  exact .table (by decide) (by decide) (lines_word (by decide) write
    (lines_word (by decide) read (.nextTable (by decide) (by decide)
      (lines_text (by decide) _ (.nextTable (by decide) (by decide)
        (lines_word (by decide) book (lines_text (by decide) _ (lines_text (by decide) _
          (lines_text (by decide) _ (lines_word (by decide) probe
            (lines_word (by decide) settle .done)))))))))))

theorem readStatements_lines (representable : settings.Representable) :
    readStatements (String.join settings.lines).toList = some settings.statements := by
  apply (lines_read representable).readStatements
  rw [String.toList_join]
  simp only [lines, List.flatMap_cons]
  intro marked
  exact absurd (Option.some.inj marked) (by decide : '[' ≠ byteOrderMark)

/-- The table that the statements build. -/
def tree (settings : Settings) : Table :=
  ⟨false, false,
    [("manager", .table false false
      [("write_delay_ms", .leaf (.integer settings.manager.writeDelay.toNat)),
        ("read_delay_ms", .leaf (.integer settings.manager.readDelay.toNat))]),
      ("logging", .table false false [("filter", .leaf (.text settings.logging.filter))]),
      ("demo", .table false false
        [("book_id", .leaf (.integer settings.demo.bookId.toNat)),
          ("title", .leaf (.text settings.demo.title)),
          ("new_title", .leaf (.text settings.demo.newTitle)),
          ("rival_title", .leaf (.text settings.demo.rivalTitle)),
          ("probe_delay_ms", .leaf (.integer settings.demo.probeDelay.toNat)),
          ("settle_delay_ms", .leaf (.integer settings.demo.settleDelay.toNat))])]⟩

theorem build_statements (settings : Settings) :
    Table.build settings.statements [] .root = some settings.tree := rfl

theorem word?_toNat (n : UInt64) : Value.word? (.integer n.toNat) = some n := by
  simp [Value.word?]

/-- How a setting is kept in a document. -/
def tomlValue : (key : SettingKey) → key.Content → Value
  | .filter, text | .title, text | .newTitle, text | .rivalTitle, text => .text text
  | .writeDelay, n | .readDelay, n | .bookId, n | .probeDelay, n | .settleDelay, n =>
    .integer (UInt64.toNat n)

theorem read?_tomlValue (key : SettingKey) (content : key.Content) :
    key.read? (tomlValue key content) = some content := by
  cases key with
  | filter | title | newTitle | rivalTitle => rfl
  | writeDelay | readDelay | bookId | probeDelay | settleDelay => exact word?_toNat content

theorem readSettings_tree (settings : Settings) :
    SettingsSource.readSettings (Value.table (membersValue settings.tree.members)) =
      some settings :=
  readSettings_members read?_tomlValue settings

/-- Settings that can be written are read back as they were. -/
theorem ofToml?_lines (representable : settings.Representable) :
    ofToml? (String.join settings.lines) = some settings := by
  simp only [ofToml?, Toml.read, readStatements_lines representable, build_statements,
    Option.bind_eq_bind, Option.bind_some, readSettings_tree, pure]

end Settings

end RecordLocks
