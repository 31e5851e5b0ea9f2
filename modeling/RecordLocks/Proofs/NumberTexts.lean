import Mathlib.Data.List.Induction
import RecordLocks.Proofs.KeyedSettings
namespace RecordLocks

namespace Decimal

/-- A numeral without its sign. -/
def unsigned : List Char → List Char
  | '+' :: rest => rest
  | cs => cs

/-- The digits at the beginning denote too large a number already. -/
def Overflows (bound : Nat) (cs : List Char) : Prop :=
  ∃ digits rest, unsigned cs = digits ++ rest ∧ (∀ c ∈ digits, isDigit c = true) ∧
    bound ≤ value digits

/-- A sign stands alone, or another character comes before the digits denote too large a number. -/
def Garbled (bound : Nat) (cs : List Char) : Prop :=
  cs = ['+'] ∨ ∃ digits rest, unsigned cs = digits ++ rest ∧ (∀ c ∈ digits, isDigit c = true) ∧
    value digits < bound ∧ ∃ c ∈ rest.head?, isDigit c = false

/-- Digits without leading zeros, of which at least one is kept. -/
def significant (digits : List Char) : List Char :=
  match digits.dropWhile (· = '0') with
  | [] => ['0']
  | digits => digits

variable {bound high n d : Nat} {c : Char} {cs digits : List Char}

theorem isDigit_of_value (known : digitValue? c = some d) : isDigit c = true := by
  rw [isDigit, known]
  rfl

theorem isDigit_of_no_value (unknown : digitValue? c = none) : isDigit c = false := by
  rw [isDigit, unknown]
  rfl

theorem valueFrom_cons (known : digitValue? c = some d) (high : Nat) (rest : List Char) :
    valueFrom high (c :: rest) = valueFrom (high * 10 + d) rest := by
  simp [valueFrom, known]

theorem readDigits_cons (known : digitValue? c = some d) (bound high : Nat) (rest : List Char) :
    readDigits bound high (c :: rest) =
      if high * 10 + d < bound then readDigits bound (high * 10 + d) rest
      else .error .overflow := by
  rw [readDigits, known]

theorem readDigits_ne_empty (bound high : Nat) (cs : List Char) :
    readDigits bound high cs ≠ .error .empty := by
  induction cs generalizing high with
  | nil => simp [readDigits]
  | cons c rest ih =>
    cases known : digitValue? c with
    | none => simp [readDigits, known]
    | some d =>
      rw [readDigits_cons known]
      split
      · exact ih _
      · simp

/-- What the beginning of a text is like is seen from its first character and the rest. -/
theorem splits_cons {like : List Char → List Char → Prop} :
    (∃ digits rest, c :: cs = digits ++ rest ∧ like digits rest) ↔
      like [] (c :: cs) ∨ ∃ digits rest, cs = digits ++ rest ∧ like (c :: digits) rest := by
  constructor
  · rintro ⟨digits, rest, split, fits⟩
    cases digits with
    | nil =>
      obtain rfl : c :: cs = rest := split
      exact .inl fits
    | cons first digits =>
      obtain ⟨rfl, rfl⟩ := List.cons.inj split
      exact .inr ⟨digits, rest, rfl, fits⟩
  · rintro (fits | ⟨digits, rest, rfl, fits⟩)
    · exact ⟨[], c :: cs, rfl, fits⟩
    · exact ⟨c :: digits, rest, rfl, fits⟩

theorem readDigits_eq_overflow (small : high < bound) :
    readDigits bound high cs = .error .overflow ↔
      ∃ digits rest, cs = digits ++ rest ∧ (∀ c ∈ digits, isDigit c = true) ∧
        bound ≤ valueFrom high digits := by
  induction cs generalizing high with
  | nil => simp [readDigits, valueFrom, small]
  | cons c cs ih =>
    rw [splits_cons]
    simp only [List.forall_mem_cons]
    cases known : digitValue? c with
    | none => simp [readDigits, known, isDigit_of_no_value known, valueFrom, small]
    | some d =>
      have below : ¬ bound ≤ valueFrom high [] := Nat.not_le.mpr small
      simp only [readDigits_cons known, valueFrom_cons known, isDigit_of_value known]
      by_cases fits : high * 10 + d < bound
      · simp [if_pos fits, ih fits, below]
      · rw [if_neg fits]
        refine iff_of_true rfl (.inr ⟨[], cs, rfl, by simp, ?_⟩)
        exact Nat.not_lt.mp fits

theorem readDigits_eq_invalidDigit (small : high < bound) :
    readDigits bound high cs = .error .invalidDigit ↔
      ∃ digits rest, cs = digits ++ rest ∧ (∀ c ∈ digits, isDigit c = true) ∧
        valueFrom high digits < bound ∧ ∃ c ∈ rest.head?, isDigit c = false := by
  induction cs generalizing high with
  | nil => simp [readDigits]
  | cons c cs ih =>
    rw [splits_cons]
    simp only [List.forall_mem_cons]
    cases known : digitValue? c with
    | none => simp [readDigits, known, isDigit_of_no_value known, valueFrom, small]
    | some d =>
      simp only [readDigits_cons known, valueFrom_cons known, isDigit_of_value known]
      by_cases fits : high * 10 + d < bound
      · simp [if_pos fits, ih fits, isDigit_of_value known]
      · rw [if_neg fits]
        refine iff_of_false (by simp) ?_
        rintro (⟨-, -, c, first, bad⟩ | ⟨digits, rest, -, -, below, -⟩)
        · obtain rfl := Option.some.inj first
          rw [isDigit_of_value known] at bad
          cases bad
        · exact fits (Nat.lt_of_le_of_lt (le_valueFrom _ digits) below)

theorem unsigned_digits (all : ∀ c ∈ digits, isDigit c = true) : unsigned digits = digits := by
  rw [unsigned]
  intro rest signed
  exact ne_plus_of_isDigit (all '+' (by simp [signed])) rfl

/-- Behind its sign a numeral is read digit by digit. -/
theorem read_of_unsigned (bound : Nat) (filled : cs ≠ []) (accompanied : cs ≠ ['+']) :
    read bound cs = readDigits bound 0 (unsigned cs) := by
  simp only [read]
  split
  · exact absurd rfl filled
  · exact absurd rfl accompanied
  · rfl
  · rename_i unmarked
    rw [unsigned]
    exact fun rest signed => unmarked rest signed

theorem read_eq_empty : read bound cs = .error .empty ↔ cs = [] := by
  constructor
  · intro refused
    by_contra filled
    by_cases lone : cs = ['+']
    · simp [lone, read] at refused
    · rw [read_of_unsigned bound filled lone] at refused
      exact readDigits_ne_empty bound 0 _ refused
  · rintro rfl
    rfl

theorem read_eq_overflow (positive : 0 < bound) :
    read bound cs = .error .overflow ↔ Overflows bound cs := by
  have nothing : ∀ {cs : List Char}, unsigned cs = [] → ¬ Overflows bound cs := by
    rintro cs empty ⟨digits, rest, split, -, large⟩
    rw [empty] at split
    obtain ⟨rfl, rfl⟩ := List.append_eq_nil_iff.mp split.symm
    exact absurd large (Nat.not_le.mpr positive)
  by_cases filled : cs = []
  · rw [filled]
    exact iff_of_false (by simp [read]) (nothing rfl)
  by_cases lone : cs = ['+']
  · rw [lone]
    exact iff_of_false (by simp [read]) (nothing rfl)
  rw [read_of_unsigned bound filled lone]
  exact readDigits_eq_overflow positive

theorem read_eq_invalidDigit (positive : 0 < bound) :
    read bound cs = .error .invalidDigit ↔ Garbled bound cs := by
  by_cases filled : cs = []
  · rw [filled]
    refine iff_of_false (by simp [read]) ?_
    rintro (lone | ⟨digits, rest, split, -, -, c, first, -⟩)
    · cases lone
    · obtain ⟨-, rfl⟩ := List.append_eq_nil_iff.mp split.symm
      cases first
  by_cases lone : cs = ['+']
  · rw [lone]
    exact iff_of_true rfl (.inl rfl)
  rw [read_of_unsigned bound filled lone, readDigits_eq_invalidDigit positive]
  exact (or_iff_right lone).symm

/-- What is no numeral, not too large and not empty is garbled. -/
theorem garbled_iff (positive : 0 < bound) :
    Garbled bound cs ↔
      cs ≠ [] ∧ ¬ Overflows bound cs ∧ ∀ n, ¬ Denotes bound cs n := by
  rw [← read_eq_invalidDigit positive, ← read_eq_overflow positive, ne_eq, ← read_eq_empty]
  simp only [← read_eq_ok]
  cases read bound cs with
  | ok n => simp
  | error fault => cases fault <;> simp

theorem digit_of_value (known : digitValue? c = some d) : d < 10 ∧ digit d = c := by
  rw [digitValue?] at known
  split at known
  · rename_i inside
    obtain rfl := Option.some.inj known
    have zero : '0'.toNat = 48 := rfl
    have nine : '9'.toNat = 57 := rfl
    refine ⟨by omega, ?_⟩
    rw [digit, Nat.add_sub_cancel' inside.1, Char.ofNat_toNat]
  · cases known

theorem value_dropZeros (digits : List Char) :
    value (digits.dropWhile (· = '0')) = value digits := by
  induction digits with
  | nil => rfl
  | cons c digits ih =>
    by_cases zero : c = '0'
    · rw [List.dropWhile_cons_of_pos (by simpa using zero), ih, zero]
      rfl
    · rw [List.dropWhile_cons_of_neg (by simpa using zero)]

/-- Digits denote the number that is written with them, if no zero stands in front. -/
theorem chars_value (all : ∀ c ∈ digits, isDigit c = true) (filled : digits ≠ [])
    (unpadded : digits.head? ≠ some '0') : chars (value digits) = digits := by
  induction digits using List.reverseRecOn with
  | nil => exact absurd rfl filled
  | append_singleton higher c ih =>
    obtain ⟨d, known⟩ := Option.isSome_iff_exists.mp (all c (by simp))
    obtain ⟨small, written⟩ := digit_of_value known
    have appended : value (higher ++ [c]) = value higher * 10 + d := by
      simp [value, valueFrom, List.foldl_append, known]
    rw [appended]
    by_cases alone : higher = []
    · rw [alone, chars_of_lt (by simpa [value, valueFrom] using small)]
      simpa [value, valueFrom] using written
    · rw [List.head?_append_of_ne_nil _ alone] at unpadded
      have again := ih (fun digit member => all digit (by simp [member])) alone unpadded
      have positive : 0 < value higher := by
        rw [Nat.pos_iff_ne_zero]
        intro zero
        rw [zero] at again
        exact unpadded (by rw [← again]; rfl)
      have tens : (value higher * 10 + d) / 10 = value higher := by omega
      have units : (value higher * 10 + d) % 10 = d := by omega
      rw [chars_of_ge (by omega), tens, units, again, written]

theorem chars_value_significant (all : ∀ c ∈ digits, isDigit c = true) :
    chars (value digits) = significant digits := by
  rw [← value_dropZeros, significant]
  cases rest : digits.dropWhile (· = '0') with
  | nil => rfl
  | cons c further =>
    show chars (value (c :: further)) = c :: further
    rw [← rest]
    apply chars_value
    · exact fun digit member => all digit (List.dropWhile_subset _ member)
    · simp [rest]
    · have nonzero := List.head?_dropWhile_not (· = '0') digits
      rw [rest] at nonzero ⊢
      simpa using nonzero

/-- A number is written as it was read, without sign and leading zeros. -/
theorem chars_of_denotes (denotes : Denotes bound cs n) :
    chars n = significant (unsigned cs) := by
  obtain ⟨digits, spelled, -, all, rfl, -⟩ := denotes
  have bare : unsigned cs = digits := by
    rcases spelled with rfl | rfl
    · exact unsigned_digits all
    · rfl
  rw [bare]
  exact chars_value_significant all

/-- Words are read from their numerals, and each other text is refused for the first fault that it
has. -/
structure ReadsNumerals (reads : String → UInt64 → Prop) (refuses : String → Fault → Prop) :
    Prop where
  number : ∀ text n, reads text n ↔ Denotes UInt64.size text.toList n.toNat
  empty : ∀ text, refuses text .empty ↔ text = ""
  overflow : ∀ text, refuses text .overflow ↔ Overflows UInt64.size text.toList
  invalidDigit : ∀ text, refuses text .invalidDigit ↔ Garbled UInt64.size text.toList
  otherwise : ∀ text, refuses text .invalidDigit ↔
    text ≠ "" ∧ ¬ Overflows UInt64.size text.toList ∧
      ∀ n, ¬ Denotes UInt64.size text.toList n

theorem readWord_eq_error {text : String} {fault : Fault} :
    readWord text = .error fault ↔ read UInt64.size text.toList = .error fault := by
  rw [readWord]
  cases read UInt64.size text.toList <;> simp [Except.map]

theorem readsNumerals :
    ReadsNumerals (fun text n => readWord text = .ok n)
      (fun text fault => readWord text = .error fault) where
  number _ _ := readWord_eq_ok
  empty text := by
    rw [readWord_eq_error, read_eq_empty]
    exact String.toList_eq_nil_iff
  overflow text := by
    rw [readWord_eq_error]
    exact read_eq_overflow (by decide)
  invalidDigit text := by
    rw [readWord_eq_error]
    exact read_eq_invalidDigit (by decide)
  otherwise text := by
    rw [readWord_eq_error, read_eq_invalidDigit (by decide), garbled_iff (by decide), ne_eq,
      String.toList_eq_nil_iff]

theorem ReadsNumerals.congr {reads others : String → UInt64 → Prop}
    {refuses rejects : String → Fault → Prop} (exact : ReadsNumerals reads refuses)
    (same : ∀ text n, others text n ↔ reads text n)
    (alike : ∀ text fault, rejects text fault ↔ refuses text fault) :
    ReadsNumerals others rejects := by
  have taken : others = reads := funext₂ fun text n => propext (same text n)
  have refused : rejects = refuses := funext₂ fun text fault => propext (alike text fault)
  rw [taken, refused]
  exact exact

end Decimal

namespace SessionId

theorem read_eq_ok {text : String} {id : SessionId} :
    read text = .ok id ↔ Decimal.readWord text = .ok id.number := by
  rw [read]
  obtain ⟨number⟩ := id
  cases Decimal.readWord text <;> simp [Except.map]

theorem read_eq_error {text : String} {fault : Decimal.Fault} :
    read text = .error fault ↔ Decimal.readWord text = .error fault := by
  rw [read]
  cases Decimal.readWord text <;> simp [Except.map]

end SessionId

namespace Settings

variable {settings changed : Settings} {key : SettingKey} {text : String}

/-- One number has been replaced. -/
def Renumbered (settings : Settings) (key : SettingKey) (n : UInt64) (changed : Settings) : Prop :=
  changed.get = Function.update settings.get key (idText n)

theorem Renumbered.number_eq {m n : UInt64} (first : settings.Renumbered key m changed)
    (second : settings.Renumbered key n changed) : m = n := by
  have shown : Function.update settings.get key (idText m) key =
      Function.update settings.get key (idText n) key :=
    congrFun (first.symm.trans second) key
  rw [Function.update_self, Function.update_self] at shown
  exact idText_injective shown

theorem set_of_word (settings : Settings) (number : ¬ key.IsText) {n : UInt64}
    (read : Decimal.readWord text = .ok n) :
    ∃ changed, settings.set key text = .ok changed ∧ settings.Renumbered key n changed := by
  have takes : key.Takes text := by
    have denotes : ∃ n, Decimal.Denotes UInt64.size text.toList n :=
      ⟨_, Decimal.readWord_eq_ok.mp read⟩
    cases key with
    | writeDelay | readDelay | bookId | probeDelay | settleDelay => exact denotes
    | filter | title | newTitle | rivalTitle => simp [SettingKey.IsText] at number
  obtain ⟨changed, done⟩ := set_succeeds.mpr takes
  obtain ⟨m, again, shown⟩ := get_set_number done number
  obtain rfl : n = m := Except.ok.inj (read.symm.trans again)
  refine ⟨changed, done, ?_⟩
  funext other
  by_cases same : other = key
  · rw [same, Function.update_self, shown]
  · rw [Function.update_of_ne same, get_set_other done same]

theorem set_of_fault (settings : Settings) (number : ¬ key.IsText) {fault : Decimal.Fault}
    (read : Decimal.readWord text = .error fault) :
    settings.set key text = .error (.invalidNumber key text fault) := by
  cases key with
  | writeDelay | readDelay | bookId | probeDelay | settleDelay =>
    simp only [set, readNumber, read]
    rfl
  | filter | title | newTitle | rivalTitle => simp [SettingKey.IsText] at number

theorem setNamed_reads (settings : Settings) (number : ¬ key.IsText) (text : String) (n : UInt64) :
    (∃ changed, settings.setNamed key.name text = .ok changed ∧
      settings.Renumbered key n changed) ↔ Decimal.readWord text = .ok n := by
  rw [setNamed_name]
  constructor
  · rintro ⟨changed, done, renumbered⟩
    cases read : Decimal.readWord text with
    | ok m =>
      obtain ⟨others, again, alike⟩ := settings.set_of_word number read
      obtain rfl : others = changed := Except.ok.inj (again.symm.trans done)
      rw [alike.number_eq renumbered]
    | error fault =>
      rw [settings.set_of_fault number read] at done
      cases done
  · exact settings.set_of_word number

theorem setNamed_refuses (settings : Settings) (number : ¬ key.IsText) (text : String)
    (fault : Decimal.Fault) :
    settings.setNamed key.name text = .error (.invalidNumber key text fault) ↔
      Decimal.readWord text = .error fault := by
  rw [setNamed_name]
  constructor
  · intro refused
    cases read : Decimal.readWord text with
    | ok n =>
      obtain ⟨changed, done, -⟩ := settings.set_of_word number read
      rw [done] at refused
      cases refused
    | error other =>
      rw [settings.set_of_fault number read] at refused
      cases refused
      rfl
  · exact settings.set_of_fault number

end Settings

namespace Decimal

/-- A session's number and the numbers among the settings are read from the same texts, a text that
is refused for the first fault in it. What a session's number is written as is read as this number,
no two numbers are written alike, and a number that was read is written as it was given, without a
sign and without leading zeros. -/
theorem numerals_are_read_exactly :
    ReadsNumerals (fun text n => SessionId.read text = .ok ⟨n⟩)
      (fun text fault => SessionId.read text = .error fault) ∧
    (∀ (settings : Settings) (key : SettingKey), ¬ key.IsText →
      ReadsNumerals
        (fun text n => ∃ changed, settings.setNamed key.name text = .ok changed ∧
          settings.Renumbered key n changed)
        (fun text fault =>
          settings.setNamed key.name text = .error (.invalidNumber key text fault))) ∧
    (∀ id : SessionId, SessionId.read id.text = .ok id) ∧
    Function.Injective SessionId.text ∧
    ∀ (text : String) (id : SessionId), SessionId.read text = .ok id →
      id.text = String.ofList (significant (unsigned text.toList)) := by
  refine ⟨?_, ?_, ?_, ?_, ?_⟩
  · exact readsNumerals.congr (fun _ _ => SessionId.read_eq_ok) fun _ _ => SessionId.read_eq_error
  · intro settings key number
    exact readsNumerals.congr (settings.setNamed_reads number) (settings.setNamed_refuses number)
  · exact fun id => SessionId.read_eq_ok.mpr (readWord_eq_ok.mpr (denotes_text id.number))
  · rintro ⟨m⟩ ⟨n⟩ same
    exact congrArg SessionId.mk (idText_injective same)
  · intro text id read
    have denotes := readWord_eq_ok.mp (SessionId.read_eq_ok.mp read)
    rw [SessionId.text, idText, Decimal.text, chars_of_denotes denotes]

/-- The greatest number behind a sign and zeros, and a hyphen behind digits that are too many or just
not yet. -/
theorem numerals_are_read_exactly_of_padded :
    ¬ SettingKey.bookId.IsText ∧
      SessionId.read "+0018446744073709551615" = .ok ⟨18446744073709551615⟩ ∧
      SessionId.text ⟨18446744073709551615⟩ = "18446744073709551615" ∧
      SessionId.read "18446744073709551616-" = .error .overflow ∧
      Settings.standard.setNamed SettingKey.bookId.name "18446744073709551615-" =
        .error (.invalidNumber .bookId "18446744073709551615-" .invalidDigit) := by
  obtain ⟨session, settings, -, -, written⟩ := numerals_are_read_exactly
  have number : ¬ SettingKey.bookId.IsText := by simp [SettingKey.IsText]
  have read : SessionId.read "+0018446744073709551615" = .ok ⟨18446744073709551615⟩ := by rfl
  refine ⟨number, read, (written _ _ read).trans (by rfl), ?_, ?_⟩
  · refine (session.overflow _).mpr
      ⟨chars 18446744073709551616, ['-'], by rfl, fun _ => isDigit_of_mem_chars, ?_⟩
    exact Nat.le_of_eq (value_chars 18446744073709551616).symm
  · refine ((settings .standard .bookId number).invalidDigit _).mpr (.inr
      ⟨chars 18446744073709551615, ['-'], by rfl, fun _ => isDigit_of_mem_chars, ?_, '-', rfl, rfl⟩)
    rw [value_chars]
    decide

end Decimal

end RecordLocks
