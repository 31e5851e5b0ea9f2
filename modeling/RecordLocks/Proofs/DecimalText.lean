import RecordLocks.Decimal
namespace RecordLocks.Decimal

theorem digitValue?_digit {n : Nat} (small : n < 10) : digitValue? (digit n) = some n := by
  have all : ∀ n < 10, digitValue? (digit n) = some n := by decide
  exact all n small

theorem isDigit_digit {n : Nat} (small : n < 10) : isDigit (digit n) = true := by
  rw [isDigit, digitValue?_digit small]
  rfl

theorem chars_ne_nil (n : Nat) : chars n ≠ [] := by
  rcases Nat.lt_or_ge n 10 with small | large
  · simp [chars_of_lt small]
  · simp [chars_of_ge large]

/-- Induction on a number by its digits, from the highest on. -/
theorem digit_induction {holds : Nat → Prop} (single : ∀ n < 10, holds n)
    (further : ∀ n, 10 ≤ n → holds (n / 10) → holds n) (n : Nat) : holds n := by
  induction n using Nat.strongRecOn with
  | ind n ih =>
    rcases Nat.lt_or_ge n 10 with small | large
    · exact single n small
    · exact further n large (ih (n / 10) (by omega))

theorem isDigit_of_mem_chars {n : Nat} {c : Char} (member : c ∈ chars n) : isDigit c = true := by
  induction n using digit_induction with
  | single n small =>
    rw [chars_of_lt small, List.mem_singleton] at member
    rw [member]
    exact isDigit_digit small
  | further n large ih =>
    rw [chars_of_ge large, List.mem_append, List.mem_singleton] at member
    rcases member with higher | last
    · exact ih higher
    · rw [last]
      exact isDigit_digit (by omega)

/-- The digits of a number denote it. -/
theorem value_chars (n : Nat) : value (chars n) = n := by
  induction n using digit_induction with
  | single n small => simp [chars_of_lt small, value, valueFrom, digitValue?_digit small]
  | further n large ih =>
    have last : n % 10 < 10 := by omega
    have appended : value (chars (n / 10) ++ [digit (n % 10)]) =
        value (chars (n / 10)) * 10 + n % 10 := by
      simp [value, valueFrom, List.foldl_append, digitValue?_digit last]
    rw [chars_of_ge large, appended, ih]
    omega

/-- Only zero is written with a zero in front. -/
theorem head_chars_ne_zero {n : Nat} (positive : 0 < n) : (chars n).head? ≠ some '0' := by
  induction n using digit_induction with
  | single n small =>
    have nonzero : ∀ n < 10, 0 < n → digit n ≠ '0' := by decide
    simpa [chars_of_lt small] using nonzero n small positive
  | further n large ih =>
    obtain ⟨first, rest, higher⟩ := List.exists_cons_of_ne_nil (chars_ne_nil (n / 10))
    have nonzero := ih (by omega)
    rw [higher] at nonzero
    simpa [chars_of_ge large, higher] using nonzero

/-- A numeral below the bound: digits, at least one of them, with an optional plus sign. -/
def Denotes (bound : Nat) (cs : List Char) (n : Nat) : Prop :=
  ∃ digits, (cs = digits ∨ cs = '+' :: digits) ∧ digits ≠ [] ∧ (∀ c ∈ digits, isDigit c = true) ∧
    value digits = n ∧ n < bound

theorem le_valueFrom (high : Nat) (digits : List Char) : high ≤ valueFrom high digits := by
  induction digits generalizing high with
  | nil => exact Nat.le_refl high
  | cons c rest ih =>
    have further : high * 10 + (digitValue? c).getD 0 ≤
        valueFrom (high * 10 + (digitValue? c).getD 0) rest := ih _
    have step : valueFrom high (c :: rest) =
        valueFrom (high * 10 + (digitValue? c).getD 0) rest := rfl
    omega

/-- More digits only make a number greater, so that none of the numbers on the way is too large if
the last one is not. -/
theorem readDigits_eq_ok {bound high n : Nat} (small : high < bound) (cs : List Char) :
    readDigits bound high cs = .ok n ↔
      (∀ c ∈ cs, isDigit c = true) ∧ valueFrom high cs = n ∧ n < bound := by
  induction cs generalizing high with
  | nil =>
    simp only [readDigits, valueFrom, List.foldl_nil, List.not_mem_nil, Except.ok.injEq]
    constructor
    · rintro rfl
      exact ⟨by simp, rfl, small⟩
    · exact fun denotes => denotes.2.1
  | cons c rest ih =>
    cases digit : digitValue? c with
    | none =>
      have bad : isDigit c = false := by simp [isDigit, digit]
      simp [readDigits, digit, bad]
    | some d =>
      have good : isDigit c = true := by simp [isDigit, digit]
      have step : valueFrom high (c :: rest) = valueFrom (high * 10 + d) rest := by
        simp [valueFrom, digit]
      rw [readDigits, digit, step]
      simp only [List.forall_mem_cons, good, true_and]
      by_cases fits : high * 10 + d < bound
      · rw [if_pos fits]
        exact ih fits
      · have large := le_valueFrom (high * 10 + d) rest
        rw [if_neg fits]
        constructor
        · intro read
          cases read
        · intro denotes
          omega

theorem ne_of_isDigit {c mark : Char} (digit : isDigit c = true) (other : isDigit mark = false) :
    c ≠ mark := by
  rintro rfl
  rw [other] at digit
  cases digit

theorem ne_plus_of_isDigit {c : Char} (digit : isDigit c = true) : c ≠ '+' :=
  ne_of_isDigit digit rfl

theorem read_eq_ok {bound n : Nat} (cs : List Char) :
    read bound cs = .ok n ↔ Denotes bound cs n := by
  have digits_iff : ∀ digits : List Char, digits ≠ [] →
      (readDigits bound 0 digits = .ok n ↔
        (∀ c ∈ digits, isDigit c = true) ∧ value digits = n ∧ n < bound) := by
    intro digits some_digit
    rcases Nat.eq_zero_or_pos bound with rfl | positive
    · obtain ⟨c, rest, rfl⟩ := List.exists_cons_of_ne_nil some_digit
      cases digit : digitValue? c <;> simp [readDigits, digit]
    · exact readDigits_eq_ok positive digits
  simp only [read]
  split
  · simp [Denotes]
  · constructor
    · intro read
      cases read
    · rintro ⟨digits, rfl | signed, filled, all, -⟩
      · exact absurd rfl (ne_plus_of_isDigit (all '+' List.mem_cons_self))
      · cases signed
        exact absurd rfl filled
  · rename_i digits unsigned
    have filled : digits ≠ [] := by
      rintro rfl
      exact unsigned rfl
    rw [digits_iff digits filled]
    constructor
    · intro denotes
      exact ⟨digits, .inr rfl, filled, denotes⟩
    · rintro ⟨others, rfl | signed, -, all, denotes⟩
      · exact absurd rfl (ne_plus_of_isDigit (all '+' List.mem_cons_self))
      · cases signed
        exact ⟨all, denotes⟩
  · rename_i filled _ unsigned
    rw [digits_iff cs filled]
    constructor
    · intro denotes
      exact ⟨cs, .inl rfl, filled, denotes⟩
    · rintro ⟨digits, rfl | rfl, -, denotes⟩
      · exact denotes
      · exact absurd rfl (unsigned digits)

theorem readWord_eq_ok {text : String} {n : UInt64} :
    readWord text = .ok n ↔ Denotes UInt64.size text.toList n.toNat := by
  rw [readWord, ← read_eq_ok]
  cases read : Decimal.read UInt64.size text.toList with
  | error fault => simp [Except.map]
  | ok number =>
    obtain ⟨-, -, -, -, -, small⟩ := (read_eq_ok _).mp read
    simp only [Except.map, Except.ok.injEq]
    constructor
    · rintro rfl
      exact (UInt64.toNat_ofNat_of_lt small).symm
    · rintro rfl
      exact UInt64.ofNat_toNat

/-- A word is read from the digits that denote it. -/
theorem denotes_text (n : UInt64) : Denotes UInt64.size (text n.toNat).toList n.toNat := by
  refine ⟨chars n.toNat, .inl String.toList_ofList, chars_ne_nil n.toNat, ?_,
    value_chars n.toNat, n.toNat_lt⟩
  intro c member
  exact isDigit_of_mem_chars member

end RecordLocks.Decimal
