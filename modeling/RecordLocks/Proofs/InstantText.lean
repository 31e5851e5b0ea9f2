import Mathlib.Algebra.Ring.Nat
import RecordLocks.Instant
import RecordLocks.Proofs.DecimalText
namespace RecordLocks

namespace Decimal

theorem isDigit_of_mem_padded {width n : Nat} {c : Char} (member : c ∈ padded width n) :
    isDigit c = true := by
  rcases List.mem_append.mp member with zero | digit
  · rw [List.eq_of_mem_replicate zero]
    rfl
  · exact isDigit_of_mem_chars digit

theorem padded_ne_nil (width n : Nat) : padded width n ≠ [] := by
  simp [padded, chars_ne_nil]

/-- Zeros in front do not count. -/
theorem value_padded (width n : Nat) : value (padded width n) = n := by
  have zeros : ∀ count, valueFrom 0 (List.replicate count '0') = 0 := by
    intro count
    induction count with
    | zero => rfl
    | succ count ih => exact ih
  have split : value (padded width n) =
      valueFrom (valueFrom 0 (List.replicate (width - (chars n).length) '0')) (chars n) := by
    simp [value, valueFrom, padded, List.foldl_append]
  rw [split, zeros]
  exact value_chars n

theorem length_chars_le {n : Nat} (more : Nat) (small : n < 10 ^ (more + 1)) :
    (chars n).length ≤ more + 1 := by
  induction n using digit_induction generalizing more with
  | single n single => simp [chars_of_lt single]
  | further n large ih =>
    cases more with
    | zero => omega
    | succ more =>
      have shorter := ih more (by rw [Nat.pow_succ] at small; omega)
      rw [chars_of_ge large, List.length_append]
      exact Nat.add_le_add_right shorter 1

theorem length_padded {n : Nat} (more : Nat) (small : n < 10 ^ (more + 1)) :
    (padded (more + 1) n).length = more + 1 := by
  have short := length_chars_le more small
  simp only [padded, List.length_append, List.length_replicate]
  omega

end Decimal

namespace Instant

open Decimal (padded isDigit_of_mem_padded padded_ne_nil value_padded length_padded)

theorem not_blank_of_digit {c : Char} (digit : isDigit c = true) : Text.isBlank c = false := by
  have range : '0'.toNat ≤ c.toNat ∧ c.toNat ≤ '9'.toNat := by
    simp only [isDigit, Decimal.isDigit, Decimal.digitValue?] at digit
    split at digit
    · assumption
    · cases digit
  have zero : '0'.toNat = 48 := rfl
  have nine : '9'.toNat = 57 := rfl
  simp only [Text.isBlank, Text.blanks, List.any_cons, List.any_nil, Bool.or_eq_false_iff,
    Bool.and_eq_false_iff, decide_eq_false_iff_not, and_true]
  omega

theorem trimStart_of_visible {c : Char} (visible : Text.isBlank c = false) (rest : List Char) :
    Text.trimStart (c :: rest) = c :: rest := by
  simp [Text.trimStart, visible]

theorem trimStart_padded (width n : Nat) (rest : List Char) :
    Text.trimStart (padded width n ++ rest) = padded width n ++ rest := by
  obtain ⟨c, digits, written⟩ := List.exists_cons_of_ne_nil (padded_ne_nil width n)
  have member : c ∈ padded width n := by simp [written]
  have digit := isDigit_of_mem_padded member
  rw [written, List.cons_append, trimStart_of_visible (not_blank_of_digit digit)]

/-- Digits are read up to the width, or up to another character. -/
theorem readNumber_padded {width places n : Nat} {rest : List Char}
    (fits : (padded places n).length ≤ width)
    (ends : (padded places n).length = width ∨ ∀ c ∈ rest.head?, isDigit c = false) :
    readNumber width (padded places n ++ rest) = some (n, rest) := by
  have digits : ∀ c ∈ padded places n, isDigit c = true := fun c => isDigit_of_mem_padded
  have stops : (rest.take (width - (padded places n).length)).takeWhile isDigit = [] := by
    rcases ends with exact | other
    · simp [exact]
    · cases rest with
      | nil => simp
      | cons c rest =>
        cases width - (padded places n).length with
        | zero => rfl
        | succ more => simp [other c rfl]
  have taken : ((padded places n ++ rest).take width).takeWhile isDigit = padded places n := by
    rw [List.take_append, List.take_of_length_le fits, List.takeWhile_append_of_pos digits, stops,
      List.append_nil]
  simp [readNumber, taken, padded_ne_nil, value_padded]

theorem readPart_padded {n : Nat} (small : n < 100) (rest : List Char) :
    readPart (padded 2 n ++ rest) = some (n, rest) := by
  have length := length_padded 1 small
  rw [readPart, trimStart_padded]
  exact readNumber_padded (Nat.le_of_eq length) (.inl length)

theorem readYear_yearChars (year : Int) (rest : List Char) :
    readYear (yearChars year ++ '-' :: rest) = some (year, '-' :: rest) := by
  have signed : readNumber (padded 4 year.natAbs ++ '-' :: rest).length
      (padded 4 year.natAbs ++ '-' :: rest) = some (year.natAbs, '-' :: rest) :=
    readNumber_padded (by simp) (.inr (by simp [isDigit]; rfl))
  rw [yearChars]
  split
  · rename_i common
    have length := length_padded 3 (show year.natAbs < 10 ^ (3 + 1) by omega)
    have number : readNumber 4 (padded 4 year.natAbs ++ '-' :: rest) =
        some (year.natAbs, '-' :: rest) := readNumber_padded (Nat.le_of_eq length) (.inl length)
    obtain ⟨c, digits, written⟩ := List.exists_cons_of_ne_nil (padded_ne_nil 4 year.natAbs)
    have member : c ∈ padded 4 year.natAbs := by simp [written]
    have digit := isDigit_of_mem_padded member
    have noSign : c ≠ '-' ∧ c ≠ '+' :=
      ⟨Decimal.ne_of_isDigit digit rfl, Decimal.ne_of_isDigit digit rfl⟩
    rw [readYear, trimStart_padded]
    rw [written, List.cons_append] at number ⊢
    simp [noSign, number]
    omega
  · rename_i uncommon
    by_cases negative : year < 0
    · have size : -(year.natAbs : Int) = year := by omega
      rw [if_pos negative, List.cons_append, readYear, trimStart_of_visible rfl]
      simp only [signed, Option.map_some, size]
    · have size : (year.natAbs : Int) = year := by omega
      rw [if_neg negative, List.cons_append, readYear, trimStart_of_visible rfl]
      simp only [signed, Option.map_some, size]

theorem readMark_mark {mark : Char} (visible : Text.isBlank mark = false) (rest : List Char) :
    readMark mark (mark :: rest) = some rest := by
  simp [readMark, trimStart_of_visible visible]

theorem readDate_chars (date : Date) (rest : List Char) :
    readDate (yearChars date.year ++ '-' :: (padded 2 date.month ++
      '-' :: (padded 2 date.day ++ rest))) = some (date, rest) := by
  obtain ⟨year, month, day, isDate⟩ := date
  have ⟨_, _, _, lastMonth, _, lastDay⟩ := isDate
  have longest : daysInMonth year month ≤ 31 := by
    simp only [daysInMonth]
    split
    · split <;> omega
    · split <;> omega
  have found : Date.ofParts? year month day = some ⟨year, month, day, isDate⟩ := dif_pos isDate
  simp [readDate, readYear_yearChars, readMark_mark (show Text.isBlank '-' = false from rfl),
    readPart_padded (show month < 100 by omega), readPart_padded (show day < 100 by omega), found]

theorem readNanos_fractionChars {nano : Nat} (small : nano < secondNanos) {rest : List Char}
    (ends : ∀ c ∈ rest.head?, isDigit c = false ∧ c ≠ '.') :
    readNanos (fractionChars nano ++ rest) = some (nano, rest) := by
  have stops : rest.dropWhile isDigit = rest := by
    cases rest with
    | nil => rfl
    | cons c rest => simp [(ends c rfl).1]
  have places : ∀ more value, value < 10 ^ (more + 1) → more < 9 →
      readNanos ('.' :: (padded (more + 1) value ++ rest)) =
        some (value * 10 ^ (8 - more), rest) := by
    intro more value fits few
    have length := length_padded more fits
    have number : readNumber 9 (padded (more + 1) value ++ rest) = some (value, rest) :=
      readNumber_padded (by omega) (.inr fun c first => (ends c first).1)
    have left : 9 - ((padded (more + 1) value ++ rest).length - rest.length) = 8 - more := by
      rw [List.length_append, length]
      omega
    simp only [readNanos, number, left, stops, Option.bind_eq_bind, Option.bind_some]
    rfl
  simp only [secondNanos] at small
  rw [fractionChars]
  split
  · rename_i zero
    subst zero
    cases rest with
    | nil => rfl
    | cons c rest => simp [readNanos, (ends c rfl).2]
  split
  · exact (places 2 (nano / 1000000) (by omega) (by omega)).trans (by congr 2; omega)
  split
  · exact (places 5 (nano / 1000) (by omega) (by omega)).trans (by congr 2; omega)
  · exact (places 8 nano (by omega) (by omega)).trans (by congr 2; omega)

theorem readTime_chars {second nano : Nat} (isTime : IsTime second nano) {rest : List Char}
    (ends : ∀ c ∈ rest.head?, isDigit c = false ∧ c ≠ '.') :
    readTime (padded 2 (second / 3600) ++ ':' :: (padded 2 (second / 60 % 60) ++
      ':' :: (padded 2 (second % 60 + nano / secondNanos) ++
        (fractionChars (nano % secondNanos) ++ rest)))) = some ((second, nano), rest) := by
  have part : nano % secondNanos < secondNanos := Nat.mod_lt nano (by decide)
  have fraction := readNanos_fractionChars part ends
  have colon : ∀ cs, readMark ':' (':' :: cs) = some cs := readMark_mark rfl
  simp only [IsTime, daySeconds, secondNanos] at isTime
  have hour := readPart_padded (show second / 3600 < 100 by omega)
  have minute := readPart_padded (show second / 60 % 60 < 100 by omega)
  have shown := readPart_padded (n := second % 60 + nano / secondNanos)
    (by simp only [secondNanos]; omega)
  simp only [readTime, hour, minute, shown, colon, fraction, Option.bind_eq_bind, Option.bind_some]
  have inRange : ¬ (23 < second / 3600 ∨ 59 < second / 60 % 60 ∨
      60 < second % 60 + nano / secondNanos) := by
    simp only [secondNanos]
    omega
  rw [if_neg inRange]
  split
  · rename_i leap
    simp only [secondNanos] at leap
    have clock : (second / 3600 * 60 + second / 60 % 60) * 60 + 59 = second := by omega
    have late : secondNanos + nano % secondNanos = nano := by simp only [secondNanos]; omega
    rw [clock, late]
    rfl
  · rename_i common
    simp only [secondNanos] at common
    have clock : (second / 3600 * 60 + second / 60 % 60) * 60 + (second % 60 + nano / secondNanos) =
        second := by simp only [secondNanos]; omega
    have early : nano % secondNanos = nano := by simp only [secondNanos]; omega
    rw [clock, early]
    rfl

/-- An instant is read back from its text. -/
theorem read_text (instant : Instant) : read instant.text = some instant := by
  obtain ⟨date, second, nano, isTime⟩ := instant
  have dateText := readDate_chars date
  have ends : ∀ c ∈ ['Z'].head?, isDigit c = false ∧ c ≠ '.' := by simp [isDigit]; rfl
  have timeText := readTime_chars isTime ends
  have written : (text ⟨date, second, nano, isTime⟩).toList =
      yearChars date.year ++ '-' :: (padded 2 date.month ++ '-' :: (padded 2 date.day ++
        'T' :: (padded 2 (second / 3600) ++ ':' :: (padded 2 (second / 60 % 60) ++
          ':' :: (padded 2 (second % 60 + nano / secondNanos) ++
            (fractionChars (nano % secondNanos) ++ ['Z'])))))) := by
    simp [text, chars]
  have offset : readOffset (Text.trimStart ['Z']) = some (0, []) := rfl
  have there : ofLocal? date second nano 0 = some ⟨date, second, nano, isTime⟩ := by
    have within : (second : Int) / daySeconds = 0 := by
      simp only [IsTime, daySeconds] at isTime ⊢
      omega
    have same : ((second : Int) % daySeconds).toNat = second := by
      simp only [IsTime, daySeconds] at isTime ⊢
      omega
    simp [ofLocal?, within, same, Date.shift?, ofParts?, isTime]
  simp only [read, written, dateText, readSeparator, timeText, offset, Option.bind_eq_bind,
    Option.bind_some]
  exact there

end Instant

end RecordLocks
