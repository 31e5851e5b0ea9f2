import RecordLocks.Uuid
namespace RecordLocks

theorem Hexadecimal.digitValue?_digit {n : Nat} (small : n < 16) :
    digitValue? (digit n) = some n := by
  have all : ∀ n < 16, digitValue? (digit n) = some n := by decide
  exact all n small

namespace Uuid

/-- Five groups of digits are found again between their hyphens. -/
theorem withoutHyphens_groups {a b c d e : List Char} (first : a.length = 8)
    (second : b.length = 4) (third : c.length = 4) (fourth : d.length = 4)
    (fifth : e.length = 12) :
    withoutHyphens (a ++ '-' :: (b ++ '-' :: (c ++ '-' :: (d ++ '-' :: e)))) =
      some (a ++ (b ++ (c ++ (d ++ e)))) := by
  simp (disch := omega) [withoutHyphens, first, second, third, fourth, fifth, List.drop_append,
    List.drop_eq_nil_of_le, List.getElem?_append_right]
  exact ⟨rfl, rfl, rfl, rfl⟩

theorem ofHex?_digits (uuid : Uuid) :
    ofHex? (uuid.digits.map fun d => Hexadecimal.digit d.val) = some uuid := by
  obtain ⟨digits, length⟩ := uuid
  have read : (digits.map fun d => Hexadecimal.digit d.val).mapM
      (fun c => (Hexadecimal.digitValue? c).map (Fin.ofNat 16)) = some digits := by
    clear length
    induction digits with
    | nil => rfl
    | cons d digits ih => simp [Hexadecimal.digitValue?_digit d.isLt, ih]
  simp [ofHex?, read, ofDigits?, length]

theorem withoutHyphens_text (uuid : Uuid) :
    uuid.text.toList.length = 36 ∧ withoutHyphens uuid.text.toList =
      some (uuid.digits.map fun d => Hexadecimal.digit d.val) := by
  have length : (uuid.digits.map fun d => Hexadecimal.digit d.val).length = 32 := by
    simp [uuid.length_digits]
  generalize digits : (uuid.digits.map fun d => Hexadecimal.digit d.val) = hex at length
  have written : uuid.text.toList = hex.take 8 ++ '-' :: ((hex.drop 8).take 4 ++
      '-' :: ((hex.drop 12).take 4 ++ '-' :: ((hex.drop 16).take 4 ++ '-' :: hex.drop 20))) := by
    simp [text, chars, digits]
  have joined : ∀ start, (hex.drop start).take 4 ++ hex.drop (start + 4) = hex.drop start := by
    intro start
    rw [← List.drop_drop]
    exact List.take_append_drop 4 (hex.drop start)
  rw [written]
  constructor
  · simp [length]
  · rw [withoutHyphens_groups (by simp [length]) (by simp [length]) (by simp [length])
      (by simp [length]) (by simp [length]), joined, joined, joined, List.take_append_drop]

/-- An identifier is read back from its text. -/
theorem read_text (uuid : Uuid) : read uuid.text = some uuid := by
  obtain ⟨length, digits⟩ := uuid.withoutHyphens_text
  simp [read, length, ofHyphenated?, digits, ofHex?_digits]

end Uuid

end RecordLocks
