import RecordLocks.Toml.Quoted
namespace RecordLocks.Toml

theorem scalar?_upperDigit {n : Nat} (small : n < 128) :
    scalar? ['0', '0', Hexadecimal.upperDigit (n / 16), Hexadecimal.upperDigit (n % 16)] =
      some (Char.ofNat n) := by
  have all : ∀ n < 128,
      scalar? ['0', '0', Hexadecimal.upperDigit (n / 16), Hexadecimal.upperDigit (n % 16)] =
        some (Char.ofNat n) := by decide
  exact all n small

/-- A control character is written by its number. -/
theorem scalar?_of_control {c : Char} (control : isControl c = true) :
    scalar? ['0', '0', Hexadecimal.upperDigit (c.toNat / 16),
      Hexadecimal.upperDigit (c.toNat % 16)] = some c := by
  have small : c.toNat < 128 := by
    simp only [isControl, Bool.or_eq_true, Bool.and_eq_true, decide_eq_true_eq] at control
    omega
  rw [scalar?_upperDigit small, Char.ofNat_toNat]

theorem map_prepend (c : Char) (read : Option (List Char × List Char)) :
    (do return prepend c (← read)) = read.map (prepend c) := by
  cases read <;> rfl

/-- An escape that stands for a character. -/
inductive Escape (c : Char) : List Char → Prop
  | short (name : Char) (known : escape? name = some c) (named : name ≠ 'u' ∧ name ≠ 'U') :
    Escape c ['\\', name]
  | numbered (digits : scalar? ['0', '0', first, second] = some c) :
    Escape c ['\\', 'u', '0', '0', first, second]

/-- A character is escaped or stands for itself. -/
theorem escaped_cases (c : Char) :
    Escape c (escaped c) ∨ escaped c = [c] ∧ isControl c = false ∧ c ≠ '\\' := by
  rw [escaped]
  split
  · rename_i same
    exact .inl (same ▸ .short 'b' rfl (by decide))
  split
  · rename_i same
    exact .inl (same ▸ .short 't' rfl (by decide))
  split
  · rename_i same
    exact .inl (same ▸ .short 'f' rfl (by decide))
  split
  · rename_i same
    exact .inl (same ▸ .short 'r' rfl (by decide))
  split
  · rename_i same
    exact .inl (same ▸ .short '\\' rfl (by decide))
  split
  · rename_i control
    exact .inl (.numbered (scalar?_of_control control))
  · rename_i other control
    exact .inr ⟨rfl, by simpa using control, other⟩

theorem head_escaped {c : Char} (inside : c ≠ '"') : (escaped c).head? ≠ some '"' := by
  rcases escaped_cases c with escapes | ⟨itself, -, -⟩
  · generalize escaped c = escape at escapes
    cases escapes with
    | short name | numbered digits => simp
  · simpa [itself] using inside

theorem escaped_ne_nil (c : Char) : escaped c ≠ [] := by
  rcases escaped_cases c with escapes | ⟨itself, -, -⟩
  · generalize escaped c = escape at escapes
    cases escapes with
    | short name | numbered digits => simp
  · simp [itself]

theorem readBasic_escape {c : Char} {escape : List Char} (escapes : Escape c escape)
    (rest : List Char) : readBasic (escape ++ rest) = (readBasic rest).map (prepend c) := by
  rw [← map_prepend]
  cases escapes with
  | short name known named => simp [readBasic, known, named]
  | numbered digits => simp [readBasic, digits]

theorem readLong_escape {c : Char} {escape : List Char} (escapes : Escape c escape)
    (rest : List Char) :
    readLong .text (escape ++ rest) = (readLong .text rest).map (prepend c) := by
  rw [← map_prepend]
  cases escapes with
  | short name known named =>
    have printed : name ≠ '\n' ∧ isSpace name = false ∧ name ≠ '\r' := by
      refine ⟨?_, ?_, ?_⟩
      · rintro rfl
        cases known
      · rw [Bool.eq_false_iff]
        intro space
        rcases (by simpa [isSpace] using space : name = ' ' ∨ name = '\t') with rfl | rfl
        · cases known
        · cases known
      · rintro rfl
        cases known
    simp [readLong, known, named, printed]
  | numbered digits => simp [readLong, digits]

theorem readBasic_basicChar (c : Char) (rest : List Char) :
    readBasic (basicChar c ++ rest) = (readBasic rest).map (prepend c) := by
  rw [basicChar]
  split
  · rename_i same
    exact readBasic_escape (.short '"' (by rw [same]; rfl) (by decide)) rest
  split
  · rename_i same
    exact readBasic_escape (.short 'n' (by rw [same]; rfl) (by decide)) rest
  · rename_i inside online
    rcases escaped_cases c with escapes | ⟨itself, printable, unescaped⟩
    · exact readBasic_escape escapes rest
    · rw [itself]
      simp [readBasic, isPlain, printable, unescaped, online]

theorem basicChar_starts (c : Char) :
    ∃ first tail, basicChar c = first :: tail ∧ first ≠ '"' := by
  rw [basicChar]
  split
  · exact ⟨_, _, rfl, by decide⟩
  split
  · exact ⟨_, _, rfl, by decide⟩
  · rename_i inside online
    obtain ⟨first, tail, escape⟩ := List.exists_cons_of_ne_nil (escaped_ne_nil c)
    have other := head_escaped inside
    rw [escape] at other ⊢
    exact ⟨first, tail, rfl, by simpa using other⟩

theorem readBasic_body (text rest : List Char) :
    readBasic (text.flatMap basicChar ++ '"' :: rest) = some (text, rest) := by
  induction text with
  | nil => simp [readBasic]
  | cons c text ih =>
    rw [List.flatMap_cons, List.append_assoc, readBasic_basicChar, ih]
    rfl

theorem readLiteral_body {text : List Char}
    (plain : ∀ c ∈ text, isPlain c = true ∧ c ≠ '\'') (rest : List Char) :
    readLiteral (text ++ '\'' :: rest) = some (text, rest) := by
  induction text with
  | nil => simp [readLiteral]
  | cons c text ih =>
    obtain ⟨printable, inside⟩ := plain c List.mem_cons_self
    have further := ih fun d member => plain d (List.mem_cons_of_mem c member)
    simp [readLiteral, printable, further, prepend]

/-- What follows a string does not go on with its quotes. -/
def Stops (rest : List Char) : Prop := rest.head? ≠ some '"' ∧ rest.head? ≠ some '\''

theorem hasRunOfThree_tail {mark c : Char} {text : List Char}
    (short : hasRunOfThree mark (c :: text) = false) : hasRunOfThree mark text = false := by
  match text with
  | [] => rfl
  | [_] => rfl
  | _ :: _ :: _ => exact (Bool.or_eq_false_iff.mp short).2

/-- Up to two of its own quotes may stand before the closing ones of a long string. -/
theorem readLongLiteral_closing {rest : List Char} (stops : Stops rest) :
    readLongLiteral ('\'' :: '\'' :: '\'' :: rest) = some ([], rest) ∧
      readLongLiteral ('\'' :: '\'' :: '\'' :: '\'' :: rest) = some (['\''], rest) ∧
      readLongLiteral ('\'' :: '\'' :: '\'' :: '\'' :: '\'' :: rest) =
        some (['\'', '\''], rest) := by
  cases rest with
  | nil => simp [readLongLiteral]
  | cons c tail =>
    have other : c ≠ '\'' := by
      rintro rfl
      exact stops.2 rfl
    simp [readLongLiteral, other]

/-- A quote that no two others follow is a character of a long string. -/
theorem readLongLiteral_quote {d e : Char} (apart : ¬ (d = '\'' ∧ e = '\'')) (rest : List Char) :
    readLongLiteral ('\'' :: d :: e :: rest) =
      (readLongLiteral (d :: e :: rest)).map (prepend '\'') := by
  have printed : isControl '\'' = false := rfl
  by_cases second : d = '\''
  · subst second
    have third : e ≠ '\'' := fun same => apart ⟨rfl, same⟩
    simp [readLongLiteral, third, printed]
  · simp [readLongLiteral, second, printed]

theorem readLongLiteral_body {text rest : List Char} (printable : ∀ c ∈ text, isControl c = false)
    (short : hasRunOfThree '\'' text = false) (stops : Stops rest) :
    readLongLiteral (text ++ '\'' :: '\'' :: '\'' :: rest) = some (text, rest) := by
  obtain ⟨closed, one, two⟩ := readLongLiteral_closing stops
  induction text with
  | nil => exact closed
  | cons c text ih =>
    have printed := printable c List.mem_cons_self
    have further := ih (fun d member => printable d (List.mem_cons_of_mem c member))
      (hasRunOfThree_tail short)
    have online : c ≠ '\r' := by
      rintro rfl
      cases printed
    by_cases quote : c = '\''
    · subst quote
      match text with
      | [] => exact one
      | [d] =>
        by_cases second : d = '\''
        · rw [second]
          exact two
        · have read := readLongLiteral_quote (e := '\'') (fun both => second both.1)
            ('\'' :: '\'' :: rest)
          rw [List.cons_append, List.cons_append, List.nil_append, read]
          exact congrArg _ further
      | d :: e :: text =>
        have apart : ¬ (d = '\'' ∧ e = '\'') := by
          rintro ⟨rfl, rfl⟩
          simp [hasRunOfThree] at short
        exact (readLongLiteral_quote apart _).trans (congrArg _ further)
    · simp [readLongLiteral, quote, printed, online, further, prepend]

/-- Up to two of its own quotes may stand before the closing ones of a long string. -/
theorem readLong_closing {rest : List Char} (stops : Stops rest) :
    readLong .text ('"' :: '"' :: '"' :: rest) = some ([], rest) ∧
      readLong .text ('"' :: '"' :: '"' :: '"' :: rest) = some (['"'], rest) ∧
      readLong .text ('"' :: '"' :: '"' :: '"' :: '"' :: rest) = some (['"', '"'], rest) := by
  cases rest with
  | nil => simp [readLong]
  | cons c tail =>
    have other : c ≠ '"' := by
      rintro rfl
      exact stops.1 rfl
    simp [readLong, other]

/-- A quote that no two others follow is a character of a long string. -/
theorem readLong_quote {d e : Char} (apart : ¬ (d = '"' ∧ e = '"')) (rest : List Char) :
    readLong .text ('"' :: d :: e :: rest) =
      (readLong .text (d :: e :: rest)).map (prepend '"') := by
  have printed : isControl '"' = false := rfl
  by_cases second : d = '"'
  · subst second
    have third : e ≠ '"' := fun same => apart ⟨rfl, same⟩
    simp [readLong, third, printed]
  · simp [readLong, second, printed]

theorem readLong_escaped {c : Char} (inside : c ≠ '"') (rest : List Char) :
    readLong .text (escaped c ++ rest) = (readLong .text rest).map (prepend c) := by
  rcases escaped_cases c with escapes | ⟨itself, printable, unescaped⟩
  · exact readLong_escape escapes rest
  · have online : c ≠ '\r' := by
      rintro rfl
      cases printable
    rw [itself]
    simp [readLong, printable, unescaped, online, inside]

/-- Where two quotes stand already, a long string does not go on with a third one. -/
theorem head_longBody_two (text : List Char) : (longBody 2 text).head? ≠ some '"' := by
  cases text with
  | nil => simp [longBody]
  | cons c text =>
    rw [longBody]
    split
    · simp
    · rename_i inside
      obtain ⟨first, more, escape⟩ := List.exists_cons_of_ne_nil (escaped_ne_nil c)
      have other := head_escaped inside
      rw [escape] at other ⊢
      simpa using other

theorem longBody_ne_nil (quotes : Nat) {text : List Char} (more : text ≠ []) :
    longBody quotes text ≠ [] := by
  obtain ⟨c, text, rfl⟩ := List.exists_cons_of_ne_nil more
  rw [longBody]
  split
  · split <;> simp
  · simp [escaped_ne_nil]

/-- Behind one of its quotes a long string goes on with something else, unless it ends there or
behind the next one. -/
theorem longBody_apart {quotes : Nat} (few : quotes < 2) {text : List Char} (more : text ≠ [])
    (notTwo : ¬ (quotes = 0 ∧ text = ['"'])) (rest : List Char) :
    ∃ a b tail, longBody (quotes + 1) text ++ '"' :: rest = a :: b :: tail ∧
      ¬ (a = '"' ∧ b = '"') := by
  obtain ⟨c, text, rfl⟩ := List.exists_cons_of_ne_nil more
  rw [longBody]
  split
  · rename_i quote
    split
    · exact ⟨'\\', '"', _, rfl, by simp⟩
    · rename_i room
      have first : quotes = 0 := by omega
      subst first
      have further : text ≠ [] := by
        rintro rfl
        exact notTwo ⟨rfl, by rw [quote]⟩
      have other := head_longBody_two text
      obtain ⟨second, tail, body⟩ := List.exists_cons_of_ne_nil (longBody_ne_nil 2 further)
      rw [body] at other
      refine ⟨'"', second, tail ++ '"' :: rest, ?_, ?_⟩
      · rw [List.cons_append, body]
        rfl
      · rintro ⟨-, rfl⟩
        exact other rfl
  · rename_i inside
    have other := head_escaped inside
    obtain ⟨first, escape, same⟩ := List.exists_cons_of_ne_nil (escaped_ne_nil c)
    rw [same] at other ⊢
    have different : first ≠ '"' := by simpa using other
    obtain ⟨second, tail, body⟩ := List.exists_cons_of_ne_nil
      (show escape ++ longBody 0 text ++ '"' :: rest ≠ [] by simp)
    exact ⟨first, second, tail, by simpa using body, fun both => different both.1⟩

theorem readLong_body {text rest : List Char} (stops : Stops rest) {quotes : Nat}
    (few : quotes ≤ 2) :
    readLong .text (longBody quotes text ++ '"' :: '"' :: '"' :: rest) = some (text, rest) := by
  obtain ⟨closed, one, two⟩ := readLong_closing stops
  induction text generalizing quotes with
  | nil => exact closed
  | cons c text ih =>
    rw [longBody]
    split
    · rename_i quote
      subst quote
      split
      · exact (readLong_escape (.short '"' rfl (by decide)) _).trans
          (congrArg _ (ih (Nat.zero_le 2)))
      · rename_i room
        have further := ih (show quotes + 1 ≤ 2 by omega)
        by_cases last : text = []
        · subst last
          exact one
        by_cases lastButOne : quotes = 0 ∧ text = ['"']
        · obtain ⟨rfl, rfl⟩ := lastButOne
          exact two
        obtain ⟨a, b, tail, body, apart⟩ :=
          longBody_apart (by omega) last lastButOne ('"' :: '"' :: rest)
        rw [body] at further
        rw [List.cons_append, body, readLong_quote apart, further]
        rfl
    · rename_i inside
      rw [List.append_assoc, readLong_escaped inside, ih (Nat.zero_le 2)]
      rfl

/-- What a form asks of a text, where it escapes nothing. -/
def Form.Fits (text : List Char) : Form → Prop
  | .basic | .longBasic => True
  | .literal => text ≠ [] ∧ ∀ c ∈ text, isPlain c = true ∧ c ≠ '\''
  | .longLiteral => (∀ c ∈ text, isControl c = false) ∧ hasRunOfThree '\'' text = false

theorem Form.fits_choose (text : List Char) : (Form.choose text).Fits text := by
  have uncontrolled : text.any isControl = false → ∀ c ∈ text, isControl c = false := by
    intro none c member
    simpa using List.any_eq_false.mp none c member
  rw [Form.choose]
  split
  · trivial
  split
  · rename_i special literal
    simp only [Bool.and_eq_true, Bool.not_eq_true'] at special literal
    obtain ⟨⟨none, quote⟩, online⟩ := literal
    refine ⟨?_, ?_⟩
    · rintro rfl
      exact special ⟨⟨⟨rfl, rfl⟩, rfl⟩, rfl⟩
    · intro c member
      refine ⟨?_, ?_⟩
      · rw [isPlain, uncontrolled none c member]
        have other : c ≠ '\n' := by
          rintro rfl
          simp [member] at online
        simp [other]
      · rintro rfl
        simp [member] at quote
  split
  · trivial
  split
  · rename_i literal
    simp only [Bool.and_eq_true, Bool.not_eq_true'] at literal
    exact ⟨uncontrolled literal.1, literal.2⟩
  split
  · trivial
  · trivial

/-- A long string begins where its text begins: a line end of its own is put in front of a text
with line ends, and another text does not begin with one. -/
theorem skipLineEnd_openingLine {text cs : List Char}
    (starts : '\n' ∉ text → cs.head? ≠ some '\n' ∧ cs.head? ≠ some '\r') :
    skipLineEnd (openingLine text ++ cs) = cs := by
  by_cases newline : '\n' ∈ text
  · simp [openingLine, newline, skipLineEnd]
  · obtain ⟨noLine, noReturn⟩ := starts newline
    rw [openingLine, if_neg (by simpa using newline), List.nil_append]
    cases cs with
    | nil => rfl
    | cons c tail =>
      have other : c ≠ '\n' ∧ c ≠ '\r' := by simpa using And.intro noLine noReturn
      simp [skipLineEnd, other]

theorem head_longBody {text : List Char} (online : '\n' ∉ text) (rest : List Char) :
    (longBody 0 text ++ '"' :: rest).head? ≠ some '\n' ∧
      (longBody 0 text ++ '"' :: rest).head? ≠ some '\r' := by
  cases text with
  | nil => simp [longBody]
  | cons c text =>
    rw [longBody]
    split
    · simp
    · rcases escaped_cases c with escapes | ⟨itself, printable, -⟩
      · generalize escaped c = escape at escapes
        cases escapes with
        | short name | numbered digits => simp
      · have other : c ≠ '\n' ∧ c ≠ '\r' := by
          constructor
          · rintro rfl
            exact online List.mem_cons_self
          · rintro rfl
            cases printable
        simpa [itself] using other

theorem head_longLiteral {text : List Char} (printable : ∀ c ∈ text, isControl c = false)
    (online : '\n' ∉ text) (rest : List Char) :
    (text ++ '\'' :: rest).head? ≠ some '\n' ∧ (text ++ '\'' :: rest).head? ≠ some '\r' := by
  cases text with
  | nil => simp
  | cons c text =>
    have other : c ≠ '\n' ∧ c ≠ '\r' := by
      constructor
      · rintro rfl
        exact online List.mem_cons_self
      · rintro rfl
        cases printable _ List.mem_cons_self
    simpa using other

/-- A text written in a form that fits it is read back. -/
theorem readString_write {text rest : List Char} {form : Form} (fits : form.Fits text)
    (stops : Stops rest) : readString (form.write text ++ rest) = some (text, rest) := by
  cases form with
  | basic =>
    have body := readBasic_body text rest
    cases text with
    | nil =>
      cases rest with
      | nil => rfl
      | cons c tail =>
        have other : c ≠ '"' := by
          rintro rfl
          exact stops.1 rfl
        simp [Form.write, readString, readBasic, other]
    | cons c text =>
      obtain ⟨first, tail, spelled, other⟩ := basicChar_starts c
      rw [List.flatMap_cons, spelled] at body
      simpa [Form.write, readString, spelled, other] using body
  | literal =>
    obtain ⟨nonempty, plain⟩ := fits
    have body := readLiteral_body plain rest
    obtain ⟨c, text, rfl⟩ := List.exists_cons_of_ne_nil nonempty
    have other := (plain c List.mem_cons_self).2
    simpa [Form.write, readString, other] using body
  | longBasic =>
    have body : readLong .text (longBody 0 text ++ '"' :: '"' :: '"' :: rest) = some (text, rest) :=
      readLong_body stops (Nat.zero_le 2)
    have opened : skipLineEnd (openingLine text ++ (longBody 0 text ++ '"' :: '"' :: '"' :: rest)) =
        longBody 0 text ++ '"' :: '"' :: '"' :: rest :=
      skipLineEnd_openingLine fun online => head_longBody online ('"' :: '"' :: rest)
    simp [Form.write, readString, opened, body]
  | longLiteral =>
    have body := readLongLiteral_body fits.1 fits.2 stops
    have opened : skipLineEnd (openingLine text ++ (text ++ '\'' :: '\'' :: '\'' :: rest)) =
        text ++ '\'' :: '\'' :: '\'' :: rest :=
      skipLineEnd_openingLine fun online =>
        head_longLiteral fits.1 online ('\'' :: '\'' :: rest)
    simp [Form.write, readString, opened, body]

end RecordLocks.Toml
