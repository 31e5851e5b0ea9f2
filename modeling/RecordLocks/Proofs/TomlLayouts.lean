import Mathlib.Data.List.Nodup
import RecordLocks.Proofs.SettingsText
namespace RecordLocks.Toml

/-- A value that fits on a line. Numbers are signed, and texts stand in any form that suits them. -/
inductive Scalar where
  | number (n : Nat) (small : (n : Int) ≤ greatestInteger)
  | text (form : Form) (value : String) (fits : form.Fits value.toList)
  | boolean (value : Bool)

namespace Scalar

def chars : Scalar → List Char
  | number n _ => Decimal.chars n
  | text form value _ => form.write value.toList
  | boolean true => ['t', 'r', 'u', 'e']
  | boolean false => ['f', 'a', 'l', 's', 'e']

def written : Scalar → Written
  | number n _ => .integer n
  | text _ value _ => .text value
  | boolean value => .boolean value

def value : Scalar → Value
  | number n _ => .integer n
  | text _ value _ => .text value
  | boolean value => .boolean value

theorem value?_written (scalar : Scalar) : scalar.written.value? = some scalar.value := by
  cases scalar <;> rfl

end Scalar

/-- A line that gives a value to a key. -/
structure Entry where
  key : String
  bare : IsBareName key
  value : Scalar

/-- A table under its header, with some keys or none. -/
structure Section where
  name : String
  bare : IsBareName name
  entries : List Entry
  distinct : (entries.map Entry.key).Nodup

/-- A document of tables, in any order, after keys that belong to none. -/
structure Layout where
  loose : List Entry
  sections : List Section
  distinct : (loose.map Entry.key ++ sections.map Section.name).Nodup

namespace Entry

def chars (entry : Entry) : List Char :=
  entry.key.toList ++ ' ' :: '=' :: ' ' :: (entry.value.chars ++ ['\n'])

def statement (entry : Entry) : Statement := .assign [entry.key] entry.value.written

def member (entry : Entry) : Key × Value := (entry.key, entry.value.value)

def node (entry : Entry) : Key × Node := (entry.key, .leaf entry.value.value)

end Entry

namespace Section

def chars (group : Section) : List Char :=
  '[' :: (group.name.toList ++ ']' :: '\n' :: group.entries.flatMap Entry.chars)

def statements (group : Section) : List Statement :=
  .table [group.name] :: group.entries.map Entry.statement

def member (group : Section) : Key × Value := (group.name, .table (group.entries.map Entry.member))

def node (group : Section) : Key × Node :=
  (group.name, .table false false (group.entries.map Entry.node))

end Section

namespace Layout

def chars (layout : Layout) : List Char :=
  layout.loose.flatMap Entry.chars ++ layout.sections.flatMap Section.chars

def text (layout : Layout) : String := String.ofList layout.chars

def statements (layout : Layout) : List Statement :=
  layout.loose.map Entry.statement ++ layout.sections.flatMap Section.statements

def members (layout : Layout) : List (Key × Value) :=
  layout.loose.map Entry.member ++ layout.sections.map Section.member

end Layout

section Reading

variable {rest : List Char} {later : List Statement}

theorem lines_entry (entry : Entry) (further : Lines rest later) :
    Lines (entry.chars ++ rest) (entry.statement :: later) := by
  obtain ⟨key, bare, value⟩ := entry
  simp only [Entry.chars, Entry.statement, List.append_assoc, List.cons_append, List.nil_append]
  cases value with
  | number n small => exact .assignNumber bare small further
  | text form value fits =>
    have line := Lines.assignText bare fits further
    rw [String.ofList_toList] at line
    exact line
  | boolean value =>
    cases value with
    | false => exact .assign bare rfl (by decide) (by simp [readScalar]; rfl) further
    | true => exact .assign bare rfl (by decide) (by simp [readScalar]; rfl) further

theorem lines_entries (entries : List Entry) (further : Lines rest later) :
    Lines (entries.flatMap Entry.chars ++ rest) (entries.map Entry.statement ++ later) := by
  induction entries with
  | nil => exact further
  | cons entry entries ih =>
    rw [List.flatMap_cons, List.append_assoc]
    exact lines_entry entry ih

theorem lines_sections (sections : List Section) :
    Lines (sections.flatMap Section.chars) (sections.flatMap Section.statements) := by
  induction sections with
  | nil => exact .done
  | cons group sections ih =>
    have header : (String.ofList ('[' :: (group.name.toList ++ [']', '\n']))).toList =
        '[' :: (group.name.toList ++ [']', '\n']) := String.toList_ofList
    have lines := Lines.table group.bare header (lines_entries group.entries ih)
    simpa [Section.chars, Section.statements] using lines

theorem readStatements_chars (layout : Layout) :
    readStatements layout.chars = some layout.statements := by
  have lines : Lines layout.chars layout.statements :=
    lines_entries layout.loose (lines_sections layout.sections)
  apply lines.readStatements
  intro marked
  rw [Layout.chars] at marked
  cases loose : layout.loose with
  | nil =>
    cases sections : layout.sections with
    | nil => simp [loose, sections] at marked
    | cons group more =>
      have first : '[' = byteOrderMark := by
        simpa [loose, sections, Section.chars] using marked
      exact absurd first (by decide)
  | cons entry more =>
    obtain ⟨nonempty, bare⟩ := entry.bare
    obtain ⟨c, name, named⟩ := List.exists_cons_of_ne_nil nonempty
    have first : c = byteOrderMark := by simpa [loose, Entry.chars, named] using marked
    have plain : isBare c = true := bare c (by simp [named])
    rw [first] at plain
    cases plain

end Reading

section Building

variable {key : Key} {before members : List (Key × Node)} {later : List Statement}

theorem place_new (new : key ∉ members.map Prod.fst) (node : Node) :
    Table.place key node members = members ++ [(key, node)] := by
  induction members with
  | nil => rfl
  | cons member members ih =>
    simp only [List.map_cons, List.mem_cons, not_or] at new
    simp [Table.place, Ne.symm new.1, ih new.2]

theorem place_last (new : key ∉ before.map Prod.fst) (old node : Node) :
    Table.place key node (before ++ [(key, old)]) = before ++ [(key, node)] := by
  induction before with
  | nil => simp [Table.place]
  | cons member before ih =>
    simp only [List.map_cons, List.mem_cons, not_or] at new
    simp [Table.place, Ne.symm new.1, ih new.2]

theorem lookup_new (new : key ∉ members.map Prod.fst) : members.lookup key = none := by
  rw [List.lookup_eq_none_iff]
  intro member inside
  exact bne_iff_ne.mpr fun same => new (same ▸ List.mem_map_of_mem inside)

theorem lookup_last (new : key ∉ before.map Prod.fst) (node : Node) :
    (before ++ [(key, node)]).lookup key = some node := by
  simp [List.lookup_append, lookup_new new]

theorem assign_new (new : key ∉ members.map Prod.fst) (value : Value) :
    Table.assign ⟨false, false, members⟩ [key] value =
      some ⟨false, false, members ++ [(key, .leaf value)]⟩ := by
  simp [Table.assign, Table.descend, Table.get?, lookup_new new, Table.set, place_new new]

theorem openTable_new (new : key ∉ members.map Prod.fst) :
    Table.openTable [key] ⟨false, false, members⟩ =
      some ⟨false, false, members ++ [(key, .table false false [])]⟩ := by
  simp [Table.openTable, Table.atParent, Table.descend, Table.get?, lookup_new new, Table.set,
    place_new new]

/-- Below its header, a key goes to the last table. -/
theorem assign_last {name : Key} (last : name ∉ before.map Prod.fst)
    (new : key ∉ members.map Prod.fst) (value : Value) :
    Table.descend false (·.assign [key] value) [name]
        ⟨false, false, before ++ [(name, .table false false members)]⟩ =
      some ⟨false, false,
        before ++ [(name, .table false false (members ++ [(key, .leaf value)]))]⟩ := by
  simp [Table.descend, Table.get?, lookup_last last, assign_new new, Table.set, place_last last,
    Table.toNode]

theorem build_loose (before : List (Key × Node)) (entries : List Entry)
    (distinct : (before.map Prod.fst ++ entries.map Entry.key).Nodup) :
    Table.build (entries.map Entry.statement ++ later) [] ⟨false, false, before⟩ =
      Table.build later [] ⟨false, false, before ++ entries.map Entry.node⟩ := by
  induction entries generalizing before with
  | nil => simp
  | cons entry entries ih =>
    have new : entry.key ∉ before.map Prod.fst := fun inside =>
      (List.nodup_middle.mp distinct).notMem (List.mem_append_left _ inside)
    have further := ih (before ++ [entry.node]) (by simpa [Entry.node] using distinct)
    rw [List.append_assoc] at further
    simp only [List.map_cons, List.cons_append, Entry.statement, Table.build, Table.descend,
      entry.value.value?_written, assign_new new, Option.bind_eq_bind, Option.bind_some]
    exact further

theorem build_entries {name : Key} (last : name ∉ before.map Prod.fst)
    (members : List (Key × Node)) (entries : List Entry)
    (distinct : (members.map Prod.fst ++ entries.map Entry.key).Nodup) :
    Table.build (entries.map Entry.statement ++ later) [name]
        ⟨false, false, before ++ [(name, .table false false members)]⟩ =
      Table.build later [name] ⟨false, false,
        before ++ [(name, .table false false (members ++ entries.map Entry.node))]⟩ := by
  -- The table that is filled is the last of the document, with what has been read of it so far.
  induction entries generalizing members with
  | nil => simp
  | cons entry entries ih =>
    have new : entry.key ∉ members.map Prod.fst := fun inside =>
      (List.nodup_middle.mp distinct).notMem (List.mem_append_left _ inside)
    have further := ih (members ++ [entry.node]) (by simpa [Entry.node] using distinct)
    rw [List.append_assoc] at further
    simp only [List.map_cons, List.cons_append, Entry.statement, Table.build,
      entry.value.value?_written, assign_last last new, Option.bind_eq_bind, Option.bind_some]
    exact further

theorem build_sections (before : List (Key × Node)) (sections : List Section) (path : List Key)
    (distinct : (before.map Prod.fst ++ sections.map Section.name).Nodup) :
    Table.build (sections.flatMap Section.statements) path ⟨false, false, before⟩ =
      some ⟨false, false, before ++ sections.map Section.node⟩ := by
  induction sections generalizing before path with
  | nil => simp [Table.build]
  | cons group sections ih =>
    have new : group.name ∉ before.map Prod.fst := fun inside =>
      (List.nodup_middle.mp distinct).notMem (List.mem_append_left _ inside)
    have further := ih (before ++ [group.node]) [group.name]
      (by simpa [Section.node] using distinct)
    rw [List.append_assoc] at further
    have opened := openTable_new new
    simp only [List.flatMap_cons, Section.statements, List.cons_append, Table.build, opened,
      Option.bind_eq_bind, Option.bind_some]
    rw [build_entries new [] group.entries group.distinct]
    exact further

theorem membersValue_eq (members : List (Key × Node)) :
    membersValue members = members.map fun member => (member.1, member.2.value) := by
  induction members with
  | nil => rfl
  | cons member members ih => simp [membersValue, ih]

theorem membersValue_entries (entries : List Entry) :
    membersValue (entries.map Entry.node) = entries.map Entry.member := by
  rw [membersValue_eq, List.map_map]
  rfl

theorem membersValue_sections (sections : List Section) :
    membersValue (sections.map Section.node) = sections.map Section.member := by
  rw [membersValue_eq, List.map_map]
  refine List.map_congr_left fun group _ => ?_
  simp [Section.node, Section.member, Node.value, membersValue_entries]

/-- A document is read as the tables that are written in it. -/
theorem Layout.read_text (layout : Layout) : Toml.read layout.text = some layout.members := by
  have names : (layout.loose.map Entry.node).map Prod.fst = layout.loose.map Entry.key := by
    rw [List.map_map]
    rfl
  have built : Table.build layout.statements [] .root = some ⟨false, false,
      layout.loose.map Entry.node ++ layout.sections.map Section.node⟩ := by
    rw [Layout.statements, Table.root,
      build_loose [] layout.loose (List.nodup_append.mp layout.distinct).1]
    exact build_sections _ layout.sections [] (names ▸ layout.distinct)
  have values : membersValue (layout.loose.map Entry.node ++ layout.sections.map Section.node) =
      layout.members := by
    rw [membersValue_eq, List.map_append, ← membersValue_eq, ← membersValue_eq,
      membersValue_entries, membersValue_sections]
    rfl
  simp only [Toml.read, Layout.text, String.toList_ofList, readStatements_chars layout, built,
    values, Option.bind_eq_bind, Option.bind_some, Option.pure_def]

end Building

end RecordLocks.Toml
