import RecordLocks.Proofs.SettingsCommands
import RecordLocks.Proofs.TomlLayouts
namespace RecordLocks

/-- Numbers in a file end at half the range of a word. -/
def SettingKey.Fits : (key : SettingKey) → key.Content → Prop
  | .filter, _ | .title, _ | .newTitle, _ | .rivalTitle, _ => True
  | .writeDelay, n | .readDelay, n | .bookId, n | .probeDelay, n | .settleDelay, n =>
    UInt64.toNat n ≤ 2 ^ 63 - 1

namespace Toml

def Scalar.ofNumber? (n : UInt64) : Option Scalar :=
  if small : (n.toNat : Int) ≤ greatestInteger then some (.number n.toNat small) else none

def Scalar.ofText (text : String) : Scalar :=
  .text (Form.choose text.toList) text (Form.fits_choose text.toList)

def Scalar.ofContent? : (key : SettingKey) → key.Content → Option Scalar
  | .filter, value | .title, value | .newTitle, value | .rivalTitle, value => some (ofText value)
  | .writeDelay, n | .readDelay, n | .bookId, n | .probeDelay, n | .settleDelay, n => ofNumber? n

variable {key : SettingKey} {keys : List SettingKey} {assignment : Assignment}

theorem Scalar.ofContent?_fits {content : key.Content} (fits : key.Fits content) :
    ∃ scalar, ofContent? key content = some scalar ∧ key.read? scalar.value = some content := by
  cases key with
  | filter | title | newTitle | rivalTitle => exact ⟨_, rfl, rfl⟩
  | writeDelay | readDelay | bookId | probeDelay | settleDelay =>
    have small : (UInt64.toNat content : Int) ≤ greatestInteger := by
      simp only [SettingKey.Fits] at fits
      simp only [greatestInteger]
      omega
    exact ⟨_, dif_pos small, Settings.word?_toNat content⟩

theorem bare_field (key : SettingKey) : IsBareName key.field := by
  cases key <;> decide

/-- The line for a setting, if it is assigned. -/
def Entry.of? (assignment : Assignment) (key : SettingKey) : Option Entry := do
  let scalar ← Scalar.ofContent? key (← assignment key)
  return ⟨key.field, bare_field key, scalar⟩

theorem Entry.key_of? {entry : Entry} (written : of? assignment key = some entry) :
    entry.key = key.field := by
  simp only [of?, Option.bind_eq_bind, Option.bind_eq_some_iff, Option.pure_def,
    Option.some.injEq] at written
  obtain ⟨content, -, scalar, -, rfl⟩ := written
  rfl

theorem distinct_entries (distinct : (keys.map SettingKey.field).Nodup) :
    ((keys.filterMap (Entry.of? assignment)).map Entry.key).Nodup := by
  refine distinct.sublist ?_
  induction keys with
  | nil => exact .slnil
  | cons key keys ih =>
    have further := ih (List.nodup_cons.mp distinct).2
    cases written : Entry.of? assignment key with
    | none =>
      rw [List.filterMap_cons_none written]
      exact further.cons _
    | some entry =>
      rw [List.filterMap_cons_some written, List.map_cons, List.map_cons, Entry.key_of? written]
      exact further.cons_cons _

theorem lookup_entries (apart : ∀ other ∈ keys, other.field = key.field → other = key) :
    ((keys.filterMap (Entry.of? assignment)).map Entry.member).lookup key.field =
      if key ∈ keys then (Entry.of? assignment key).map (·.value.value) else none := by
  induction keys with
  | nil => rfl
  | cons other keys ih =>
    have further := ih fun later inside => apart later (List.mem_cons_of_mem other inside)
    have same := apart other List.mem_cons_self
    cases written : Entry.of? assignment other with
    | none =>
      rw [List.filterMap_cons_none written, further]
      by_cases first : key = other
      · subst first
        simp [written]
      · simp [first]
    | some entry =>
      rw [List.filterMap_cons_some written, List.map_cons, Entry.member, List.lookup_cons,
        Entry.key_of? written]
      -- A line before the one for the key has another name, as all of them are in one group.
      by_cases first : key = other
      · subst first
        simp [written]
      · have different : key.field ≠ other.field := fun named => first (same named.symm).symm
        simp [first, beq_false_of_ne different, further]

theorem field_injective {key other : SettingKey} (grouped : other.group = key.group)
    (named : other.field = key.field) : other = key := by
  cases key <;> cases other <;> first | rfl | simp [SettingKey.group, SettingKey.field] at *

/-- The table of one group, with the lines of the assigned settings. -/
def Section.ofAssignment (assignment : Assignment) (name : String) (bare : IsBareName name)
    (distinct : (SettingKey.fields name).Nodup) : Section :=
  ⟨name, bare, (SettingKey.ofGroup name).filterMap (Entry.of? assignment),
    distinct_entries distinct⟩

theorem holdsGroup_ofAssignment {name : String} {bare : IsBareName name}
    {distinct : (SettingKey.fields name).Nodup}
    (fits : ∀ key content, assignment key = some content → key.Fits content) :
    HoldsGroup name ((Section.ofAssignment assignment name bare distinct).entries.map Entry.member)
      assignment := by
  refine ⟨trivial, ?_⟩
  rintro key rfl
  have apart : ∀ other ∈ SettingKey.ofGroup key.group, other.field = key.field → other = key :=
    fun other inside => field_injective (of_decide_eq_true (List.mem_filter.mp inside).2)
  have inside : key ∈ SettingKey.ofGroup key.group := by
    cases key <;> decide
  rw [Section.ofAssignment, lookup_entries apart, if_pos inside]
  cases given : assignment key with
  | none => simp [Entry.of?, given]
  | some content =>
    obtain ⟨scalar, written, read⟩ := Scalar.ofContent?_fits (fits key content given)
    simp [Entry.of?, given, written, read]

/-- Every assignment of numbers in the range of a file and of texts can be written. -/
def Layout.ofAssignment (assignment : Assignment) : Layout where
  loose := []
  sections :=
    [.ofAssignment assignment "manager" (by decide) (by decide),
      .ofAssignment assignment "logging" (by decide) (by decide),
      .ofAssignment assignment "demo" (by decide) (by decide)]
  distinct := by simp [Section.ofAssignment]

theorem holds_ofAssignment
    (fits : ∀ key content, assignment key = some content → key.Fits content) :
    Holds (Layout.ofAssignment assignment).members assignment := by
  refine ⟨trivial, ?_⟩
  simp only [SettingKey.groups, List.forall_mem_cons]
  exact ⟨.inr ⟨_, rfl, holdsGroup_ofAssignment fits⟩, .inr ⟨_, rfl, holdsGroup_ofAssignment fits⟩,
    .inr ⟨_, rfl, holdsGroup_ofAssignment fits⟩, by simp⟩

/-- The tables of the document hold exactly the assigned settings, among whatever else. -/
def Gives (text : String) (assignment : Assignment) : Prop :=
  ∃ members, Toml.read text = some members ∧ Holds members assignment

theorem gives_of_layout {layout : Layout} (holds : Holds layout.members assignment) :
    Gives layout.text assignment :=
  ⟨layout.members, layout.read_text, holds⟩

end Toml

namespace Json

/-- The objects in the text hold exactly the assigned settings, among whatever else. -/
def Gives (text : String) (assignment : Assignment) : Prop :=
  ∃ members, Document.read text = some (TableSource.table members) ∧ Holds members assignment

variable {assignment : Assignment}

theorem gives_of_object {members : List (String × Json)} (whole : (Json.object members).Whole)
    (holds : Holds (members.map fun member => (member.1, member.2.document)) assignment) :
    Gives (Json.object members).render assignment := by
  refine ⟨_, ?_, holds⟩
  rw [whole.read_render, document, memberDocuments_eq]
  simp [TableSource.table]

theorem read_of_gives {text : String} (gives : Gives text assignment) :
    Coded.read text = some (Settings.overlay assignment) := by
  obtain ⟨members, read, holds⟩ := gives
  rw [Coded.read, read]
  exact readSettings_table holds

end Json

namespace Settings

variable {assignment : Assignment}

theorem get_overlay (assignment : Assignment) (key : SettingKey) :
    (overlay assignment).get key =
      ((assignment key).map key.shown).getD (standard.get key) := by
  rw [get_eq_shown, get_eq_shown, content_overlay]
  cases assignment key <;> rfl

end Settings

namespace SettingsFile

variable {assignment : Assignment} {text : String}

theorem load_of_gives (file : SettingsFile) (gives : Toml.Gives text assignment) :
    (file.put text).load =
      (Settings.overlay assignment).validate.map fun _ => Settings.overlay assignment := by
  obtain ⟨members, read, holds⟩ := gives
  have settings := readSettings_table holds
  simp only [load, put, fromUTF8?_toUTF8, Settings.ofToml?, read, Option.bind_eq_bind,
    Option.bind_some]
  rw [show SettingsSource.readSettings (Toml.Value.table members) = _ from settings]

/-- A file overlays the standard settings with the ones that it gives, key by key: what this makes
is loaded if it is valid and refused for what is wrong with it otherwise. Tables and keys can stand
in any order and among others, and one key has no say in what another one shows. Objects are read
in the same way, valid or not. -/
theorem partial_settings_overlay_the_standard (file : SettingsFile) :
    (∀ text assignment, Toml.Gives text assignment →
      (file.put text).load =
        (Settings.overlay assignment).validate.map fun _ => Settings.overlay assignment) ∧
    (∀ (layout : Toml.Layout) assignment, Holds layout.members assignment →
      Toml.Gives layout.text assignment) ∧
    (∀ assignment : Assignment,
      (∀ key content, assignment key = some content → key.Fits content) →
        ∃ layout : Toml.Layout, Holds layout.members assignment) ∧
    (∀ key : SettingKey, key.name = key.group ++ "." ++ key.field ∧
      ∀ assignment, (Settings.overlay assignment).get key =
        ((assignment key).map key.shown).getD (Settings.standard.get key)) ∧
    (∀ text other (assignment another : Assignment) key settings changed,
      Toml.Gives text assignment → Toml.Gives other another → assignment key = another key →
        (file.put text).load = .ok settings → (file.put other).load = .ok changed →
          settings.get key = changed.get key) ∧
    (∀ settings, file.load = .ok settings → settings.validate = .ok ()) ∧
    (∀ text assignment, Json.Gives text assignment →
      Coded.read text = some (Settings.overlay assignment)) ∧
    (∀ (members : List (String × Json)) assignment, (Json.object members).Whole →
      Holds (members.map fun member => (member.1, member.2.document)) assignment →
        Json.Gives (Json.object members).render assignment) := by
  refine ⟨fun _ _ => file.load_of_gives, fun _ _ => Toml.gives_of_layout,
    fun assignment fits => ⟨_, Toml.holds_ofAssignment fits⟩,
    fun key => ⟨key.name_eq, fun assignment => Settings.get_overlay assignment key⟩, ?_, ?_,
    fun _ _ => Json.read_of_gives, fun _ _ => Json.gives_of_object⟩
  · intro text other assignment another key settings changed gives givesOther same loaded reloaded
    rw [file.load_of_gives gives, Settings.map_eq_ok] at loaded
    rw [file.load_of_gives givesOther, Settings.map_eq_ok] at reloaded
    obtain ⟨-, -, rfl⟩ := loaded
    obtain ⟨-, -, rfl⟩ := reloaded
    rw [Settings.get_overlay, Settings.get_overlay, same]
  · exact fun settings loaded => (Settings.validate_eq_ok_iff settings).mpr (valid_of_load loaded)

/-- A title and a time to settle, in a document with other keys and tables and with an empty one. -/
def titleAndSettle : Toml.Layout where
  loose := [⟨"verbose", by decide, .boolean true⟩]
  sections :=
    [⟨"demo", by decide,
        [⟨"settle_delay_ms", by decide, .number 1501 (by decide)⟩,
          ⟨"colour", by decide, .text .basic "red" trivial⟩,
          ⟨"title", by decide, .text .longBasic "Emma" trivial⟩], by decide⟩,
      ⟨"shelf", by decide, [⟨"title", by decide, .number 7 (by decide)⟩], by decide⟩,
      ⟨"logging", by decide, [], by decide⟩]
  distinct := by decide

def titleAndSettleAssigned : Assignment
  | .title => some "Emma"
  | .settleDelay => some (1501 : UInt64)
  | .writeDelay | .readDelay | .filter | .bookId | .newTitle | .rivalTitle | .probeDelay => none

theorem partial_settings_overlay_the_standard_of_titleAndSettle :
    Holds titleAndSettle.members titleAndSettleAssigned ∧
      titleAndSettle.text = "verbose = true\n[demo]\nsettle_delay_ms = 1501\ncolour = \"red\"\n" ++
        "title = \"\"\"Emma\"\"\"\n[shelf]\ntitle = 7\n[logging]\n" ∧
      (put ⟨"settings", .missing⟩ titleAndSettle.text).load =
        .ok { Settings.standard with demo.title := "Emma", demo.settleDelay := 1501 } := by
  have holds : Holds titleAndSettle.members titleAndSettleAssigned := by
    refine ⟨trivial, ?_⟩
    simp only [SettingKey.groups, List.forall_mem_cons]
    refine ⟨.inl ⟨rfl, ?_⟩, .inr ⟨_, rfl, trivial, ?_⟩, .inr ⟨_, rfl, trivial, ?_⟩, by simp⟩
    all_goals
      intro key grouped
      cases key <;> first | rfl | exact absurd grouped (by decide)
  obtain ⟨loads, gives, -⟩ := partial_settings_overlay_the_standard ⟨"settings", .missing⟩
  refine ⟨holds, by decide, ?_⟩
  rw [loads _ _ (gives _ _ holds)]
  rfl

end SettingsFile

end RecordLocks
