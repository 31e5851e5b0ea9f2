import RecordLocks.Proofs.SettingsCommands
namespace RecordLocks

namespace SettingKey

/-- The names of all settings, in the order in which they are listed. -/
def names : List String := all.map name

/-- The values that a setting takes. -/
def Takes (key : SettingKey) (value : String) : Prop :=
  match key with
  | .writeDelay | .readDelay | .bookId | .probeDelay | .settleDelay =>
    ∃ n, Decimal.Denotes UInt64.size value.toList n
  | .filter => ∃ c ∈ value.toList, Text.isBlank c = false
  | .title | .newTitle | .rivalTitle => True

theorem mem_all (key : SettingKey) : key ∈ all := by
  cases key <;> decide

theorem ofName?_name (key : SettingKey) : ofName? key.name = some key := by
  cases key <;> rfl

theorem ofName?_eq_none {name : String} : ofName? name = none ↔ name ∉ names := by
  rw [ofName?, List.find?_eq_none, names, List.mem_map]
  simp

end SettingKey

namespace Settings

variable {settings changed : Settings} {key : SettingKey} {name value : String}

theorem findKey_name (key : SettingKey) : findKey key.name = .ok key := by
  rw [findKey, SettingKey.ofName?_name]

theorem findKey_unknown (unknown : name ∉ SettingKey.names) :
    findKey name = .error (.unknownKey name) := by
  rw [findKey, SettingKey.ofName?_eq_none.mpr unknown]

theorem getNamed_name (settings : Settings) (key : SettingKey) :
    settings.getNamed key.name = .ok (settings.get key) := by
  rw [getNamed, findKey_name]
  rfl

theorem getNamed_unknown (settings : Settings) (unknown : name ∉ SettingKey.names) :
    settings.getNamed name = .error (.unknownKey name) := by
  rw [getNamed, findKey_unknown unknown]
  rfl

theorem setNamed_name (settings : Settings) (key : SettingKey) (value : String) :
    settings.setNamed key.name value = settings.set key value := by
  rw [setNamed, findKey_name]
  rfl

theorem setNamed_unknown (settings : Settings) (unknown : name ∉ SettingKey.names)
    (value : String) : settings.setNamed name value = .error (.unknownKey name) := by
  rw [setNamed, findKey_unknown unknown]
  rfl

theorem key_of_setNamed (done : settings.setNamed name value = .ok changed) :
    ∃ key : SettingKey, key.name = name ∧ settings.set key value = .ok changed := by
  by_cases known : name ∈ SettingKey.names
  · obtain ⟨key, -, rfl⟩ := List.mem_map.mp known
    exact ⟨key, rfl, (settings.setNamed_name key value).symm.trans done⟩
  · rw [settings.setNamed_unknown known] at done
    cases done

/-- A number is read exactly from a numeral. -/
theorem readNumber_succeeds :
    (∃ n, readNumber key value = .ok n) ↔ ∃ n, Decimal.Denotes UInt64.size value.toList n := by
  constructor
  · rintro ⟨n, read⟩
    exact ⟨n.toNat, Decimal.readWord_eq_ok.mp (readNumber_eq_ok.mp read)⟩
  · rintro ⟨n, denotes⟩
    have small : n < UInt64.size := denotes.choose_spec.2.2.2.2
    have word : (UInt64.ofNat n).toNat = n := UInt64.toNat_ofNat_of_lt small
    refine ⟨UInt64.ofNat n, readNumber_eq_ok.mpr (Decimal.readWord_eq_ok.mpr ?_)⟩
    rw [word]
    exact denotes

theorem map_succeeds {α β ε : Type} {read : Except ε α} {f : α → β} :
    (∃ result, read.map f = .ok result) ↔ ∃ a, read = .ok a := by
  cases read <;> simp [Except.map]

theorem set_succeeds : (∃ changed, settings.set key value = .ok changed) ↔ key.Takes value := by
  cases key with
  | writeDelay | readDelay | bookId | probeDelay | settleDelay =>
    exact map_succeeds.trans readNumber_succeeds
  | title | newTitle | rivalTitle => exact ⟨fun _ => trivial, fun _ => ⟨_, rfl⟩⟩
  | filter =>
    simp only [set, SettingKey.Takes]
    by_cases blank : Text.IsAllBlank value
    · rw [if_pos blank]
      constructor
      · rintro ⟨changed, done⟩
        cases done
      · rintro ⟨c, member, visible⟩
        rw [blank c member] at visible
        cases visible
    · rw [if_neg blank]
      refine ⟨fun _ => ?_, fun _ => ⟨_, rfl⟩⟩
      simpa [Text.IsAllBlank] using blank

/-- What a setting shows after it has been set: a text as it was given, a number by its digits. -/
theorem get_set_denoted (done : settings.set key value = .ok changed) (number : ¬ key.IsText) :
    ∃ n, Decimal.Denotes UInt64.size value.toList n ∧ changed.get key = Decimal.text n := by
  obtain ⟨n, read, shown⟩ := get_set_number done number
  exact ⟨n.toNat, Decimal.readWord_eq_ok.mp read, shown⟩

/-- The later of two values for one setting counts. -/
theorem set_set (done : settings.set key value = .ok changed) (later : String) :
    changed.set key later = settings.set key later := by
  cases key with
  | writeDelay | readDelay | bookId | probeDelay | settleDelay =>
    obtain ⟨n, -, rfl⟩ := map_eq_ok.mp done
    rfl
  | title | newTitle | rivalTitle =>
    cases done
    rfl
  | filter =>
    simp only [set] at done
    split at done
    · cases done
    · cases done
      rfl

theorem readNumber_idText (key : SettingKey) (n : UInt64) : readNumber key (idText n) = .ok n :=
  readNumber_eq_ok.mpr (Decimal.readWord_eq_ok.mpr (Decimal.denotes_text n))

/-- What a setting shows is taken again and changes nothing, but for a blank filter. -/
theorem set_get (settings : Settings) (key : SettingKey) :
    settings.set key (settings.get key) =
      if key = .filter ∧ Text.IsAllBlank settings.logging.filter then .error .blankFilter
      else .ok settings := by
  cases key with
  | writeDelay | readDelay | bookId | probeDelay | settleDelay =>
    simp only [set, get, readNumber_idText]
    rfl
  | title | newTitle | rivalTitle => rfl
  | filter =>
    simp only [set, get, true_and]
    rfl

/-- Work on settings in place, which may fail and leaves settings in any case. -/
abbrev Work := ExceptT SettingsError (StateM Settings)

/-- Setting a value in place. A value that is read is put in its place when it has been read. -/
def assign (key : SettingKey) (value : String) : Work Unit :=
  match key with
  | .writeDelay => do
    let n ← readNumber key value
    modify fun settings => { settings with manager.writeDelay := n }
  | .readDelay => do
    let n ← readNumber key value
    modify fun settings => { settings with manager.readDelay := n }
  | .filter => do
    if Text.IsAllBlank value then throw .blankFilter
    modify fun settings => { settings with logging.filter := value }
  | .bookId => do
    let n ← readNumber key value
    modify fun settings => { settings with demo.bookId := n }
  | .title => modify fun settings => { settings with demo.title := value }
  | .newTitle => modify fun settings => { settings with demo.newTitle := value }
  | .rivalTitle => modify fun settings => { settings with demo.rivalTitle := value }
  | .probeDelay => do
    let n ← readNumber key value
    modify fun settings => { settings with demo.probeDelay := n }
  | .settleDelay => do
    let n ← readNumber key value
    modify fun settings => { settings with demo.settleDelay := n }

def assignNamed (name value : String) : Work Unit := do
  assign (← findKey name) value

/-- What work that has failed leaves is what was there before it. -/
def assigned (settings : Settings) :
    Except SettingsError Settings → Except SettingsError Unit × Settings
  | .ok changed => (.ok (), changed)
  | .error error => (.error error, settings)

theorem assign_eq (settings : Settings) (key : SettingKey) (value : String) :
    (assign key value).run.run settings = settings.assigned (settings.set key value) := by
  cases key with
  | writeDelay | readDelay | bookId | probeDelay | settleDelay =>
    simp only [assign, set]
    cases readNumber _ value <;> rfl
  | title | newTitle | rivalTitle => rfl
  | filter =>
    simp only [assign, set]
    split <;> rfl

theorem assignNamed_eq (settings : Settings) (name value : String) :
    (assignNamed name value).run.run settings =
      settings.assigned (settings.setNamed name value) := by
  by_cases known : name ∈ SettingKey.names
  · obtain ⟨key, -, rfl⟩ := List.mem_map.mp known
    rw [setNamed_name, ← assign_eq, assignNamed, findKey_name]
    rfl
  · rw [settings.setNamed_unknown known, assignNamed, findKey_unknown known]
    rfl

/-- A setting shows the value that it has been given, the others show what they have shown, and
of the value nothing is left when the setting is set again. -/
structure Replaced (settings : Settings) (name value : String) (changed : Settings) : Prop where
  text : ∀ key : SettingKey, key.name = name → key.IsText → changed.getNamed name = .ok value
  number : ∀ key : SettingKey, key.name = name → ¬ key.IsText →
    ∃ n, Decimal.Denotes UInt64.size value.toList n ∧ changed.getNamed name = .ok (Decimal.text n)
  others : ∀ other, other ≠ name → changed.getNamed other = settings.getNamed other
  again : ∀ later, changed.setNamed name later = settings.setNamed name later

theorem replaced_of_setNamed (done : settings.setNamed name value = .ok changed) :
    settings.Replaced name value changed := by
  obtain ⟨key, rfl, changes⟩ := key_of_setNamed done
  have same : ∀ {other : SettingKey}, other.name = key.name → other = key := by
    intro other named
    have found := SettingKey.ofName?_name other
    rw [named, SettingKey.ofName?_name] at found
    exact (Option.some.inj found).symm
  refine ⟨?_, ?_, ?_, ?_⟩
  · intro other named text
    obtain rfl := same named
    rw [getNamed_name, get_set_text changes text]
  · intro other named number
    obtain rfl := same named
    obtain ⟨n, denotes, shown⟩ := get_set_denoted changes number
    exact ⟨n, denotes, by rw [getNamed_name, shown]⟩
  · intro other different
    by_cases known : other ∈ SettingKey.names
    · obtain ⟨asked, -, rfl⟩ := List.mem_map.mp known
      have apart : asked ≠ key := by
        rintro rfl
        exact different rfl
      rw [getNamed_name, getNamed_name, get_set_other changes apart]
    · rw [getNamed_unknown _ known, getNamed_unknown _ known]
  · intro later
    rw [setNamed_name, setNamed_name, set_set changes later]

theorem list_injective : Function.Injective list := by
  intro settings other same
  apply get_injective
  funext key
  have shown := List.map_inj_left.mp same key key.mem_all
  exact congrArg Prod.snd shown

theorem list_eq (settings : Settings) :
    SettingKey.names.mapM (fun name => (settings.getNamed name).map fun value => (name, value)) =
      .ok settings.list := by
  rfl

/-- Settings go by their names. A value is taken exactly if the name is known and the value is one
that the setting takes: a numeral for a number, a text that is not blank for the filter, any text
for a title. A value that is refused leaves all settings as they were, also when they are set in
place; one that is taken is shown, while the other settings stay. The settings are listed in order
with what they show, and the list determines them. What a setting shows can be set again and
changes nothing, unless it is a blank filter. -/
theorem settings_are_keyed (settings : Settings) (name : String) :
    (∀ value, (∃ changed, settings.setNamed name value = .ok changed) ↔
      ∃ key : SettingKey, key.name = name ∧ key.Takes value) ∧
    (∀ value, (assignNamed name value).run.run settings =
      settings.assigned (settings.setNamed name value)) ∧
    (∀ value changed, settings.setNamed name value = .ok changed →
      settings.Replaced name value changed) ∧
    ((∃ error, settings.getNamed name = .error error) ↔ name ∉ SettingKey.names) ∧
    SettingKey.names.mapM
      (fun name => (settings.getNamed name).map fun value => (name, value)) = .ok settings.list ∧
    (∀ other : Settings, other.list = settings.list → other = settings) ∧
    (∀ value, settings.getNamed name = .ok value →
      settings.setNamed name value =
        if name = SettingKey.filter.name ∧ Text.IsAllBlank settings.logging.filter then
          .error .blankFilter
        else .ok settings) := by
  refine ⟨?_, settings.assignNamed_eq name, ?_, ?_, settings.list_eq, ?_, ?_⟩
  · intro value
    constructor
    · rintro ⟨changed, done⟩
      obtain ⟨key, named, done⟩ := key_of_setNamed done
      exact ⟨key, named, set_succeeds.mp ⟨changed, done⟩⟩
    · rintro ⟨key, rfl, takes⟩
      rw [setNamed_name]
      exact set_succeeds.mpr takes
  · exact fun value changed => replaced_of_setNamed
  · constructor
    · rintro ⟨error, failed⟩ known
      obtain ⟨key, -, rfl⟩ := List.mem_map.mp known
      rw [getNamed_name] at failed
      cases failed
    · exact fun unknown => ⟨_, settings.getNamed_unknown unknown⟩
  · exact fun other same => list_injective same
  · intro value shown
    by_cases known : name ∈ SettingKey.names
    · obtain ⟨key, -, rfl⟩ := List.mem_map.mp known
      rw [getNamed_name] at shown
      cases shown
      rw [setNamed_name, set_get]
      congr 2
      cases key <;> decide
    · rw [settings.getNamed_unknown known] at shown
      cases shown

end Settings

end RecordLocks
