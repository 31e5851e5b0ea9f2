import RecordLocks.Proofs.KeyedSettings
namespace RecordLocks

namespace Settings

def adopt (goal settings : Settings) : SettingKey → Settings
  | .writeDelay => { settings with manager.writeDelay := goal.manager.writeDelay }
  | .readDelay => { settings with manager.readDelay := goal.manager.readDelay }
  | .filter => { settings with logging.filter := goal.logging.filter }
  | .bookId => { settings with demo.bookId := goal.demo.bookId }
  | .title => { settings with demo.title := goal.demo.title }
  | .newTitle => { settings with demo.newTitle := goal.demo.newTitle }
  | .rivalTitle => { settings with demo.rivalTitle := goal.demo.rivalTitle }
  | .probeDelay => { settings with demo.probeDelay := goal.demo.probeDelay }
  | .settleDelay => { settings with demo.settleDelay := goal.demo.settleDelay }

variable {goal settings : Settings} {keys : List SettingKey}

theorem set_adopt (valid : goal.Valid) (settings : Settings) (key : SettingKey) :
    settings.set key (goal.get key) = .ok (goal.adopt settings key) := by
  cases key with
  | writeDelay | readDelay | bookId | probeDelay | settleDelay =>
    simp only [set, get, readNumber_idText]
    rfl
  | title | newTitle | rivalTitle => rfl
  | filter => exact if_neg valid.filter

theorem representable_adopt (start : settings.Representable) (finish : goal.Representable)
    (key : SettingKey) : (goal.adopt settings key).Representable := by
  rw [representable_iff] at start finish ⊢
  obtain ⟨write, read, book, probe, settle⟩ := start
  obtain ⟨write', read', book', probe', settle'⟩ := finish
  cases key <;> simp only [adopt] <;> simp_all

/-- The settings turn into others by taking over one after another, and are valid all the way. -/
inductive Route (goal : Settings) : Settings → List SettingKey → Prop
  | arrived : Route goal goal []
  | adopt {settings : Settings} {key : SettingKey} {keys : List SettingKey}
    (valid : (goal.adopt settings key).Valid)
    (further : Route goal (goal.adopt settings key) keys) : Route goal settings (key :: keys)

/-- The settings that have nothing to do with the order of the delays. -/
def freeKeys : List SettingKey := [.readDelay, .filter, .bookId, .title, .newTitle, .rivalTitle]

/-- With the delays of the goal, the others can be taken over in any order. -/
theorem route_free (finish : goal.Valid) (valid : settings.Valid)
    (write : settings.manager.writeDelay = goal.manager.writeDelay)
    (probe : settings.demo.probeDelay = goal.demo.probeDelay)
    (settle : settings.demo.settleDelay = goal.demo.settleDelay) :
    Route goal settings freeKeys := by
  obtain ⟨⟨_, read⟩, ⟨filter⟩, ⟨book, title, newTitle, rivalTitle, _, _⟩⟩ := settings
  cases write
  cases probe
  cases settle
  have early := finish.probe
  have late := finish.settle
  exact .adopt ⟨valid.filter, early, late⟩ <| .adopt ⟨finish.filter, early, late⟩ <|
    .adopt ⟨finish.filter, early, late⟩ <| .adopt ⟨finish.filter, early, late⟩ <|
    .adopt ⟨finish.filter, early, late⟩ <| .adopt ⟨finish.filter, early, late⟩ .arrived

/-- A longer write first needs a later reading after it, a shorter one an earlier probe in it. -/
theorem exists_route (start : settings.Valid) (finish : goal.Valid) :
    ∃ keys, keys.Perm SettingKey.all ∧ Route goal settings keys := by
  rcases UInt64.le_or_lt settings.manager.writeDelay goal.manager.writeDelay with longer | shorter
  · refine ⟨.settleDelay :: .writeDelay :: .probeDelay :: freeKeys, by decide, ?_⟩
    have settled : (goal.adopt settings .settleDelay).Valid :=
      ⟨start.filter, start.probe, UInt64.lt_of_le_of_lt longer finish.settle⟩
    have written : (goal.adopt (goal.adopt settings .settleDelay) .writeDelay).Valid :=
      ⟨start.filter, UInt64.lt_of_lt_of_le start.probe longer, finish.settle⟩
    have probed : (goal.adopt (goal.adopt (goal.adopt settings .settleDelay) .writeDelay)
        .probeDelay).Valid := ⟨start.filter, finish.probe, finish.settle⟩
    exact .adopt settled (.adopt written (.adopt probed (route_free finish probed rfl rfl rfl)))
  · refine ⟨.probeDelay :: .writeDelay :: .settleDelay :: freeKeys, by decide, ?_⟩
    have probed : (goal.adopt settings .probeDelay).Valid :=
      ⟨start.filter, UInt64.lt_trans finish.probe shorter, start.settle⟩
    have written : (goal.adopt (goal.adopt settings .probeDelay) .writeDelay).Valid :=
      ⟨start.filter, finish.probe, UInt64.lt_trans shorter start.settle⟩
    have settled : (goal.adopt (goal.adopt (goal.adopt settings .probeDelay) .writeDelay)
        .settleDelay).Valid := ⟨start.filter, finish.probe, finish.settle⟩
    exact .adopt probed (.adopt written (.adopt settled (route_free finish settled rfl rfl rfl)))

end Settings

namespace Report

def changeAll (file : SettingsFile) (changes : List (String × String)) :
    Except SettingsError SettingsFile :=
  changes.foldlM (fun file (key, value) => change file key value) file

variable {file : SettingsFile} {settings goal : Settings} {keys : List SettingKey}

theorem change_adopt (writable : file.Writable) (loaded : file.load = .ok settings)
    (finish : goal.Valid) {key : SettingKey} (valid : (goal.adopt settings key).Valid)
    (representable : (goal.adopt settings key).Representable) :
    change file key.name (goal.get key) =
      .ok (file.put (String.join (goal.adopt settings key).lines)) := by
  have accepted := (Settings.validate_eq_ok_iff _).mpr valid
  simp only [change, loaded, Settings.setNamed_name, Settings.set_adopt finish, bind, Except.bind]
  exact SettingsFile.save_of_representable writable accepted representable

/-- Along a route each change succeeds, and what is in the file is valid after each. -/
theorem changeAll_route (finish : goal.Valid) (representable : goal.Representable)
    (route : goal.Route settings keys) (writable : file.Writable)
    (loaded : file.load = .ok settings) (start : settings.Representable) (count : Nat) :
    ∃ between visited,
      changeAll file ((keys.take count).map fun key => (key.name, goal.get key)) = .ok between ∧
        between.load = .ok visited ∧ visited.Valid ∧ (keys.length ≤ count → visited = goal) := by
  induction route generalizing file count with
  | arrived =>
    exact ⟨file, goal, by simp [changeAll, pure, Except.pure], loaded, finish, fun _ => rfl⟩
  | @adopt settings key keys valid further ih =>
    cases count with
    | zero => exact ⟨file, settings, rfl, loaded, SettingsFile.valid_of_load loaded, by simp⟩
    | succ count =>
      have next := Settings.representable_adopt start representable key
      have changed := change_adopt writable loaded finish valid next
      have reloaded := SettingsFile.load_put file ((Settings.validate_eq_ok_iff _).mpr valid) next
      obtain ⟨between, visited, made, shown, good, last⟩ := ih (.inr ⟨_, rfl⟩) reloaded next count
      refine ⟨between, visited, ?_, shown, good, by simpa using last⟩
      simp only [List.take_succ_cons, List.map_cons, changeAll, List.foldlM_cons, changed]
      exact made

/-- From any valid settings in a file any others can be reached by setting each of them once, in
an order in which no change is refused and the file stays valid after each. -/
theorem valid_settings_are_reachable (file : SettingsFile) (writable : file.Writable)
    (settings goal : Settings) (start : settings.validate = .ok ())
    (finish : goal.validate = .ok ()) (small : settings.Representable)
    (goalSmall : goal.Representable) :
    ∃ begun, file.save settings = .ok begun ∧ begun.load = .ok settings ∧
      ∃ changes : List (String × String), (changes.map Prod.fst).Perm SettingKey.names ∧
        (∃ after, changeAll begun changes = .ok after ∧ after.load = .ok goal) ∧
        ∀ count, ∃ between visited, changeAll begun (changes.take count) = .ok between ∧
          between.load = .ok visited ∧ visited.Valid := by
  have saved := SettingsFile.save_of_representable writable start small
  have loaded := SettingsFile.load_put file start small
  have begins := (Settings.validate_eq_ok_iff _).mp start
  have ends := (Settings.validate_eq_ok_iff _).mp finish
  obtain ⟨keys, each, route⟩ := Settings.exists_route begins ends
  have steps := changeAll_route ends goalSmall route (.inr ⟨_, rfl⟩) loaded small
  refine ⟨_, saved, loaded, keys.map fun key => (key.name, goal.get key), ?_, ?_, ?_⟩
  · rw [List.map_map]
    exact each.map SettingKey.name
  · obtain ⟨after, visited, made, shown, -, last⟩ := steps keys.length
    rw [List.take_length] at made
    rw [last (Nat.le_refl _)] at shown
    exact ⟨after, made, shown⟩
  · intro count
    obtain ⟨between, visited, made, shown, good, -⟩ := steps count
    rw [List.map_take] at made
    exact ⟨between, visited, made, shown, good⟩

/-- The latest times that a file can tell of. -/
def latestSettings : Settings :=
  { Settings.standard with
    manager.writeDelay := 9223372036854775806
    demo.probeDelay := 9223372036854775805
    demo.settleDelay := 9223372036854775807 }

/-- The earliest times, among texts that have to be quoted in different ways. -/
def earliestSettings : Settings :=
  ⟨⟨1, 9223372036854775807⟩, ⟨" é"⟩, ⟨0, "", "\x07", "'''\"\"\"", 0, 2⟩⟩

theorem valid_settings_are_reachable_of_latest :
    SettingsFile.Writable ⟨"settings", .missing⟩ ∧ latestSettings.validate = .ok () ∧
      earliestSettings.validate = .ok () ∧ latestSettings.Representable ∧
      earliestSettings.Representable ∧
      ∃ begun changes after, SettingsFile.save ⟨"settings", .missing⟩ latestSettings = .ok begun ∧
        changeAll begun changes = .ok after ∧ after.load = .ok earliestSettings := by
  have writable : SettingsFile.Writable ⟨"settings", .missing⟩ := .inl rfl
  have start : latestSettings.validate = .ok () :=
    (Settings.validate_eq_ok_iff _).mpr ⟨by decide, by decide, by decide⟩
  have finish : earliestSettings.validate = .ok () :=
    (Settings.validate_eq_ok_iff _).mpr ⟨by decide, by decide, by decide⟩
  have small : latestSettings.Representable := by decide
  have goalSmall : earliestSettings.Representable := by decide
  obtain ⟨begun, saved, -, changes, -, ⟨after, made, shown⟩, -⟩ :=
    valid_settings_are_reachable ⟨"settings", .missing⟩ writable latestSettings earliestSettings
      start finish small goalSmall
  exact ⟨writable, start, finish, small, goalSmall, begun, changes, after, saved, made, shown⟩

end Report

end RecordLocks
