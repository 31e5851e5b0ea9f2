import RecordLocks.Proofs.SettingsCommands
namespace RecordLocks

namespace SettingsFile

/-- The filter of a file that loads is one that the log can use. A file that does not load has no
say in it. -/
def FilterUsable (file : SettingsFile) : Prop :=
  ∀ settings, file.load = .ok settings → LogFilter.check settings.logging.filter = .ok ()

variable {file : SettingsFile} {settings : Settings}

theorem check_standard : LogFilter.check LoggingSettings.standard.filter = .ok () := by
  decide

theorem usable_of_broken {error : SettingsError} (broken : file.load = .error error) :
    file.FilterUsable := by
  intro settings loaded
  rw [broken] at loaded
  cases loaded

theorem usable_of_missing (missing : file.IsMissing) : file.FilterUsable := by
  intro settings loaded
  rw [load_of_missing missing] at loaded
  cases loaded
  exact check_standard

theorem reset_of_writable (writable : file.Writable) :
    file.reset = .ok { file with entry := .missing } := by
  obtain ⟨directory, entry⟩ := file
  rcases writable with missing | ⟨bytes, content⟩
  · cases missing
    rfl
  · cases content
    rfl

end SettingsFile

namespace Report

variable {file : SettingsFile} {arguments : List String} {quiet : Bool} {command : Command}

/-- Without a filter from outside, the log takes that of the file. -/
theorem checkFilter_eq_ok : checkFilter file none = .ok () ↔ file.FilterUsable := by
  have taken : checkFilter file none = LogFilter.check (settingsFilter file) := rfl
  rw [taken, settingsFilter]
  cases loaded : file.load with
  | error error =>
    exact ⟨fun _ => SettingsFile.usable_of_broken loaded, fun _ => SettingsFile.check_standard⟩
  | ok settings =>
    constructor
    · intro usable other same
      rw [loaded] at same
      cases same
      exact usable
    · intro usable
      exact usable settings loaded

theorem ofRun_of_usable (usable : file.FilterUsable)
    (asked : Invocation.ofArguments arguments = .run quiet command) :
    ofRun none file arguments = ofCommand file quiet command := by
  simp only [ofRun, asked, checkFilter_eq_ok.mpr usable]

/-- Without a usable filter no command is carried out. -/
theorem ofRun_of_unusable (unusable : ¬ file.FilterUsable)
    (asked : Invocation.ofArguments arguments = .run quiet command) :
    (ofRun none file arguments).exitCode ≠ 0 ∧ (ofRun none file arguments).printed = [] ∧
      (ofRun none file arguments).file = file := by
  simp only [ofRun, asked]
  cases checked : checkFilter file none with
  | ok => exact absurd (checkFilter_eq_ok.mp checked) unusable
  | error fault =>
    cases fault with
    | malformed => exact ⟨Nat.one_ne_zero, rfl, rfl⟩
    | torn => exact ⟨by simp, rfl, rfl⟩

theorem succeeds_iff {text : String} {after : SettingsFile}
    (succeeds : ofCommand file quiet command = .success after text)
    (asked : Invocation.ofArguments arguments = .run quiet command) :
    (ofRun none file arguments).exitCode = 0 ↔ file.FilterUsable := by
  constructor
  · intro success
    by_contra unusable
    exact (ofRun_of_unusable unusable asked).1 success
  · intro usable
    rw [ofRun_of_usable usable asked, succeeds]
    rfl

/-- Where no file is, each setting shows its standard value. -/
theorem get_of_missing (missing : file.IsMissing) (key : SettingKey) :
    ofRun none file ["config", "get", key.name] =
      .success file (Settings.standard.get key ++ "\n") := by
  have asked : Invocation.ofArguments ["config", "get", key.name] =
      .run false (.settings (.get key.name)) := by
    cases key <;> rfl
  have shown : Settings.standard.getNamed key.name = .ok (Settings.standard.get key) := by
    cases key <;> rfl
  rw [ofRun_of_usable (SettingsFile.usable_of_missing missing) asked]
  simp only [ofCommand, settingsReport, inspect, SettingsFile.load_of_missing missing, Except.bind,
    shown, Except.map]

/-- A file that does not load, whatever is in it, does not keep the path of the settings from being
shown nor the settings from being reset. Both work exactly if the file does not load or its filter
can be used: then the path is shown and the file is left alone, and after a reset the file is gone
and every setting has its standard value. A filter that the settings accept and the log cannot use
keeps every command from being carried out. -/
theorem path_and_reset_need_usable_filter (file : SettingsFile) (regular : file.Writable) :
    ((∃ error, file.load = .error error) → file.FilterUsable) ∧
    (∀ arguments quiet, Invocation.ofArguments arguments = .run quiet (.settings .path) →
      ((ofRun none file arguments).exitCode = 0 ↔ file.FilterUsable) ∧
      (file.FilterUsable → ofRun none file arguments = .success file (file.path ++ "\n"))) ∧
    (∀ arguments quiet, Invocation.ofArguments arguments = .run quiet (.settings .reset) →
      ((ofRun none file arguments).exitCode = 0 ↔ file.FilterUsable) ∧
      (file.FilterUsable →
        (ofRun none file arguments).file = { file with entry := .missing } ∧
        ∀ key : SettingKey, ofRun none (ofRun none file arguments).file
            ["config", "get", key.name] =
          .success { file with entry := .missing } (Settings.standard.get key ++ "\n"))) ∧
    (¬ file.FilterUsable → ∀ arguments quiet command,
      Invocation.ofArguments arguments = .run quiet command →
      (ofRun none file arguments).printed = [] ∧ (ofRun none file arguments).file = file) := by
  refine ⟨?_, ?_, ?_, ?_⟩
  · rintro ⟨error, broken⟩
    exact SettingsFile.usable_of_broken broken
  · intro arguments quiet asked
    have shows : ofCommand file quiet (.settings .path) = .success file (file.path ++ "\n") := rfl
    refine ⟨succeeds_iff shows asked, ?_⟩
    intro usable
    rw [ofRun_of_usable usable asked, shows]
  · intro arguments quiet asked
    have resets : ofCommand file quiet (.settings .reset) =
        .success { file with entry := .missing }
          (unlessQuiet quiet "Configuration reset to defaults.\n") := by
      simp only [ofCommand, settingsReport, SettingsFile.reset_of_writable regular, store]
    refine ⟨succeeds_iff resets asked, ?_⟩
    intro usable
    rw [ofRun_of_usable usable asked, resets]
    exact ⟨rfl, get_of_missing (.inl rfl)⟩
  · intro unusable arguments quiet command asked
    exact (ofRun_of_unusable unusable asked).2

/-- A file that is no text. -/
def garbled : SettingsFile := ⟨"settings", .content ⟨#[0xFF]⟩⟩

theorem path_and_reset_need_usable_filter_of_garbled :
    garbled.Writable ∧ garbled.load = .error (.unreadable "settings/config.toml") ∧
      (ofRun none garbled ["config", "path"]).output = "settings/config.toml\n" ∧
      (ofRun none garbled ["config", "reset"]).exitCode = 0 ∧
      (ofRun none garbled ["config", "reset"]).file.entry = .missing := by
  have writable : garbled.Writable := .inr ⟨_, rfl⟩
  have broken : garbled.load = .error (.unreadable "settings/config.toml") := by decide
  obtain ⟨always, shows, resets, -⟩ := path_and_reset_need_usable_filter garbled writable
  have usable := always ⟨_, broken⟩
  have shown := (shows ["config", "path"] false rfl).2 usable
  obtain ⟨success, reset⟩ := resets ["config", "reset"] false rfl
  refine ⟨writable, broken, ?_, success.mpr usable, ?_⟩
  · rw [shown]
    decide
  · rw [(reset usable).1]

/-- A file with a filter in which a directive has two levels. -/
def twoLevels : SettingsFile :=
  ⟨"settings", .content "[logging]\nfilter = 'a=b=c'\n".toUTF8⟩

def twoLevelSettings : Settings := { Settings.standard with logging.filter := "a=b=c" }

theorem load_twoLevels : twoLevels.load = .ok twoLevelSettings := by
  have read : Settings.ofToml? "[logging]\nfilter = 'a=b=c'\n" = some twoLevelSettings := by
    decide +kernel
  have valid : twoLevelSettings.validate = .ok () := by decide
  simp only [SettingsFile.load, twoLevels, fromUTF8?_toUTF8, read, valid, Except.map]

/-- Such a file loads, and it can neither be found nor be reset. -/
theorem twoLevels_block_reset :
    twoLevels.Writable ∧ twoLevels.load = .ok twoLevelSettings ∧
      (ofRun none twoLevels ["config", "path"]).exitCode = 1 ∧
      (ofRun none twoLevels ["config", "path"]).output = "" ∧
      (ofRun none twoLevels ["config", "reset"]).exitCode = 1 ∧
      (ofRun none twoLevels ["config", "reset"]).file = twoLevels := by
  have checked : checkFilter twoLevels none = .error .malformed := by
    have taken : checkFilter twoLevels none = LogFilter.check (settingsFilter twoLevels) := rfl
    rw [taken, settingsFilter, load_twoLevels]
    decide
  have path : Invocation.ofArguments ["config", "path"] = .run false (.settings .path) := rfl
  have reset : Invocation.ofArguments ["config", "reset"] = .run false (.settings .reset) := rfl
  simp only [ofRun, path, reset, checked]
  exact ⟨.inr ⟨_, rfl⟩, load_twoLevels, rfl, rfl, rfl, rfl⟩

end Report

end RecordLocks
