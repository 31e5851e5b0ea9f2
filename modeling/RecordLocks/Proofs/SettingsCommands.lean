import RecordLocks.CommandLine.Run
import RecordLocks.Proofs.SavedSettings
namespace RecordLocks

/-- The settings that are texts and not numbers. -/
def SettingKey.IsText (key : SettingKey) : Prop :=
  key = .filter ∨ key = .title ∨ key = .newTitle ∨ key = .rivalTitle

theorem idText_injective : Function.Injective idText := by
  intro m n same
  have digits : Decimal.chars m.toNat = Decimal.chars n.toNat := String.ofList_injective same
  have values := congrArg Decimal.value digits
  rw [Decimal.value_chars, Decimal.value_chars] at values
  exact UInt64.toNat.inj values

namespace Settings

variable {settings changed : Settings} {key other : SettingKey} {value : String}

theorem readNumber_eq_ok {n : UInt64} :
    readNumber key value = .ok n ↔ Decimal.readWord value = .ok n := by
  rw [readNumber]
  cases Decimal.readWord value with
  | ok _ =>
    show Except.ok _ = Except.ok n ↔ _
    simp
  | error _ =>
    show Except.error _ = Except.ok n ↔ _
    simp

theorem map_eq_ok {α β ε : Type} {read : Except ε α} {f : α → β} {result : β} :
    read.map f = .ok result ↔ ∃ a, read = .ok a ∧ f a = result := by
  cases read <;> simp [Except.map]

/-- What all settings show determines them. -/
theorem get_injective : Function.Injective get := by
  rintro ⟨⟨write, read⟩, ⟨filter⟩, ⟨book, title, newTitle, rivalTitle, probe, settle⟩⟩ other same
  have write : write = other.manager.writeDelay := idText_injective (congrFun same .writeDelay)
  have read : read = other.manager.readDelay := idText_injective (congrFun same .readDelay)
  have filter : filter = other.logging.filter := congrFun same .filter
  have book : book = other.demo.bookId := idText_injective (congrFun same .bookId)
  have title : title = other.demo.title := congrFun same .title
  have newTitle : newTitle = other.demo.newTitle := congrFun same .newTitle
  have rivalTitle : rivalTitle = other.demo.rivalTitle := congrFun same .rivalTitle
  have probe : probe = other.demo.probeDelay := idText_injective (congrFun same .probeDelay)
  have settle : settle = other.demo.settleDelay := idText_injective (congrFun same .settleDelay)
  rw [write, read, filter, book, title, newTitle, rivalTitle, probe, settle]

theorem get_set_other (done : settings.set key value = .ok changed) (different : other ≠ key) :
    changed.get other = settings.get other := by
  cases key with
  | writeDelay | readDelay | bookId | probeDelay | settleDelay =>
    obtain ⟨n, -, rfl⟩ := map_eq_ok.mp done
    cases other <;> simp_all [get]
  | title | newTitle | rivalTitle =>
    cases done
    cases other <;> simp_all [get]
  | filter =>
    simp only [set] at done
    split at done
    · cases done
    · cases done
      cases other <;> simp_all [get]

theorem get_set_text (done : settings.set key value = .ok changed) (text : key.IsText) :
    changed.get key = value := by
  rcases text with rfl | rfl | rfl | rfl
  · simp only [set] at done
    split at done
    · cases done
    · cases done
      rfl
  · cases done
    rfl
  · cases done
    rfl
  · cases done
    rfl

theorem get_set_number (done : settings.set key value = .ok changed) (number : ¬ key.IsText) :
    ∃ n, Decimal.readWord value = .ok n ∧ changed.get key = idText n := by
  cases key with
  | writeDelay | readDelay | bookId | probeDelay | settleDelay =>
    obtain ⟨n, read, rfl⟩ := map_eq_ok.mp done
    exact ⟨n, readNumber_eq_ok.mp read, rfl⟩
  | filter | title | newTitle | rivalTitle => simp [SettingKey.IsText] at number

end Settings

/-- One setting shows a new value and the others what they have shown, so that no other setting is
changed. -/
structure Settings.ChangedAt (settings : Settings) (name value : String) (changed : Settings) :
    Prop where
  named : ∃ key, SettingKey.ofName? name = some key ∧
    (key.IsText → changed.get key = value) ∧
    (¬ key.IsText → ∃ n, Decimal.readWord value = .ok n ∧ changed.get key = idText n) ∧
    ∀ other, other ≠ key → changed.get other = settings.get other

theorem Settings.changedAt_of_setNamed {settings changed : Settings} {name value : String}
    (done : settings.setNamed name value = .ok changed) :
    settings.ChangedAt name value changed := by
  rw [setNamed, findKey] at done
  cases found : SettingKey.ofName? name with
  | none => simp [found, bind, Except.bind] at done
  | some key =>
    have done : settings.set key value = .ok changed := by
      simpa [found, bind, Except.bind] using done
    exact ⟨key, found, get_set_text done, get_set_number done, fun _ => get_set_other done⟩

namespace SettingsFile

/-- No file is at the path. -/
def IsMissing (file : SettingsFile) : Prop := file.entry = .missing ∨ file.entry = .blocked

/-- No file is at the path, or one with valid settings. -/
def Sound (file : SettingsFile) : Prop :=
  file.IsMissing ∨ ∃ settings, file.load = .ok settings ∧ settings.Valid

variable {file after : SettingsFile} {settings : Settings}

theorem load_of_missing (missing : file.IsMissing) : file.load = .ok .standard := by
  rcases missing with missing | blocked
  · simp [load, missing]
  · simp [load, blocked]

theorem valid_standard : Settings.standard.Valid := ⟨by decide, by decide, by decide⟩

theorem valid_of_load (loaded : file.load = .ok settings) : settings.Valid := by
  simp only [load] at loaded
  split at loaded
  · cases loaded
    exact valid_standard
  · cases loaded
    exact valid_standard
  · cases loaded
  · split at loaded
    · cases loaded
    · split at loaded
      · cases loaded
      · obtain ⟨⟨⟩, valid, rfl⟩ := Settings.map_eq_ok.mp loaded
        exact (Settings.validate_eq_ok_iff _).mp valid

theorem sound_of_load (loaded : file.load = .ok settings) : file.Sound :=
  .inr ⟨settings, loaded, valid_of_load loaded⟩

/-- Settings that have been saved are loaded afterwards. -/
theorem load_of_save (saved : file.save settings = .ok after) :
    after.load = .ok settings ∧ after.path = file.path := by
  simp only [save] at saved
  split at saved
  · cases saved
  · rename_i valid
    split at saved
    · cases saved
    · split at saved
      · cases saved
      · rename_i text written
        split at saved
        · cases saved
        · have representable := Settings.representable_of_toToml? written
          rw [Settings.toToml?_of_representable representable] at written
          cases saved
          cases written
          exact ⟨load_put file valid representable, rfl⟩

theorem reset_ok (done : file.reset = .ok after) : after.IsMissing ∧ after.path = file.path := by
  simp only [reset] at done
  split at done
  · cases done
  · rename_i missing
    cases done
    exact ⟨.inl missing, rfl⟩
  · rename_i blocked
    cases done
    exact ⟨.inr blocked, rfl⟩
  · cases done
    exact ⟨.inl rfl, rfl⟩

end SettingsFile

namespace Report

/-- The ways in which a command on the settings can go. The program may find the filter for its
log unusable and stop there; and the disk may refuse to read or write the file, which then stays
as it is. -/
inductive Of (file : SettingsFile) (command : SettingsCommand) : Report → Prop
  | run (given : Option String) (arguments : List String) (quiet : Bool)
    (asked : Invocation.ofArguments arguments = .run quiet (.settings command)) :
    Of file command (ofRun given file arguments)
  | carriedOut (quiet : Bool) : Of file command (settingsReport file quiet command)
  | refused (quiet : Bool) :
    Of file command
      { settingsReport { file with entry := .directory } quiet command with file := file }

/-- The files that commands on the settings lead to. -/
inductive Reached (start : SettingsFile) : SettingsFile → Prop
  | start : Reached start start
  | command {file : SettingsFile} {command : SettingsCommand} {report : Report}
    (before : Reached start file) (of : Of file command report) : Reached start report.file

/-- What a command leaves of a file that is sound. -/
structure KeepsSettings (before : SettingsFile) (command : SettingsCommand) (report : Report) :
    Prop where
  sound : report.file.Sound
  path : report.file.path = before.path
  failed : report.exitCode ≠ 0 → report.file = before
  looked : (∀ key value, command ≠ .set key value) → command ≠ .reset → report.file = before
  changed : ∀ key value, command = .set key value → report.exitCode = 0 →
    ∃ settings changed, before.load = .ok settings ∧ report.file.load = .ok changed ∧
      settings.ChangedAt key value changed
  reset : command = .reset → report.exitCode = 0 →
    report.file.IsMissing ∧ report.file.load = .ok .standard

variable {file : SettingsFile} {command : SettingsCommand} {report : Report}

/-- A command that fails and leaves the file as it was keeps the settings. -/
theorem KeepsSettings.of_failure (sound : file.Sound) (same : report.file = file)
    (failed : report.exitCode ≠ 0) : KeepsSettings file command report := by
  refine ⟨same ▸ sound, same ▸ rfl, fun _ => same, fun _ _ => same, ?_, ?_⟩
  · exact fun _ _ _ success => absurd success failed
  · exact fun _ success => absurd success failed

theorem KeepsSettings.of_look (sound : file.Sound) (same : report.file = file)
    (noSet : ∀ key value, command ≠ .set key value) (noReset : command ≠ .reset) :
    KeepsSettings file command report := by
  refine ⟨same ▸ sound, same ▸ rfl, fun _ => same, fun _ _ => same, ?_, ?_⟩
  · exact fun key value set => absurd set (noSet key value)
  · exact fun reset => absurd reset noReset

theorem file_inspect (file : SettingsFile) (view : Settings → Except SettingsError String) :
    (inspect file view).file = file := by
  rw [inspect]
  split <;> rfl

theorem change_ok {key value : String} {after : SettingsFile}
    (done : change file key value = .ok after) :
    ∃ settings changed, file.load = .ok settings ∧ settings.setNamed key value = .ok changed ∧
      file.save changed = .ok after := by
  simp only [change, bind, Except.bind] at done
  split at done
  · cases done
  · rename_i settings loaded
    split at done
    · cases done
    · rename_i changed replaced
      exact ⟨settings, changed, loaded, replaced, done⟩

theorem settingsReport_keeps (sound : file.Sound) (quiet : Bool) (command : SettingsCommand) :
    KeepsSettings file command (settingsReport file quiet command) := by
  cases command with
  | showAll => exact .of_look sound (file_inspect file _) (by simp) (by simp)
  | get key => exact .of_look sound (file_inspect file _) (by simp) (by simp)
  | list => exact .of_look sound (file_inspect file _) (by simp) (by simp)
  | path => exact .of_look sound rfl (by simp) (by simp)
  | set key value =>
    rw [settingsReport]
    cases done : change file key value with
    | error error => exact .of_failure sound rfl (by simp [store, failure])
    | ok after =>
      obtain ⟨settings, changed, loaded, replaced, saved⟩ := change_ok done
      obtain ⟨reloaded, path⟩ := SettingsFile.load_of_save saved
      refine ⟨SettingsFile.sound_of_load reloaded, path, ?_, ?_, ?_, by simp⟩
      · exact fun failed => absurd rfl failed
      · exact fun noSet => absurd rfl (noSet key value)
      · rintro _ _ ⟨⟩ -
        exact ⟨settings, changed, loaded, reloaded, Settings.changedAt_of_setNamed replaced⟩
  | reset =>
    rw [settingsReport]
    cases done : file.reset with
    | error error => exact .of_failure sound rfl (by simp [store, failure])
    | ok after =>
      obtain ⟨missing, path⟩ := SettingsFile.reset_ok done
      refine ⟨.inl missing, path, ?_, ?_, by simp, ?_⟩
      · exact fun failed => absurd rfl failed
      · exact fun _ noReset => absurd rfl noReset
      · exact fun _ _ => ⟨missing, SettingsFile.load_of_missing missing⟩

theorem ofRun_keeps (sound : file.Sound) (given : Option String) {arguments : List String}
    {quiet : Bool} (asked : Invocation.ofArguments arguments = .run quiet (.settings command)) :
    KeepsSettings file command (ofRun given file arguments) := by
  simp only [ofRun, asked]
  split
  · exact settingsReport_keeps sound quiet command
  · exact .of_failure sound rfl (by simp [failure])
  · exact .of_failure sound rfl (by simp)

theorem refused_keeps (sound : file.Sound) (quiet : Bool) (command : SettingsCommand) :
    KeepsSettings file command
      { settingsReport { file with entry := .directory } quiet command with file := file } := by
  cases command with
  | showAll | get | list | path => exact .of_look sound rfl (by simp) (by simp)
  | set key value => exact .of_failure sound rfl Nat.one_ne_zero
  | reset => exact .of_failure sound rfl Nat.one_ne_zero

theorem Of.keeps (sound : file.Sound) (of : Of file command report) :
    KeepsSettings file command report := by
  cases of with
  | run given arguments quiet asked => exact ofRun_keeps sound given asked
  | carriedOut quiet => exact settingsReport_keeps sound quiet command
  | refused quiet => exact refused_keeps sound quiet command

theorem Reached.sound {start : SettingsFile} (sound : start.Sound) (reached : Reached start file) :
    file.Sound := by
  induction reached with
  | start => exact sound
  | command before of ih => exact (of.keeps ih).sound

/-- From a missing file or one that loads, commands on the settings never lead to a file that does
not. One that fails leaves the file as it was, and so does one that only looks at it. After a
setting has been replaced the file loads with this setting changed and no other, and after a reset
it loads with the standard ones. -/
theorem commands_keep_the_settings {start : SettingsFile}
    (begins : start.IsMissing ∨ ∃ settings, start.load = .ok settings)
    (reached : Reached start file) (of : Of file command report) :
    KeepsSettings file command report := by
  have sound : start.Sound := begins.imp_right fun ⟨settings, loaded⟩ =>
    ⟨settings, loaded, SettingsFile.valid_of_load loaded⟩
  exact of.keeps (reached.sound sound)

theorem commands_keep_the_settings_of_newTitle :
    SettingsFile.IsMissing ⟨"settings", .missing⟩ ∧
      Of ⟨"settings", .missing⟩ (.set "demo.title" "Dune")
        (ofRun none ⟨"settings", .missing⟩ ["config", "set", "demo.title", "Dune"]) ∧
      ∃ changed, (ofRun none ⟨"settings", .missing⟩
          ["config", "set", "demo.title", "Dune"]).file.load = .ok changed ∧
        changed.get .title = "Dune" ∧ changed.get .newTitle = "Harry Potter" := by
  have missing : SettingsFile.IsMissing ⟨"settings", .missing⟩ := .inl rfl
  have of : Of ⟨"settings", .missing⟩ (.set "demo.title" "Dune")
      (ofRun none ⟨"settings", .missing⟩ ["config", "set", "demo.title", "Dune"]) :=
    .run none _ false rfl
  have kept := commands_keep_the_settings (.inl missing) .start of
  have success : (ofRun none ⟨"settings", .missing⟩
      ["config", "set", "demo.title", "Dune"]).exitCode = 0 := by decide
  obtain ⟨settings, changed, loaded, reloaded, ⟨key, named, text, -, others⟩⟩ :=
    kept.changed _ _ rfl success
  cases named
  cases loaded
  exact ⟨missing, of, changed, reloaded, text (.inr (.inl rfl)), others .newTitle (by decide)⟩

end Report

end RecordLocks
