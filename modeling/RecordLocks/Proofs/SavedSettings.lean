import RecordLocks.Proofs.SettingsText
namespace RecordLocks

theorem fromUTF8?_toUTF8 (text : String) : String.fromUTF8? text.toUTF8 = some text :=
  dif_pos text.isValidUTF8

namespace SettingsFile

/-- There is a file at the path or nothing at all, so that a file can be written there. -/
def Writable (file : SettingsFile) : Prop :=
  file.entry = .missing ∨ ∃ bytes, file.entry = .content bytes

/-- Work on the file, which may fail and leaves a file in any case. -/
abbrev Work := SettingsFile → Except SettingsError Unit × SettingsFile

/-- The second work is done on what the first one leaves, if that has not failed. -/
def Work.andThen (first second : Work) : Work := fun file =>
  match first file with
  | (.error error, after) => (.error error, after)
  | (.ok (), after) => second after

def checkSettings (settings : Settings) : Work := fun file => (settings.validate, file)

def makeDirectory : Work := fun file =>
  if file.entry = .blocked then (.error (.noDirectory (Location.trim file.directory)), file)
  else (.ok (), file)

def writeText (text : String) : Work := fun file =>
  if file.entry = .directory then (.error (.unwritable file.path), file)
  else (.ok (), file.put text)

def writeSettings (settings : Settings) : Work := fun file =>
  match settings.toToml? with
  | none => (.error .notRepresentable, file)
  | some text => writeText text file

/-- The settings are checked, the directory is made, the text is composed and then written. -/
def saveInSteps (settings : Settings) : Work :=
  (checkSettings settings).andThen (makeDirectory.andThen (writeSettings settings))

variable {file : SettingsFile} {settings : Settings}

/-- Nothing is written before all that can fail has been done. -/
theorem saveInSteps_eq (settings : Settings) (file : SettingsFile) :
    saveInSteps settings file =
      match file.save settings with
      | .ok after => (.ok (), after)
      | .error error => (.error error, file) := by
  simp only [saveInSteps, Work.andThen, checkSettings, makeDirectory, writeSettings, writeText,
    save]
  cases settings.validate with
  | error error => rfl
  | ok =>
    by_cases blocked : file.entry = .blocked
    · simp [blocked]
    · cases settings.toToml? with
      | none => simp [blocked]
      | some text =>
        by_cases directory : file.entry = .directory
        · simp [directory]
        · simp [blocked, directory]

theorem save_of_invalid {error : SettingsError} (invalid : settings.validate = .error error) :
    file.save settings = .error error := by
  simp only [save, invalid]

theorem toToml?_of_unrepresentable (unrepresentable : ¬ settings.Representable) :
    settings.toToml? = none := by
  cases written : settings.toToml? with
  | none => rfl
  | some text => exact absurd (Settings.representable_of_toToml? written) unrepresentable

theorem save_of_unrepresentable (writable : file.Writable) (valid : settings.validate = .ok ())
    (unrepresentable : ¬ settings.Representable) :
    file.save settings = .error .notRepresentable := by
  have clear : file.entry ≠ .blocked := by
    rcases writable with missing | ⟨bytes, content⟩
    · simp [missing]
    · simp [content]
  simp only [save, valid, if_neg clear, toToml?_of_unrepresentable unrepresentable]

theorem save_of_representable (writable : file.Writable) (valid : settings.validate = .ok ())
    (representable : settings.Representable) :
    file.save settings = .ok (file.put (String.join settings.lines)) := by
  have clear : file.entry ≠ .blocked ∧ file.entry ≠ .directory := by
    rcases writable with missing | ⟨bytes, content⟩
    · simp [missing]
    · simp [content]
  simp only [save, valid, if_neg clear.1, if_neg clear.2,
    Settings.toToml?_of_representable representable]

theorem load_put (file : SettingsFile) (valid : settings.validate = .ok ())
    (representable : settings.Representable) :
    (file.put (String.join settings.lines)).load = .ok settings := by
  simp only [load, put, fromUTF8?_toUTF8, Settings.ofToml?_lines representable, valid, Except.map]

/-- At a path where a file can be written, settings are saved if and only if they are valid and
their numbers can be written, and what is loaded from there afterwards are these settings. When
they are not saved, what stands at the path has not been touched. -/
theorem saving_is_exact (file : SettingsFile) (settings : Settings) (writable : file.Writable) :
    ((∃ after, file.save settings = .ok after) ↔
      settings.validate = .ok () ∧ settings.Representable) ∧
    (∀ after, file.save settings = .ok after →
      saveInSteps settings file = (.ok (), after) ∧ after.path = file.path ∧
        after.load = .ok settings) ∧
    (∀ error, file.save settings = .error error →
      saveInSteps settings file = (.error error, file)) := by
  have steps := saveInSteps_eq settings file
  cases valid : settings.validate with
  | error reason =>
    have refused : file.save settings = .error reason := save_of_invalid valid
    rw [refused] at steps ⊢
    simp [steps]
  | ok =>
    by_cases representable : settings.Representable
    · have saved := save_of_representable writable valid representable
      have loaded := load_put file valid representable
      rw [saved] at steps ⊢
      refine ⟨⟨fun _ => ⟨rfl, representable⟩, fun _ => ⟨_, rfl⟩⟩, ?_, ?_⟩
      · rintro after ⟨⟩
        exact ⟨steps, rfl, loaded⟩
      · rintro error ⟨⟩
    · have refused := save_of_unrepresentable writable valid representable
      rw [refused] at steps ⊢
      simp [steps, representable]

/-- Titles for which each way to quote a text is needed, and the greatest number. -/
def oddSettings : Settings :=
  ⟨.standard, ⟨"a=\\b"⟩,
    ⟨9223372036854775807, "\"both\" of 'them'", "\r\n\"\"\"\x01", "''\\é''", 1000, 2000⟩⟩

theorem saving_is_exact_of_oddSettings :
    Writable ⟨"settings", .missing⟩ ∧
      ∃ after, save ⟨"settings", .missing⟩ oddSettings = .ok after ∧
        after.load = .ok oddSettings := by
  have writable : Writable ⟨"settings", .missing⟩ := .inl rfl
  obtain ⟨saves, kept, -⟩ := saving_is_exact _ oddSettings writable
  have valid : oddSettings.validate = .ok () :=
    (Settings.validate_eq_ok_iff oddSettings).mpr ⟨by decide, by decide, by decide⟩
  obtain ⟨after, saved⟩ := saves.mpr ⟨valid, by decide⟩
  exact ⟨writable, after, saved, (kept after saved).2.2⟩

end SettingsFile

end RecordLocks
