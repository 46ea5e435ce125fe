import CodexMustWork.RuntimeDocument

/-!
# Threshold settings

`scripts/threshold_settings.py`, with the reading side of
`scripts/calibration_state.py`: the thresholds a user selected, or those of an
accepted calibration, or the defaults.

A file is absent, or it is what loading it gives.  Reading and writing can raise
at each call, and raise an `OSError` or a `StateError`.
-/

namespace CodexMustWork

/-- The exceptions of the file operations, by the two classes the controls tell apart. -/
inductive StorageFailure where
  | osError
  | stateError
deriving DecidableEq, Repr

/-- A file with a document, or with the exception `load_state` raises on it. -/
abbrev StoredFile (α : Type) := Option (Except StorageFailure α)

/-- Read a file: whether it is there, then its document. -/
def readStored {α : Type} (fault : Option StorageFailure) (file : StoredFile α) :
    Except StorageFailure (Option α) :=
  match fault, file with
  | some failure, _ => .error failure
  | none, none => .ok none
  | none, some (.error failure) => .error failure
  | none, some (.ok values) => .ok (some values)

/-! ### Thresholds -/

/-- A validated warning and critical pair, in milliseconds. -/
structure ThresholdPair where
  warningAfterMs : Nat
  criticalAfterMs : Nat
  warning_pos : 0 < warningAfterMs
  ordered : warningAfterMs < criticalAfterMs
deriving DecidableEq

/-- `ThresholdValueError` and `ThresholdOrderError`. -/
inductive ThresholdFault where
  | value
  | order
deriving DecidableEq, Repr

/-- Return positive thresholds only when the critical one comes after the warning. -/
def validateThresholds (warning critical : Int) : Except ThresholdFault ThresholdPair :=
  if hpositive : 0 < warning ∧ 0 < critical then
    if hordered : warning < critical then
      .ok ⟨warning.toNat, critical.toNat, by omega, by omega⟩
    else .error .order
  else .error .value

theorem validateThresholds_pair (pair : ThresholdPair) :
    validateThresholds pair.warningAfterMs pair.criticalAfterMs = .ok pair := by
  obtain ⟨warning, critical, hpositive, hordered⟩ := pair
  have hboth : 0 < (warning : Int) ∧ 0 < (critical : Int) := by omega
  have hless : (warning : Int) < critical := by omega
  rw [validateThresholds, dif_pos hboth, dif_pos hless]
  rfl

def defaultWarningMs : Nat := 300000

def defaultCriticalMs : Nat := 600000

inductive ThresholdMode where
  | default
  | recommended
  | custom
deriving DecidableEq, Repr

namespace ThresholdMode

def value : ThresholdMode → String
  | .default => "default"
  | .recommended => "recommended"
  | .custom => "custom"

/-- `ThresholdMode(value)`. -/
def ofValue (text : String) : Option ThresholdMode :=
  [ThresholdMode.default, .recommended, .custom].find? fun mode => mode.value = text

@[simp] theorem ofValue_value (mode : ThresholdMode) : ofValue mode.value = some mode := by
  cases mode <;> rfl

end ThresholdMode

/-- One validated threshold pair ready for monitoring. -/
structure ThresholdSettingsSnapshot where
  mode : ThresholdMode
  pair : ThresholdPair
deriving DecidableEq

/-! ### Calibration -/

inductive CalibrationStatus where
  | pending
  | accepted
  | rejected
  | insufficient
  | unavailable
deriving DecidableEq, Repr

namespace CalibrationStatus

def value : CalibrationStatus → String
  | .pending => "pending"
  | .accepted => "accepted"
  | .rejected => "rejected"
  | .insufficient => "insufficient"
  | .unavailable => "unavailable"

/-- `CalibrationStatus(value)`. -/
def ofValue (text : String) : Option CalibrationStatus :=
  [CalibrationStatus.pending, .accepted, .rejected, .insufficient, .unavailable].find?
    fun status => status.value = text

end CalibrationStatus

/-- The document of `calibration.json`. -/
structure CalibrationValues where
  pluginVersion : Field String
  status : Field String
  sampleCount : Field Int
  warningAfterMs : Field Int
  restartAfterMs : Field Int
  reasonCode : Field String
deriving DecidableEq

/-- Machine-consumed calibration context. -/
structure CalibrationSnapshot where
  pluginVersion : String
  status : CalibrationStatus
  sampleCount : Nat
  warningAfterMs : Option Int
  restartAfterMs : Option Int
  reasonCode : Option String
deriving DecidableEq

/-- A member that may be missing, `null` or of its type. -/
def optionalMember {α : Type} : Field α → Option (Option α)
  | .absent | .null => some none
  | .value found => some (some found)
  | .mistyped => none

/-- `_load_snapshot`, on the values of the document. -/
def calibrationSnapshot (values : CalibrationValues) : Option CalibrationSnapshot :=
  match values.pluginVersion, values.status, values.sampleCount with
  | .value version, .value status, .value sampleCount =>
      match optionalMember values.warningAfterMs, optionalMember values.restartAfterMs,
          optionalMember values.reasonCode, CalibrationStatus.ofValue status with
      | some warning, some restart, some reason, some status =>
          if sampleCount < 0 then none
          else some ⟨version, status, sampleCount.toNat, warning, restart, reason⟩
      | _, _, _, _ => none
  | _, _, _ => none

/-! ### The store -/

/-- The document of `threshold-settings.json`. -/
structure ThresholdSettingsValues where
  mode : Field String
  warningAfterMs : Field Int
  criticalAfterMs : Field Int
deriving DecidableEq

/-- The two files the store reads. -/
structure ThresholdSettingsFiles where
  settings : StoredFile ThresholdSettingsValues := none
  calibration : StoredFile CalibrationValues := none

/-- Which file operations of one call raise; a save raises before its document is replaced,
    or behind it with the release of its lock. -/
structure SettingsFaults where
  settings : Option StorageFailure := none
  calibration : Option StorageFailure := none
  root : Option StorageFailure := none
  save : Option StorageFailure := none
  release : Option StorageFailure := none

/-- The lock of a saved document is released with what was saved, or by raising. -/
def SettingsFaults.leave {α : Type} (faults : SettingsFaults) (saved : α) :
    Except StorageFailure α :=
  match faults.release with
  | some failure => .error failure
  | none => .ok saved

/-- The reasons of `ThresholdSettingsError`. -/
inductive ThresholdSettingsError where
  | recommendationUnavailable
  | orderInvalid
deriving DecidableEq, Repr

def ThresholdSettingsError.reasonCode : ThresholdSettingsError → String
  | .recommendationUnavailable => "threshold_recommendation_unavailable"
  | .orderInvalid => "threshold_order_invalid"

/-- The exceptions of the store; one of the files may be raised when a selection is saved
    already. -/
inductive SettingsFailure where
  | settings (error : ThresholdSettingsError)
  | storage (failure : StorageFailure) (saved : Option ThresholdSettingsSnapshot := none)
deriving DecidableEq

namespace ThresholdSettingsStore

/-- `_default_snapshot`. -/
def defaultSnapshot : ThresholdSettingsSnapshot :=
  ⟨.default, ⟨defaultWarningMs, defaultCriticalMs, by decide, by decide⟩⟩

/-- `_snapshot`. -/
def snapshot (mode : ThresholdMode) (warning critical : Int) :
    Except SettingsFailure ThresholdSettingsSnapshot :=
  match validateThresholds warning critical with
  | .ok pair => .ok ⟨mode, pair⟩
  | .error _ => .error (.settings .orderInvalid)

/-- Read the stored recommendation state without scanning history. -/
def loadCalibrationSnapshot (faults : SettingsFaults) (files : ThresholdSettingsFiles) :
    Except StorageFailure (Option CalibrationSnapshot) :=
  match readStored faults.calibration files.calibration with
  | .error failure => .error failure
  | .ok none => .ok none
  | .ok (some values) =>
      match calibrationSnapshot values with
      | none => .error .stateError
      | some found => .ok (some found)

/-- `_stored_recommendation`. -/
def storedRecommendation (faults : SettingsFaults) (files : ThresholdSettingsFiles) :
    Except StorageFailure (Option (Int × Int)) :=
  match loadCalibrationSnapshot faults files with
  | .error failure => .error failure
  | .ok none => .ok none
  | .ok (some found) =>
      match found.warningAfterMs, found.restartAfterMs with
      | some warning, some restart => .ok (some (warning, restart))
      | _, _ => .ok none

/-- `_accepted_recommendation`. -/
def acceptedRecommendation (faults : SettingsFaults) (files : ThresholdSettingsFiles) :
    Except SettingsFailure (Option ThresholdSettingsSnapshot) :=
  match loadCalibrationSnapshot faults files with
  | .error failure => .error (.storage failure)
  | .ok none => .ok none
  | .ok (some found) =>
      match found.status, found.warningAfterMs, found.restartAfterMs with
      | .accepted, some warning, some restart => (snapshot .recommended warning restart).map some
      | _, _, _ => .ok none

/-- The selection a settings document holds. -/
def savedSnapshot (values : ThresholdSettingsValues) : Option ThresholdSettingsSnapshot :=
  match values.mode, values.warningAfterMs, values.criticalAfterMs with
  | .value text, .value warning, .value critical =>
      match ThresholdMode.ofValue text, validateThresholds warning critical with
      | some mode, .ok pair => some ⟨mode, pair⟩
      | _, _ => none
  | _, _, _ => none

/-- Return the saved selection, an accepted recommendation or the defaults. -/
def load (faults : SettingsFaults) (files : ThresholdSettingsFiles) :
    Except SettingsFailure ThresholdSettingsSnapshot :=
  match readStored faults.settings files.settings with
  | .error failure => .error (.storage failure)
  | .ok none => (acceptedRecommendation faults files).map fun accepted => accepted.getD defaultSnapshot
  | .ok (some values) =>
      match savedSnapshot values with
      | none => .error (.storage .stateError)
      | some found => .ok found

/-- The document of a selection. -/
def settingsDocument (selected : ThresholdSettingsSnapshot) : ThresholdSettingsValues where
  mode := .value selected.mode.value
  warningAfterMs := .value selected.pair.warningAfterMs
  criticalAfterMs := .value selected.pair.criticalAfterMs

/-- `_save`. -/
def save (faults : SettingsFaults) (files : ThresholdSettingsFiles)
    (selected : ThresholdSettingsSnapshot) :
    ThresholdSettingsFiles × Except SettingsFailure ThresholdSettingsSnapshot :=
  match faults.root, faults.save with
  | some failure, _ => (files, .error (.storage failure))
  | none, some failure => (files, .error (.storage failure))
  | none, none =>
      ({ files with settings := some (.ok (settingsDocument selected)) },
        (faults.leave selected).mapError fun failure => .storage failure selected)

/-- Persist the canonical 5m/10m selection. -/
def setDefault (faults : SettingsFaults) (files : ThresholdSettingsFiles) :
    ThresholdSettingsFiles × Except SettingsFailure ThresholdSettingsSnapshot :=
  save faults files defaultSnapshot

/-- Persist a pair once it is validated. -/
def saveSnapshot (faults : SettingsFaults) (files : ThresholdSettingsFiles) (mode : ThresholdMode)
    (warning critical : Int) :
    ThresholdSettingsFiles × Except SettingsFailure ThresholdSettingsSnapshot :=
  match snapshot mode warning critical with
  | .error failure => (files, .error failure)
  | .ok selected => save faults files selected

/-- Copy the current local-history recommendation into settings. -/
def setRecommended (faults : SettingsFaults) (files : ThresholdSettingsFiles) :
    ThresholdSettingsFiles × Except SettingsFailure ThresholdSettingsSnapshot :=
  match storedRecommendation faults files with
  | .error failure => (files, .error (.storage failure))
  | .ok none => (files, .error (.settings .recommendationUnavailable))
  | .ok (some (warning, critical)) => saveSnapshot faults files .recommended warning critical

/-- Persist one explicit positive ordered threshold pair. -/
def setCustom (faults : SettingsFaults) (files : ThresholdSettingsFiles) (warning critical : Int) :
    ThresholdSettingsFiles × Except SettingsFailure ThresholdSettingsSnapshot :=
  saveSnapshot faults files .custom warning critical

/-! ### What a call leaves -/

variable {faults : SettingsFaults} {files : ThresholdSettingsFiles}

/-- A save leaves the files and raises, or its selection is written; then it returns it, or
    raises with the release of the lock. -/
theorem save_cases (selected : ThresholdSettingsSnapshot) :
    (∃ failure, save faults files selected = (files, .error (.storage failure))) ∨
      save faults files selected =
        ({ files with settings := some (.ok (settingsDocument selected)) },
          (faults.leave selected).mapError fun failure => .storage failure selected) := by
  unfold save
  cases faults.root with
  | some failure => exact Or.inl ⟨failure, rfl⟩
  | none =>
      cases faults.save with
      | some failure => exact Or.inl ⟨failure, rfl⟩
      | none => exact Or.inr rfl

theorem SettingsFaults.leave_eq_ok {α : Type} {saved left : α}
    (hleft : faults.leave saved = .ok left) : left = saved := by
  unfold SettingsFaults.leave at hleft
  split at hleft
  · cases hleft
  · exact (Except.ok.inj hleft).symm

theorem savedSnapshot_document (selected : ThresholdSettingsSnapshot) :
    savedSnapshot (settingsDocument selected) = some selected := by
  simp [savedSnapshot, settingsDocument, validateThresholds_pair]

/-- **Round trip.**  What a set operation returns is what the store loads next. -/
theorem load_of_saved (selected : ThresholdSettingsSnapshot)
    (hsettings : files.settings = some (.ok (settingsDocument selected)))
    (hread : faults.settings = none) : load faults files = .ok selected := by
  simp [load, readStored, hsettings, hread, savedSnapshot_document]

end ThresholdSettingsStore

end CodexMustWork
