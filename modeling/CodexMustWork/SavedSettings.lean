import CodexMustWork.Calibration
import CodexMustWork.Library.Machine
import CodexMustWork.McpAnswers

/-!
# Saved settings and starts

The writers of `scripts/calibration_state.py` beside the settings tool: what the store
holds after any history of scans, answers and calls, and whether a start accepts the
thresholds it shows.

A scan gives gaps or fails, and the recommendation made of it has no upper bound, while a
start accepts a week at most.
-/

namespace CodexMustWork

/-! ### Calibration state -/

/-- Explicit answers accepted by the calibration command. -/
inductive CalibrationDecision where
  | accept
  | reject
deriving DecidableEq, Repr

/-- `_snapshot_from_outcome`. -/
def snapshotFromOutcome (version : String) : CalibrationOutcome → CalibrationSnapshot
  | .recommendation sampleCount warning restart =>
      ⟨version, .pending, sampleCount, some warning, some restart, none⟩
  | .insufficient sampleCount => ⟨version, .insufficient, sampleCount, none, none, none⟩
  | .unavailable reasonCode => ⟨version, .unavailable, 0, none, none, some reasonCode⟩

/-- A member that is `null` where nothing is known. -/
def nullableMember {α : Type} : Option α → Field α
  | none => .null
  | some found => .value found

/-- The document `_save_snapshot` writes. -/
def calibrationDocument (found : CalibrationSnapshot) : CalibrationValues where
  pluginVersion := .value found.pluginVersion
  status := .value found.status.value
  sampleCount := .value found.sampleCount
  warningAfterMs := nullableMember found.warningAfterMs
  restartAfterMs := nullableMember found.restartAfterMs
  reasonCode := nullableMember found.reasonCode

namespace ThresholdSettingsStore

/-- `_save_snapshot`. -/
def saveCalibration (faults : SettingsFaults) (files : ThresholdSettingsFiles)
    (found : CalibrationSnapshot) :
    ThresholdSettingsFiles × Except StorageFailure CalibrationSnapshot :=
  match faults.save with
  | some failure => (files, .error failure)
  | none => ({ files with calibration := some (.ok (calibrationDocument found)) }, faults.leave found)

/-- Reuse this version's decision or perform its one bounded scan. -/
def loadOrCalibrate (faults : SettingsFaults) (version : Except StorageFailure String)
    (scanner : CalibrationOutcome) (files : ThresholdSettingsFiles) :
    ThresholdSettingsFiles × Except StorageFailure CalibrationSnapshot :=
  match faults.root, version, loadCalibrationSnapshot faults files with
  | some failure, _, _ => (files, .error failure)
  | none, .error failure, _ => (files, .error failure)
  | none, .ok _, .error failure => (files, .error failure)
  | none, .ok version, .ok stored =>
      match stored.filter fun found => found.pluginVersion = version with
      | some found => (files, .ok found)
      | none => saveCalibration faults files (snapshotFromOutcome version scanner)

/-- Persist an explicit answer for the current pending recommendation. -/
def recordDecision (faults : SettingsFaults) (version : String) (decision : CalibrationDecision)
    (files : ThresholdSettingsFiles) :
    ThresholdSettingsFiles × Except StorageFailure CalibrationSnapshot :=
  match faults.root, loadCalibrationSnapshot faults files with
  | some failure, _ => (files, .error failure)
  | none, .error failure => (files, .error failure)
  | none, .ok none => (files, .error .osError)
  | none, .ok (some found) =>
      if found.pluginVersion ≠ version ∨ found.status ≠ .pending then (files, .error .stateError)
      else
        saveCalibration faults files
          { found with
            status := match decision with
              | .accept => .accepted
              | .reject => .rejected
            reasonCode := none }

end ThresholdSettingsStore

/-! ### Histories -/

/-- What a scan of the history finds: gaps, or a failure. -/
inductive HistoryScan where
  | found (gaps : List ℤ)
  | failed (reasonCode : String)

/-- `scan_history`. -/
def HistoryScan.outcome : HistoryScan → CalibrationOutcome
  | .found gaps => recommendThresholds gaps
  | .failed reasonCode => .unavailable reasonCode

/-- What happens to the store. -/
inductive SettingsEvent where
  | calibrate (faults : SettingsFaults) (version : Except StorageFailure String)
      (scan : HistoryScan)
  | decide (faults : SettingsFaults) (version : String) (decision : CalibrationDecision)
  | call (env : LineEnvironment) (arguments : JsonObject) (requestId : Option JsonRpcId)

namespace McpServer

open ThresholdSettingsStore

/-- The store of the server, moved by one event. -/
def settingsMachine : Machine McpServer SettingsEvent Unit where
  step server
    | .calibrate faults version scan =>
        ({ server with settings := (loadOrCalibrate faults version scan.outcome server.settings).1 },
          ())
    | .decide faults version decision =>
        ({ server with settings := (recordDecision faults version decision server.settings).1 }, ())
    | .call env arguments requestId =>
        ((callThresholdSettings env arguments requestId ⟨server, []⟩).1.server, ())

/-- The scans of a history are among some. -/
def SettingsEvent.ScansAmong (scans : Set HistoryScan) : SettingsEvent → Prop
  | .calibrate _ _ scan => scan ∈ scans
  | _ => True

/-! ### Starting with a pair -/

/-- The arguments of a start with a pair of thresholds. -/
def startArguments (sessionId transcript turn : ToolText) (pair : ThresholdPair) : JsonObject :=
  [("session_id", jsonText sessionId.val), ("transcript_path", jsonText transcript.val),
    ("activation_turn_id", jsonText turn.val), ("warning_after_ms", .integer pair.warningAfterMs),
    ("critical_after_ms", .integer pair.criticalAfterMs)]

/-- A start accepts the pair as it is. -/
def Startable (pair : ThresholdPair) : Prop :=
  ∀ (sessionId transcript turn : ToolText) (requestId : Option JsonRpcId)
    (renderPath : String → String), ∃ parsed,
      parseStartRequest (startArguments sessionId transcript turn pair) requestId renderPath =
        .ok parsed ∧
      parsed.request.warningAfterMs = pair.warningAfterMs ∧
      parsed.request.criticalAfterMs = pair.criticalAfterMs

theorem requiredText_of_text {values : JsonObject} {requestId : Option JsonRpcId} {key : String}
    {text : ToolText} (hget : getMember values key = some (jsonText text.val)) :
    requiredText values requestId key = .ok text := by
  unfold requiredText
  rw [hget]
  exact dif_pos text.property

theorem positiveInt_of_integer {values : JsonObject} {requestId : Option JsonRpcId}
    {key : String} {default duration : ℕ} (hget : getMember values key = some (.integer duration))
    (hpositive : 0 < duration) (hbound : duration ≤ maxThresholdMs) :
    positiveInt values requestId key default = .ok ⟨duration, hpositive, hbound⟩ := by
  unfold positiveInt
  rw [hget]
  exact dif_pos ⟨hpositive, hbound⟩

theorem positiveInt_of_large {values : JsonObject} {requestId : Option JsonRpcId}
    {key : String} {default duration : ℕ} (hget : getMember values key = some (.integer duration))
    (hlarge : maxThresholdMs < duration) :
    positiveInt values requestId key default =
      .error (invalidParams requestId (some (key ++ "_invalid"))) := by
  unfold positiveInt
  rw [hget]
  exact dif_neg fun hbounds => absurd hbounds.2 (Nat.not_le.mpr hlarge)

theorem parseStartRequest_startArguments {sessionId transcript turn : ToolText}
    {pair : ThresholdPair} {requestId : Option JsonRpcId} {renderPath : String → String} :
    parseStartRequest (startArguments sessionId transcript turn pair) requestId renderPath = (do
      let warning ← positiveInt (startArguments sessionId transcript turn pair) requestId
        "warning_after_ms" defaultWarningMs
      let critical ← positiveInt (startArguments sessionId transcript turn pair) requestId
        "critical_after_ms" defaultCriticalMs
      if hordered : warning.val < critical.val then
        return {
          request := {
            sessionId := sessionId.val
            transcriptPath := renderPath transcript.val
            warningAfterMs := warning.val
            criticalAfterMs := critical.val
            sessionId_nonempty := sessionId.property.1
            warning_pos := warning.property.1
            ordered := hordered }
          activationTurnId := turn.val }
      else throw (invalidParams requestId (some (thresholdOrderText warning.val critical.val)))) := by
  have hsession : requiredText (startArguments sessionId transcript turn pair) requestId
      "session_id" = .ok sessionId := requiredText_of_text rfl
  have htranscript : requiredText (startArguments sessionId transcript turn pair) requestId
      "transcript_path" = .ok transcript := requiredText_of_text rfl
  have hturn : requiredText (startArguments sessionId transcript turn pair) requestId
      "activation_turn_id" = .ok turn := requiredText_of_text rfl
  unfold parseStartRequest
  rw [hsession, htranscript, hturn]
  rfl

/-- A start accepts the pairs within a week. -/
theorem startable_iff {pair : ThresholdPair} :
    Startable pair ↔ pair.criticalAfterMs ≤ maxThresholdMs := by
  have hwarning := pair.warning_pos
  have hordered := pair.ordered
  constructor
  · intro hstart
    by_contra hlarge
    rw [not_le] at hlarge
    obtain ⟨parsed, hparsed, -⟩ := hstart ⟨"s", by decide⟩ ⟨"p", by decide⟩ ⟨"t", by decide⟩ none id
    have hcritical : positiveInt (startArguments ⟨"s", by decide⟩ ⟨"p", by decide⟩
        ⟨"t", by decide⟩ pair) none "critical_after_ms" defaultCriticalMs =
      .error (invalidParams none (some "critical_after_ms_invalid")) :=
        positiveInt_of_large rfl hlarge
    rw [parseStartRequest_startArguments, hcritical] at hparsed
    cases hwarned : positiveInt (startArguments ⟨"s", by decide⟩ ⟨"p", by decide⟩ ⟨"t", by decide⟩
      pair) none "warning_after_ms" defaultWarningMs with
    | error error =>
      rw [hwarned] at hparsed
      cases hparsed
    | ok warning =>
      rw [hwarned] at hparsed
      cases hparsed
  · intro hbound sessionId transcript turn requestId renderPath
    have hcritical : 0 < pair.criticalAfterMs := hwarning.trans hordered
    rw [parseStartRequest_startArguments, positiveInt_of_integer rfl hwarning (by omega),
      positiveInt_of_integer rfl hcritical hbound]
    exact ⟨_, dif_pos hordered, rfl, rfl⟩

/-! ### What the store holds -/

/-- A stored selection and a stored recommendation within a week. -/
structure WithinWeek (files : ThresholdSettingsFiles) : Prop where
  settings : ∀ values selected, files.settings = some (.ok values) →
    savedSnapshot values = some selected → selected.pair.criticalAfterMs ≤ maxThresholdMs
  calibration : ∀ values found restart, files.calibration = some (.ok values) →
    calibrationSnapshot values = some found → found.restartAfterMs = some restart →
      restart ≤ maxThresholdMs

theorem withinWeek_empty : WithinWeek {} := by
  refine ⟨?_, ?_⟩
  · intro values selected hvalues
    cases hvalues
  · intro values found restart hvalues
    cases hvalues

/-- What is read of the calibration was stored. -/
theorem loadCalibrationSnapshot_eq {faults : SettingsFaults} {files : ThresholdSettingsFiles}
    {found : CalibrationSnapshot}
    (hload : loadCalibrationSnapshot faults files = .ok (some found)) :
    ∃ values, files.calibration = some (.ok values) ∧ calibrationSnapshot values = some found := by
  unfold loadCalibrationSnapshot readStored at hload
  cases hfault : faults.calibration with
  | some failure =>
    rw [hfault] at hload
    cases hload
  | none =>
    rw [hfault] at hload
    cases hfile : files.calibration with
    | none =>
      rw [hfile] at hload
      cases hload
    | some stored =>
      rw [hfile] at hload
      cases stored with
      | error failure => cases hload
      | ok values =>
        simp only at hload
        cases hsnapshot : calibrationSnapshot values with
        | none =>
          rw [hsnapshot] at hload
          cases hload
        | some other =>
          rw [hsnapshot] at hload
          cases hload
          exact ⟨values, rfl, hsnapshot⟩

theorem validateThresholds_critical {warning critical : ℤ} {pair : ThresholdPair}
    (hvalid : validateThresholds warning critical = .ok pair) :
    (pair.criticalAfterMs : ℤ) = critical := by
  unfold validateThresholds at hvalid
  split_ifs at hvalid with hpositive hordered
  cases hvalid
  exact Int.toNat_of_nonneg hpositive.2.le

theorem snapshot_critical {mode : ThresholdMode} {warning critical : ℤ}
    {selected : ThresholdSettingsSnapshot} (hsnapshot : snapshot mode warning critical = .ok selected) :
    (selected.pair.criticalAfterMs : ℤ) = critical := by
  unfold snapshot at hsnapshot
  cases hvalid : validateThresholds warning critical with
  | error fault =>
    rw [hvalid] at hsnapshot
    cases hsnapshot
  | ok pair =>
    rw [hvalid] at hsnapshot
    cases hsnapshot
    exact validateThresholds_critical hvalid

variable {faults : SettingsFaults} {files : ThresholdSettingsFiles}
  {selected : ThresholdSettingsSnapshot}

theorem load_withinWeek (hfiles : WithinWeek files) (hload : load faults files = .ok selected) :
    selected.pair.criticalAfterMs ≤ maxThresholdMs := by
  unfold load readStored at hload
  cases hfault : faults.settings with
  | some failure =>
    rw [hfault] at hload
    cases hload
  | none =>
    rw [hfault] at hload
    cases hfile : files.settings with
    | some stored =>
      rw [hfile] at hload
      cases stored with
      | error failure => cases hload
      | ok values =>
        simp only at hload
        cases hsaved : savedSnapshot values with
        | none =>
          rw [hsaved] at hload
          cases hload
        | some other =>
          rw [hsaved] at hload
          cases hload
          exact hfiles.settings values selected hfile hsaved
    | none =>
      rw [hfile] at hload
      simp only [acceptedRecommendation] at hload
      cases hcalibration : loadCalibrationSnapshot faults files with
      | error failure =>
        rw [hcalibration] at hload
        cases hload
      | ok stored =>
        rw [hcalibration] at hload
        cases stored with
        | none =>
          cases hload
          decide
        | some found =>
          obtain ⟨values, hvalues, hsnapshot⟩ := loadCalibrationSnapshot_eq hcalibration
          simp only at hload
          split at hload
          · next warning restart _ _ hrestart =>
            cases hmade : snapshot .recommended warning restart with
            | error failure =>
              rw [hmade] at hload
              cases hload
            | ok made =>
              rw [hmade] at hload
              cases hload
              have hbound := hfiles.calibration values found restart hvalues hsnapshot hrestart
              rw [← snapshot_critical hmade] at hbound
              exact Int.ofNat_le.mp hbound
          · cases hload
            decide

/-! ### What an event keeps -/

/-- A call of the store leaves a week, and what it returns is within it. -/
def KeepsWeek (outcome : ThresholdSettingsFiles × Except SettingsFailure ThresholdSettingsSnapshot) :
    Prop :=
  WithinWeek outcome.1 ∧ ∀ selected, outcome.2 = .ok selected →
    selected.pair.criticalAfterMs ≤ maxThresholdMs

theorem keepsWeek_error (hfiles : WithinWeek files) (failure : SettingsFailure) :
    KeepsWeek (files, .error failure) :=
  ⟨hfiles, fun selected hselected => by cases hselected⟩

theorem save_keepsWeek (hfiles : WithinWeek files)
    (hselected : selected.pair.criticalAfterMs ≤ maxThresholdMs) :
    KeepsWeek (save faults files selected) := by
  rcases @save_cases faults files selected with ⟨failure, hraised⟩ | hsaved
  · rw [hraised]
    exact keepsWeek_error hfiles _
  · rw [hsaved]
    refine ⟨⟨?_, hfiles.calibration⟩, ?_⟩
    · intro values other hvalues hother
      cases hvalues
      rw [savedSnapshot_document] at hother
      cases hother
      exact hselected
    · intro other hother
      cases hleft : faults.leave selected with
      | error failure =>
        rw [hleft] at hother
        cases hother
      | ok left =>
        rw [hleft] at hother
        cases hother
        rw [SettingsFaults.leave_eq_ok hleft]
        exact hselected

theorem saveSnapshot_keepsWeek (hfiles : WithinWeek files) {mode : ThresholdMode}
    {warning critical : ℤ} (hcritical : critical ≤ maxThresholdMs) :
    KeepsWeek (saveSnapshot faults files mode warning critical) := by
  unfold saveSnapshot
  cases hmade : snapshot mode warning critical with
  | error failure => exact keepsWeek_error hfiles _
  | ok made =>
    rw [← snapshot_critical hmade] at hcritical
    exact save_keepsWeek hfiles (Int.ofNat_le.mp hcritical)

theorem setRecommended_keepsWeek (hfiles : WithinWeek files) :
    KeepsWeek (setRecommended faults files) := by
  unfold setRecommended storedRecommendation
  cases hload : loadCalibrationSnapshot faults files with
  | error failure => exact keepsWeek_error hfiles _
  | ok stored =>
    cases stored with
    | none => exact keepsWeek_error hfiles _
    | some found =>
      obtain ⟨values, hvalues, hsnapshot⟩ := loadCalibrationSnapshot_eq hload
      cases hwarning : found.warningAfterMs with
      | none =>
        simp only [hwarning]
        exact keepsWeek_error hfiles _
      | some warning =>
        cases hrestart : found.restartAfterMs with
        | none =>
          simp only [hwarning, hrestart]
          exact keepsWeek_error hfiles _
        | some restart =>
          simp only [hwarning, hrestart]
          exact saveSnapshot_keepsWeek hfiles
            (hfiles.calibration values found restart hvalues hsnapshot hrestart)

theorem setOperation_keepsWeek (hfiles : WithinWeek files) {call : SettingsCall}
    {operation : ThresholdSettingsFiles →
      ThresholdSettingsFiles × Except SettingsFailure ThresholdSettingsSnapshot}
    (hoperation : setOperation faults call = some operation) : KeepsWeek (operation files) := by
  cases call with
  | «show» => cases hoperation
  | default =>
    cases hoperation
    exact save_keepsWeek hfiles (by decide)
  | recommended =>
    cases hoperation
    exact setRecommended_keepsWeek hfiles
  | custom warning critical =>
    cases hoperation
    exact saveSnapshot_keepsWeek hfiles (Int.ofNat_le.mpr critical.property.2)

variable {server : McpServer} {env : LineEnvironment}

/-- A validated call of the settings tool. -/
theorem runSettings_keepsWeek (hserver : WithinWeek server.settings) (call : SettingsCall) :
    WithinWeek (runSettings env ⟨server, []⟩ call).1.server.settings ∧
      ∀ selected, (runSettings env ⟨server, []⟩ call).2 = .ok selected →
        selected.pair.criticalAfterMs ≤ maxThresholdMs := by
  unfold runSettings
  cases hoperation : setOperation env.settings call with
  | none =>
    refine ⟨hserver, ?_⟩
    intro selected hselected
    simp only [showSettings] at hselected
    cases hload : load env.settings server.settings with
    | error failure =>
      rw [hload] at hselected
      cases hselected
    | ok found =>
      rw [hload] at hselected
      cases hselected
      exact load_withinWeek hserver hload
  | some operation =>
    obtain ⟨hleft, hreturned⟩ := setOperation_keepsWeek hserver hoperation
    simp only [onSettings]
    cases houtcome : operation server.settings with
    | mk left outcome =>
      rw [houtcome] at hleft hreturned
      cases outcome with
      | error failure => exact ⟨hleft, fun selected hselected => by cases hselected⟩
      | ok found =>
        refine ⟨hleft, ?_⟩
        intro selected hselected
        cases hselected
        exact hreturned found rfl

/-- A shown pair was selected. -/
theorem settingsAnswer_eq_success {outcome : Except Raised ThresholdSettingsSnapshot}
    (hanswer : settingsAnswer outcome = .ok (thresholdSettingsSuccess selected)) :
    ∃ found, outcome = .ok found ∧ found.pair.criticalAfterMs = selected.pair.criticalAfterMs := by
  unfold settingsAnswer at hanswer
  split at hanswer
  · next found =>
    refine ⟨found, rfl, ?_⟩
    simp only [thresholdSettingsSuccess, payloadAnswer, Except.ok.injEq, ToolAnswer.mk.injEq,
      List.cons.injEq, Prod.mk.injEq, Json.integer.injEq, Nat.cast_inj] at hanswer
    exact hanswer.2.1.2.2.2.1.2
  · cases hanswer
  · cases hanswer
  · cases hanswer

theorem callThresholdSettings_keepsWeek (hserver : WithinWeek server.settings)
    (arguments : JsonObject) (requestId : Option JsonRpcId) :
    WithinWeek (callThresholdSettings env arguments requestId ⟨server, []⟩).1.server.settings ∧
      ∀ selected, (callThresholdSettings env arguments requestId ⟨server, []⟩).2 =
        .ok (thresholdSettingsSuccess selected) →
          selected.pair.criticalAfterMs ≤ maxThresholdMs := by
  rw [@callThresholdSettings_eq .transparent sampleKey env arguments requestId ⟨server, []⟩]
  cases parseSettingsCall arguments requestId with
  | error error => exact ⟨hserver, fun selected hselected => by cases hselected⟩
  | ok call =>
    obtain ⟨hleft, hreturned⟩ := @runSettings_keepsWeek server env hserver call
    refine ⟨hleft, ?_⟩
    intro selected hselected
    obtain ⟨found, hfound, hsame⟩ := settingsAnswer_eq_success hselected
    rw [← hsame]
    exact hreturned found hfound

/-! #### Calibration -/

/-- A recommendation within a week, if it is one. -/
def BoundedOutcome (outcome : CalibrationOutcome) : Prop :=
  ∀ sampleCount warning restart, outcome = .recommendation sampleCount warning restart →
    restart ≤ maxThresholdMs

theorem calibrationSnapshot_document {found other : CalibrationSnapshot}
    (hsnapshot : calibrationSnapshot (calibrationDocument found) = some other) :
    other.restartAfterMs = found.restartAfterMs := by
  have hmember : ∀ {α : Type} (value : Option α), optionalMember (nullableMember value) = some value :=
    fun value => by cases value <;> rfl
  simp only [calibrationSnapshot, calibrationDocument, hmember] at hsnapshot
  split at hsnapshot
  · next warning restart reason status hwarning hrestart _ _ =>
    split_ifs at hsnapshot
    cases hsnapshot
    exact (Option.some.inj hrestart).symm
  · cases hsnapshot

theorem saveCalibration_withinWeek (hfiles : WithinWeek files) {found : CalibrationSnapshot}
    (hbound : ∀ restart, found.restartAfterMs = some restart → restart ≤ maxThresholdMs) :
    WithinWeek (saveCalibration faults files found).1 := by
  unfold saveCalibration
  cases faults.save with
  | some failure => exact hfiles
  | none =>
    refine ⟨hfiles.settings, ?_⟩
    intro values other restart hvalues hother hrestart
    cases hvalues
    rw [calibrationSnapshot_document hother] at hrestart
    exact hbound restart hrestart

theorem loadOrCalibrate_withinWeek (hfiles : WithinWeek files)
    {version : Except StorageFailure String} {outcome : CalibrationOutcome}
    (hbounded : BoundedOutcome outcome) :
    WithinWeek (loadOrCalibrate faults version outcome files).1 := by
  unfold loadOrCalibrate
  split
  · exact hfiles
  · exact hfiles
  · exact hfiles
  · split
    · exact hfiles
    · refine saveCalibration_withinWeek hfiles ?_
      intro restart hrestart
      cases outcome with
      | recommendation sampleCount warning critical =>
        cases hrestart
        exact hbounded sampleCount warning _ rfl
      | insufficient sampleCount => cases hrestart
      | unavailable reasonCode => cases hrestart

theorem recordDecision_withinWeek (hfiles : WithinWeek files) (version : String)
    (decision : CalibrationDecision) :
    WithinWeek (recordDecision faults version decision files).1 := by
  unfold recordDecision
  split
  · exact hfiles
  · exact hfiles
  · exact hfiles
  · next found _ hload =>
    split_ifs
    · exact hfiles
    · obtain ⟨values, hvalues, hsnapshot⟩ := loadCalibrationSnapshot_eq hload
      exact saveCalibration_withinWeek hfiles fun restart hrestart =>
        hfiles.calibration values found restart hvalues hsnapshot hrestart

/-! ### Histories and starts -/

/-- What a server shows can be started with: what it loads, and what it answers to a call
    of the settings tool. -/
def ShowsStartable (server : McpServer) : Prop :=
  (∀ faults selected, load faults server.settings = .ok selected → Startable selected.pair) ∧
    ∀ env arguments requestId selected,
      (callThresholdSettings env arguments requestId ⟨server, []⟩).2 =
        .ok (thresholdSettingsSuccess selected) → Startable selected.pair

theorem showsStartable_of_withinWeek (hserver : WithinWeek server.settings) :
    ShowsStartable server := by
  refine ⟨?_, ?_⟩
  · intro faults selected hload
    exact startable_iff.mpr (load_withinWeek hserver hload)
  · intro env arguments requestId selected hanswer
    exact startable_iff.mpr
      ((callThresholdSettings_keepsWeek hserver arguments requestId).2 selected hanswer)

/-- An event whose scan is bounded leaves a week. -/
theorem step_withinWeek {scans : Set HistoryScan}
    (hscans : ∀ scan ∈ scans, BoundedOutcome scan.outcome) (server : McpServer)
    (event : SettingsEvent) (hserver : WithinWeek server.settings)
    (hamong : SettingsEvent.ScansAmong scans event) :
    WithinWeek (settingsMachine.step server event).1.settings := by
  cases event with
  | calibrate faults version scan =>
    exact loadOrCalibrate_withinWeek hserver (hscans scan hamong)
  | decide faults version decision => exact recordDecision_withinWeek hserver version decision
  | call env arguments requestId =>
    exact (callThresholdSettings_keepsWeek hserver arguments requestId).1

/-- A server with nothing saved. -/
def unsaved (server : McpServer) : McpServer := { server with settings := {} }

theorem history_withinWeek {scans : Set HistoryScan}
    (hscans : ∀ scan ∈ scans, BoundedOutcome scan.outcome) {history : List SettingsEvent}
    (hamong : ∀ event ∈ history, SettingsEvent.ScansAmong scans event) :
    WithinWeek (settingsMachine.after (unsaved server) history).settings :=
  settingsMachine.invariant_after (step_withinWeek hscans) withinWeek_empty hamong

/-- At least 95 of 100 gaps last 84 hours at most and 99 of 100 a week, where gaps make a
    recommendation. -/
def WithinWeekGaps : HistoryScan → Prop
  | .found gaps => gaps.length < 20 ∨ (∃ gap ∈ gaps, gap ≤ 0) ∨
      NearestRank.Covers 0.95 gaps (minutes 5040) ∧ NearestRank.Covers 0.99 gaps (minutes 10080)
  | .failed _ => True

open NearestRank in
/-- A recommendation is within a week when most of its gaps are. -/
theorem recommends_within_iff {gaps : List ℤ} {warning critical : ℤ} (hgaps : 0 < gaps.length)
    (hrecommends : Recommends gaps warning critical) :
    60000 * critical ≤ maxThresholdMs ↔
      Covers 0.95 gaps (minutes 5040) ∧ Covers 0.99 gaps (minutes 10080) := by
  obtain ⟨hwarns, ⟨rank, hrank, hstalls⟩, -⟩ := hrecommends
  have hweek : 60000 * critical ≤ maxThresholdMs ↔ critical ≤ 10080 := by
    have hmax : (maxThresholdMs : ℤ) = 60000 * 10080 := rfl
    omega
  have hcovered : rank ≤ minutes 10080 ↔ Covers 0.99 gaps (minutes 10080) :=
    hrank.le_iff (by norm_num) hgaps
  rw [hweek, ← hcovered]
  constructor
  · intro hcritical
    have hle : rank ≤ minutes critical := hstalls.1.1
    have hdouble : 2 * warning ≤ critical := hstalls.1.2
    have hlater : minutes warning ≤ minutes 5040 ∧ minutes critical ≤ minutes 10080 := by
      simp only [minutes]
      omega
    exact ⟨hwarns.1.2.mono hlater.1, hle.trans hlater.2⟩
  · rintro ⟨hmost, hle⟩
    have hwarning : warning ≤ 5040 := hwarns.2 ⟨by norm_num, hmost⟩
    exact hstalls.2 ⟨hle, by omega⟩

theorem boundedOutcome_iff {scan : HistoryScan} :
    BoundedOutcome scan.outcome ↔ WithinWeekGaps scan := by
  cases scan with
  | failed reasonCode =>
    refine ⟨fun _ => trivial, fun _ sampleCount warning restart houtcome => ?_⟩
    cases houtcome
  | found gaps =>
    obtain ⟨hfew, hunavailable, hrecommends, -⟩ := recommendThresholds_percentiles gaps
    simp only [HistoryScan.outcome, WithinWeekGaps]
    by_cases hshort : gaps.length < 20
    · refine ⟨fun _ => Or.inl hshort, fun _ sampleCount warning restart houtcome => ?_⟩
      rw [hfew hshort] at houtcome
      cases houtcome
    · rw [not_lt] at hshort
      by_cases hgap : ∃ gap ∈ gaps, gap ≤ 0
      · refine ⟨fun _ => Or.inr (Or.inl hgap), fun _ sampleCount warning restart houtcome => ?_⟩
        rw [hunavailable hshort hgap] at houtcome
        cases houtcome
      · have hpositive : ∀ gap ∈ gaps, 0 < gap := by
          intro gap hmem
          by_contra hle
          exact hgap ⟨gap, hmem, not_lt.mp hle⟩
        obtain ⟨warning, critical, hmade, hpair⟩ := hrecommends hshort hpositive
        have hwithin := recommends_within_iff (by omega) hpair
        constructor
        · intro hbounded
          exact Or.inr (Or.inr (hwithin.mp (hbounded _ _ _ hmade)))
        · rintro (hless | hnone | hcovers) sampleCount other restart houtcome
          · omega
          · exact absurd hnone hgap
          · rw [hmade] at houtcome
            cases houtcome
            exact hwithin.mpr hcovers

/-- A recommendation is positive and ordered. -/
theorem recommendation_valid {scan : HistoryScan} {sampleCount : ℕ} {warning restart : ℤ}
    (houtcome : scan.outcome = .recommendation sampleCount warning restart) :
    ∃ pair, validateThresholds warning restart = .ok pair := by
  cases scan with
  | failed reasonCode => cases houtcome
  | found gaps =>
    obtain ⟨hfew, hunavailable, hrecommends, -⟩ := recommendThresholds_percentiles gaps
    simp only [HistoryScan.outcome] at houtcome
    by_cases hshort : gaps.length < 20
    · rw [hfew hshort] at houtcome
      cases houtcome
    · rw [not_lt] at hshort
      by_cases hgap : ∃ gap ∈ gaps, gap ≤ 0
      · rw [hunavailable hshort hgap] at houtcome
        cases houtcome
      · have hpositive : ∀ gap ∈ gaps, 0 < gap := by
          intro gap hmem
          by_contra hle
          exact hgap ⟨gap, hmem, not_lt.mp hle⟩
        obtain ⟨first, second, hmade, hpair⟩ := hrecommends hshort hpositive
        rw [hmade] at houtcome
        cases houtcome
        exact hpair.accepted

/-- The arguments that ask for the recommendation. -/
def recommendedArguments : JsonObject :=
  [("session_id", jsonText "s"), ("action", jsonText SettingsAction.recommended.value)]

/-- A pending recommendation is loaded as it was saved. -/
theorem calibrationSnapshot_pending (version : String) (sampleCount : ℕ) (warning restart : ℤ) :
    calibrationSnapshot (calibrationDocument
        (snapshotFromOutcome version (.recommendation sampleCount warning restart))) =
      some (snapshotFromOutcome version (.recommendation sampleCount warning restart)) := by
  have hcount : ¬ (sampleCount : ℤ) < 0 := (Int.natCast_nonneg sampleCount).not_gt
  change (if (sampleCount : ℤ) < 0 then none else some _) = _
  rw [if_neg hcount]
  rfl

/-- The recommendation of a scan is answered as it is. -/
theorem recommended_after_scan {scan : HistoryScan} {sampleCount : ℕ} {warning restart : ℤ}
    {pair : ThresholdPair} (server : McpServer)
    (houtcome : scan.outcome = .recommendation sampleCount warning restart)
    (hpair : validateThresholds warning restart = .ok pair) :
    (callThresholdSettings sampleEnvironment recommendedArguments none
        ⟨settingsMachine.after (unsaved server) [.calibrate {} (.ok "1") scan], []⟩).2 =
      .ok (thresholdSettingsSuccess ⟨.recommended, pair⟩) := by
  have hvalid : validateSettings recommendedArguments none = .ok .recommended := rfl
  have hleft : (settingsMachine.after (unsaved server) [.calibrate {} (.ok "1") scan]).settings =
      { settings := none
        calibration := some (.ok (calibrationDocument
          (snapshotFromOutcome "1" (.recommendation sampleCount warning restart)))) } := by
    change (loadOrCalibrate {} (.ok "1") scan.outcome {}).1 = _
    rw [houtcome]
    rfl
  have hset : (setRecommended {} (settingsMachine.after (unsaved server)
      [.calibrate {} (.ok "1") scan]).settings).2 = .ok ⟨.recommended, pair⟩ := by
    have hload : loadCalibrationSnapshot {} (settingsMachine.after (unsaved server)
        [.calibrate {} (.ok "1") scan]).settings =
      .ok (some (snapshotFromOutcome "1" (.recommendation sampleCount warning restart))) := by
      rw [hleft]
      simp only [loadCalibrationSnapshot, readStored, calibrationSnapshot_pending]
    simp only [setRecommended, storedRecommendation, hload, snapshotFromOutcome, saveSnapshot,
      snapshot, hpair, save]
    rfl
  unfold callThresholdSettings
  rw [hvalid]
  simp only [applyThresholdAction, onSettings, sampleEnvironment]
  cases hrun : setRecommended {} (settingsMachine.after (unsaved server)
      [.calibrate {} (.ok "1") scan]).settings with
  | mk left outcome =>
    rw [hrun] at hset
    cases hset
    rfl

/-- A scan whose recommendation is longer than a week leaves a server that shows it. -/
theorem bounded_of_showsStartable {scan : HistoryScan} (server : McpServer)
    (hshows : ShowsStartable
      (settingsMachine.after (unsaved server) [.calibrate {} (.ok "1") scan])) :
    BoundedOutcome scan.outcome := by
  intro sampleCount warning restart houtcome
  obtain ⟨pair, hpair⟩ := recommendation_valid houtcome
  have hstart := hshows.2 _ _ _ _ (recommended_after_scan server houtcome hpair)
  rw [← validateThresholds_critical hpair]
  exact Int.ofNat_le.mpr (startable_iff.mp hstart)

/-- **Saved settings.**  After every history whose scans are among some, the pairs that are
    shown can be started with, exactly when all these scans are within a week. -/
theorem savedSettings_startable_iff (server : McpServer) (scans : Set HistoryScan) :
    (∀ history, (∀ event ∈ history, SettingsEvent.ScansAmong scans event) →
        ShowsStartable (settingsMachine.after (unsaved server) history)) ↔
      ∀ scan ∈ scans, WithinWeekGaps scan := by
  constructor
  · intro hshows scan hscan
    refine boundedOutcome_iff.mp (bounded_of_showsStartable server (hshows _ ?_))
    intro event hevent
    rw [List.mem_singleton.mp hevent]
    exact hscan
  · intro hscans history hamong
    refine showsStartable_of_withinWeek (history_withinWeek ?_ hamong)
    intro scan hscan
    exact boundedOutcome_iff.mpr (hscans scan hscan)

/-- Twenty gaps of 84 hours and a minute. -/
def longGaps : HistoryScan := .found (List.replicate 20 (minutes 5041))

/-- What such gaps recommend is shown and saved, and no start accepts it. -/
theorem longGaps_unstartable :
    ¬ ShowsStartable
      (settingsMachine.after (unsaved sampleServer) [.calibrate {} (.ok "1") longGaps]) := by
  intro hshows
  have hwithin := boundedOutcome_iff.mp (bounded_of_showsStartable sampleServer hshows)
  rcases hwithin with hfew | ⟨gap, hgap, hle⟩ | ⟨hcovers, -⟩
  · exact absurd hfew (by decide)
  · rw [List.eq_of_mem_replicate hgap] at hle
    exact absurd hle (by decide)
  · rw [NearestRank.Covers, List.countP_replicate, if_neg (by decide)] at hcovers
    norm_num at hcovers

end McpServer

end CodexMustWork
