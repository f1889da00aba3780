import DeviceStandby.Config.Fault
import DeviceStandby.Proofs.ConditionNames
import DeviceStandby.Proofs.Tables

/-!
# Files without faults

`ConfigFile.Sound` says what makes sense in a configuration file, setting by setting, and
`ConfigFile.faults_eq_nil_iff` that a file has no faults exactly if everything in it makes sense:
each kind of fault is found wherever it is, and nothing else counts as one.
-/

namespace DeviceStandby

/-! ## What makes sense -/

/-- Every character of a name is a blank; a name without characters is blank too. -/
def Blank (name : String) : Prop := ∀ c ∈ name.toList, isBlank c = true

/-- Each condition can be read, and no limit is negative. -/
structure EntrySettings.Sound (entry : EntrySettings) : Prop where
  conditions : ∀ text ∈ entry.conditions, (Condition.parse? text).isSome = true
  limits : ∀ limit ∈ entry.limitedProcesses ++ entry.limitedApps, 0 ≤ limit.maxDuration

/-- The timeouts that are given. -/
def TimeoutSettings.given (timeouts : TimeoutSettings) : List Int :=
  timeouts.dark.toList ++ timeouts.nap.toList ++ timeouts.napMaintenance.toList
    ++ timeouts.sleepMaintenance.toList

/-- The intervals that are given. -/
def IntervalSettings.given (intervals : IntervalSettings) : List Int :=
  intervals.nap.getD [] ++ intervals.sleep.getD []

/-- What is in the file makes sense. -/
structure ConfigFile.Sound (file : ConfigFile) : Prop where
  version : ∀ text, file.version = some text → (Version.parse? text).isSome = true
  plugin : ∀ name, file.service.plugin = some name → ¬ Blank name
  strategies : ∀ name ∈ file.strategies, ¬ Blank name
  timeouts : ∀ seconds ∈ file.timeouts.given, 0 ≤ seconds
  intervals : ∀ seconds ∈ file.intervals.given, 0 < seconds
  night : ∀ night, file.night = some night →
    (TimeText.parse? night.start).isSome = true ∧ (TimeText.parse? night.stop).isSome = true
  resources : ∀ name entries, file.resources.get? name = some entries →
    (Resource.ofName? name).isSome = true ∧ ∀ entry ∈ entries, entry.Sound

/-! ## Faults, part by part -/

/-- A name is refused as blank if it is. -/
lemma isBlankName_eq_false_iff {name : String} : isBlankName name = false ↔ ¬ Blank name := by
  rw [← Bool.not_eq_true, isBlankName, List.isEmpty_iff, trimChars_eq_nil_iff, Blank]

lemma timeoutFaults_eq_nil_iff {name : String} {timeout : Option Int} :
    timeoutFaults name timeout = [] ↔ ∀ seconds ∈ timeout, 0 ≤ seconds := by
  cases timeout with
  | none => simp [timeoutFaults]
  | some seconds => simp [timeoutFaults]

lemma intervalFaults_eq_nil_iff {name : String} {intervals : Option (List Int)} :
    intervalFaults name intervals = [] ↔ ∀ seconds ∈ intervals.getD [], 0 < seconds := by
  simp [intervalFaults, List.filter_eq_nil_iff]

lemma timeFaults_eq_nil_iff {text : String} :
    timeFaults text = [] ↔ (TimeText.parse? text).isSome = true := by
  unfold timeFaults TimeText.parse?
  cases TimeText.parse text <;> simp

lemma EntrySettings.faults_eq_nil_iff {entry : EntrySettings} {resource : String} :
    entry.faults resource = [] ↔ entry.Sound := by
  rw [EntrySettings.faults, List.append_eq_nil_iff, List.map_eq_nil_iff, List.map_eq_nil_iff,
    List.filter_eq_nil_iff, List.filter_eq_nil_iff]
  constructor
  · rintro ⟨hconditions, hlimits⟩
    refine ⟨fun text hmem => ?_, fun limit hmem => ?_⟩
    · simpa [Option.isSome_iff_ne_none] using hconditions text hmem
    · simpa using hlimits limit hmem
  · rintro ⟨hconditions, hlimits⟩
    refine ⟨fun text hmem => ?_, fun limit hmem => ?_⟩
    · simpa [Option.isSome_iff_ne_none] using hconditions text hmem
    · simpa using hlimits limit hmem

namespace ConfigFile

variable {file : ConfigFile}

lemma nameFaults_eq_nil_iff : file.nameFaults = [] ↔
    (∀ text, file.version = some text → (Version.parse? text).isSome = true) ∧
    (∀ name, file.service.plugin = some name → ¬ Blank name) ∧
    ∀ name ∈ file.strategies, ¬ Blank name := by
  simp only [← isBlankName_eq_false_iff]
  rw [nameFaults, List.append_eq_nil_iff, List.append_eq_nil_iff, and_assoc]
  refine and_congr ?_ (and_congr ?_ ?_)
  · cases file.version with
    | none => simp
    | some text => cases h : Version.parse? text <;> simp [h]
  · cases file.service.plugin <;> simp
  · simp

lemma durationFaults_eq_nil_iff : file.durationFaults = [] ↔
    (∀ seconds ∈ file.timeouts.given, 0 ≤ seconds) ∧
    ∀ seconds ∈ file.intervals.given, 0 < seconds := by
  simp only [durationFaults, List.append_eq_nil_iff, timeoutFaults_eq_nil_iff,
    intervalFaults_eq_nil_iff, TimeoutSettings.given, IntervalSettings.given,
    List.forall_mem_append, Option.mem_toList, Option.mem_def, and_assoc]

lemma nightFaults_eq_nil_iff : file.nightFaults = [] ↔
    ∀ night, file.night = some night →
      (TimeText.parse? night.start).isSome = true ∧ (TimeText.parse? night.stop).isSome = true := by
  unfold nightFaults
  cases file.night <;> simp [timeFaults_eq_nil_iff]

lemma resourceFaults_eq_nil_iff {name : String} {entries : List EntrySettings} :
    resourceFaults name entries = [] ↔
      (Resource.ofName? name).isSome = true ∧ ∀ entry ∈ entries, entry.Sound := by
  unfold resourceFaults
  cases Resource.ofName? name with
  | none => simp
  | some kind => simp [EntrySettings.faults_eq_nil_iff]

/-- A file has no faults exactly if everything in it makes sense. -/
theorem faults_eq_nil_iff : file.faults = [] ↔ file.Sound := by
  rw [faults, List.append_eq_nil_iff, List.append_eq_nil_iff, List.append_eq_nil_iff,
    nameFaults_eq_nil_iff, durationFaults_eq_nil_iff, nightFaults_eq_nil_iff,
    List.flatMap_eq_nil_iff]
  constructor
  · rintro ⟨⟨⟨⟨hversion, hplugin, hstrategies⟩, htimeouts, hintervals⟩, hnight⟩, hresources⟩
    refine ⟨hversion, hplugin, hstrategies, htimeouts, hintervals, hnight, fun name entries hget => ?_⟩
    exact resourceFaults_eq_nil_iff.1 (hresources (name, entries) (Table.mem_entries.2 hget))
  · intro h
    refine ⟨⟨⟨⟨h.version, h.plugin, h.strategies⟩, h.timeouts, h.intervals⟩, h.night⟩, ?_⟩
    rintro ⟨name, entries⟩ hmem
    exact resourceFaults_eq_nil_iff.2 (h.resources name entries (Table.mem_entries.1 hmem))

end ConfigFile

end DeviceStandby
