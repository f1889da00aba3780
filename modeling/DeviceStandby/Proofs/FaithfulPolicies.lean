import DeviceStandby.Proofs.ReadTimes
import DeviceStandby.Proofs.ResourceRules

/-!
# Policies keep what files give

When a file is converted, a setting that makes no sense is dropped or replaced by a default without a
word.  That never happens to a file without faults: each setting that such a file gives is in the
policy, with the same value and at the same place (`Policy.Keeps`, `faultless_files_are_kept`).  So
what is refused as a fault and what could not be converted are the same.

The one thing that is dropped are the entries under a name that is shadowed, together with their
conditions and limits (`limit_under_first_spelling_is_lost`).  The entries under all other names are
in the policy (`Policy.Keeps.entries`), and there is nothing else in it (`Policy.Keeps.rules`).
-/

namespace DeviceStandby

/-! ## Sets of names -/

/-- A set of names holds the names that were put in. -/
lemma mem_keys_nameSet {names : List String} {name : String} :
    name ∈ (nameSet names).keys ↔ name ∈ names := by
  rw [nameSet, Table.mem_keys_ofList]
  simp

/-! ## Parts of a policy -/

/-- The limit is that of the setting. -/
structure Limit.Follows (setting : LimitSetting) (limit : Limit) : Prop where
  name : limit.name = setting.name
  seconds : (limit.seconds : Int) = setting.maxDuration

/-- The rule says what the entry says.  Each set of conditions is what the text at its place names,
and none is empty. -/
structure Rule.Follows (entry : EntrySettings) (rule : Rule) : Prop where
  isAllow : rule.isAllow = entry.isAllow
  conditions : List.Forall₂ (fun text set => Condition.parse? text = some set ∧ set ≠ 0)
    entry.conditions rule.conditions
  processes : ∀ name, name ∈ rule.processes.keys ↔ name ∈ entry.processes
  apps : ∀ name, name ∈ rule.apps.keys ↔ name ∈ entry.apps
  limitedProcesses : List.Forall₂ Limit.Follows entry.limitedProcesses rule.limitedProcesses
  limitedApps : List.Forall₂ Limit.Follows entry.limitedApps rule.limitedApps

/-- The time of day is the one that the text denotes, and there is such a time. -/
structure ClockTime.Follows (text : String) (time : ClockTime) : Prop where
  read : TimeText.parse text = .ok time
  valid : ClockTime.new? time.hour time.minute = some time

/-- The intervals are the given ones, in order, and they are all positive. -/
structure IntervalsFollow (given : List Int) (intervals : List Nat) : Prop where
  same : List.Forall₂ (fun (value : Int) (seconds : Nat) => (seconds : Int) = value) given intervals
  positive : ∀ seconds ∈ intervals, 0 < seconds

/-- Whatever the file gives is in the policy, except what it gives under names that are shadowed, and
the rules of the policy are all from the file. -/
structure Policy.Keeps (file : ConfigFile) (policy : Policy) : Prop where
  version : policy.version = file.version
  plugin : ∀ name, file.service.plugin = some name → policy.plugin = name
  dataDir : ∀ path, file.service.dataDir = some path → policy.dataDir = path
  strategies : policy.strategies = file.strategies
  napSwitch : ∀ on, file.switches.nap = some on → policy.napSwitch = on
  sleepSwitch : ∀ on, file.switches.sleep = some on → policy.sleepSwitch = on
  dark : ∀ seconds, file.timeouts.dark = some seconds → (policy.timeouts.dark : Int) = seconds
  nap : ∀ seconds, file.timeouts.nap = some seconds → (policy.timeouts.nap : Int) = seconds
  napMaintenance : ∀ seconds, file.timeouts.napMaintenance = some seconds →
    (policy.timeouts.napMaintenance : Int) = seconds
  sleepMaintenance : ∀ seconds, file.timeouts.sleepMaintenance = some seconds →
    (policy.timeouts.sleepMaintenance : Int) = seconds
  napIntervals : ∀ given, file.intervals.nap = some given →
    IntervalsFollow given policy.napIntervals
  sleepIntervals : ∀ given, file.intervals.sleep = some given →
    IntervalsFollow given policy.sleepIntervals
  night : ∀ night, file.night = some night →
    ClockTime.Follows night.start policy.night.start ∧
      ClockTime.Follows night.stop policy.night.stop
  entries : ∀ name entries, file.resources.get? name = some entries → ¬ file.Shadowed name →
    ∃ kind rules, Resource.ofName? name = some kind ∧ (kind, rules) ∈ policy.resources ∧
      List.Forall₂ Rule.Follows entries rules
  rules : ∀ kind rules, (kind, rules) ∈ policy.resources →
    ∃ name entries, file.resources.get? name = some entries ∧
      Resource.ofName? name = some kind ∧ ¬ file.Shadowed name ∧
      List.Forall₂ Rule.Follows entries rules

/-! ## Conversion -/

lemma secondsOr_given {fallback : Nat} {timeout : Option Int} {seconds : Int}
    (hgiven : timeout = some seconds) (h : 0 ≤ seconds) :
    (secondsOr fallback timeout : Int) = seconds := by
  rw [hgiven, secondsOr, if_neg (not_lt.2 h)]
  exact Int.toNat_of_nonneg h

lemma intervalsOr_given {fallback : List Nat} {intervals : Option (List Int)} {given : List Int}
    (hgiven : intervals = some given) (h : ∀ seconds ∈ given, 0 < seconds) :
    IntervalsFollow given (intervalsOr fallback intervals) := by
  have hall : intervalsOr fallback intervals = given.map Int.toNat := by
    rw [hgiven, intervalsOr,
      List.filter_eq_self.2 (fun seconds hmem => decide_eq_true (h seconds hmem))]
  rw [hall]
  refine ⟨?_, ?_⟩
  · rw [List.forall₂_map_right_iff, List.forall₂_same]
    exact fun seconds hmem => Int.toNat_of_nonneg (h seconds hmem).le
  · rw [List.forall_mem_map]
    intro seconds hmem
    have hpositive := h seconds hmem
    omega

lemma ClockTime.follows_of_parse? {text : String} {time : ClockTime}
    (h : TimeText.parse? text = some time) : ClockTime.Follows text time := by
  refine ⟨TimeText.parse?_eq_some_iff.1 h, ?_⟩
  rw [ClockTime.new?, if_pos (TimeText.range_of_parse? h)]

lemma nightOr_follows {night : NightSettings}
    (hstart : (TimeText.parse? night.start).isSome = true)
    (hstop : (TimeText.parse? night.stop).isSome = true) :
    ClockTime.Follows night.start (nightOr (some night)).start ∧
      ClockTime.Follows night.stop (nightOr (some night)).stop := by
  obtain ⟨start, hstart⟩ := Option.isSome_iff_exists.1 hstart
  obtain ⟨stop, hstop⟩ := Option.isSome_iff_exists.1 hstop
  rw [nightOr, hstart, hstop]
  exact ⟨ClockTime.follows_of_parse? hstart, ClockTime.follows_of_parse? hstop⟩

lemma Limit.ofSetting_follows {settings : List LimitSetting}
    (h : ∀ setting ∈ settings, 0 ≤ setting.maxDuration) :
    List.Forall₂ Limit.Follows settings (settings.map Limit.ofSetting) := by
  rw [List.forall₂_map_right_iff, List.forall₂_same]
  exact fun setting hmem => ⟨rfl, Int.toNat_of_nonneg (h setting hmem)⟩

/-- Of texts that can all be read none is dropped. -/
lemma Condition.parse?_follows {texts : List String}
    (h : ∀ text ∈ texts, (Condition.parse? text).isSome = true) :
    List.Forall₂ (fun text set => Condition.parse? text = some set ∧ set ≠ 0) texts
      (texts.filterMap Condition.parse?) := by
  induction texts with
  | nil => exact .nil
  | cons text texts ih =>
    obtain ⟨set, hset⟩ := Option.isSome_iff_exists.1 (h text List.mem_cons_self)
    rw [List.filterMap_cons_some hset]
    exact .cons ⟨hset, Condition.parse?_ne_zero hset⟩
      (ih (fun other hother => h other (List.mem_cons_of_mem _ hother)))

lemma EntrySettings.Sound.follows {entry : EntrySettings} (h : entry.Sound) :
    Rule.Follows entry (Rule.ofSettings entry) where
  isAllow := rfl
  conditions := Condition.parse?_follows h.conditions
  processes := fun _ => mem_keys_nameSet
  apps := fun _ => mem_keys_nameSet
  limitedProcesses := Limit.ofSetting_follows
    (fun setting hmem => h.limits setting (List.mem_append_left _ hmem))
  limitedApps := Limit.ofSetting_follows
    (fun setting hmem => h.limits setting (List.mem_append_right _ hmem))

/-- The rules that entries which make sense become say what the entries say, one by one. -/
lemma Rule.ofSettings_follows {entries : List EntrySettings} (h : ∀ entry ∈ entries, entry.Sound) :
    List.Forall₂ Rule.Follows entries (entries.map Rule.ofSettings) := by
  rw [List.forall₂_map_right_iff, List.forall₂_same]
  exact fun entry hmem => (h entry hmem).follows

lemma ConfigFile.Sound.keeps {file : ConfigFile} (h : file.Sound) (env : Environment) :
    (Policy.ofFile env file).Keeps file where
  version := rfl
  plugin := fun name hgiven => by simp [Policy.ofFile, hgiven]
  dataDir := fun path hgiven => by simp [Policy.ofFile, hgiven]
  strategies := rfl
  napSwitch := fun on hgiven => by simp [Policy.ofFile, hgiven]
  sleepSwitch := fun on hgiven => by simp [Policy.ofFile, hgiven]
  dark := fun seconds hgiven =>
    secondsOr_given hgiven (h.timeouts seconds (by simp [TimeoutSettings.given, hgiven]))
  nap := fun seconds hgiven =>
    secondsOr_given hgiven (h.timeouts seconds (by simp [TimeoutSettings.given, hgiven]))
  napMaintenance := fun seconds hgiven =>
    secondsOr_given hgiven (h.timeouts seconds (by simp [TimeoutSettings.given, hgiven]))
  sleepMaintenance := fun seconds hgiven =>
    secondsOr_given hgiven (h.timeouts seconds (by simp [TimeoutSettings.given, hgiven]))
  napIntervals := fun given hgiven => intervalsOr_given hgiven (fun seconds hmem =>
    h.intervals seconds (by simp [IntervalSettings.given, hgiven, hmem]))
  sleepIntervals := fun given hgiven => intervalsOr_given hgiven (fun seconds hmem =>
    h.intervals seconds (by simp [IntervalSettings.given, hgiven, hmem]))
  night := fun night hgiven => by
    obtain ⟨hstart, hstop⟩ := h.night night hgiven
    simpa [Policy.ofFile, hgiven] using nightOr_follows hstart hstop
  entries := by
    intro name entries hget hunshadowed
    obtain ⟨hknown, hentries⟩ := h.resources name entries hget
    obtain ⟨kind, hkind⟩ := Option.isSome_iff_exists.1 hknown
    exact ⟨kind, entries.map Rule.ofSettings, hkind,
      Policy.mem_resources_ofFile.2 ⟨name, entries, hget, hkind, hunshadowed, rfl⟩,
      Rule.ofSettings_follows hentries⟩
  rules := by
    intro kind rules hrules
    obtain ⟨name, entries, hget, hkind, hunshadowed, rfl⟩ := Policy.mem_resources_ofFile.1 hrules
    exact ⟨name, entries, hget, hkind, hunshadowed,
      Rule.ofSettings_follows (h.resources name entries hget).2⟩

/-- A file has no faults exactly if everything in it makes sense, from its version to the limits of
each entry; and whatever a file without faults gives is in its policy, but for what it gives under
names that are shadowed. -/
theorem faultless_files_are_kept (env : Environment) (file : ConfigFile) :
    (file.faults = [] ↔ file.Sound) ∧ (file.faults = [] → (Policy.ofFile env file).Keeps file) :=
  ⟨ConfigFile.faults_eq_nil_iff, fun hfaults => (ConfigFile.faults_eq_nil_iff.1 hfaults).keeps env⟩

/-- A file that gives a value of every kind. -/
def fullFile (dark limit : Int) : ConfigFile where
  format := 1
  version := some "1.0.0.12"
  strategies := ["network"]
  service := { plugin := some "traced", dataDir := some "/data" }
  switches := { nap := some false, sleep := some true }
  timeouts := { dark := some dark, nap := some 0 }
  intervals := { nap := some [600, 60, 600], sleep := some [] }
  night := some ⟨"23:05", "+6:0"⟩
  resources := Table.ofList [("Network",
    [{ conditions := ["Day_Standby | night_standby"], limitedApps := [⟨"mail", limit⟩] }])]

/-- A timeout of no seconds is kept, and so are the condition and the limit of the one entry; but
neither timeout nor limit may be negative. -/
theorem full_file_is_kept :
    let policy := Policy.ofFile {} (fullFile 0 60)
    policy.Keeps (fullFile 0 60) ∧ policy.timeouts.dark = 0 ∧ policy.night = ⟨⟨23, 5⟩, ⟨6, 0⟩⟩ ∧
      policy.resources = [(.network,
        [{ isAllow := true, conditions := [Condition.day ||| Condition.night],
           processes := Table.empty, apps := Table.empty,
           limitedProcesses := [], limitedApps := [⟨"mail", 60⟩] }])] ∧
      (fullFile (-1) 60).faults ≠ [] ∧ (fullFile 0 (-1)).faults ≠ [] := by
  intro policy
  obtain ⟨-, hkeeps⟩ := faultless_files_are_kept {} (fullFile 0 60)
  obtain ⟨hnegative, -⟩ := faultless_files_are_kept {} (fullFile (-1) 60)
  obtain ⟨hlimit, -⟩ := faultless_files_are_kept {} (fullFile 0 (-1))
  refine ⟨hkeeps (by decide +kernel), by decide +kernel, by decide +kernel, by decide +kernel,
    ?_, ?_⟩
  · intro hfaults
    exact absurd ((hnegative.1 hfaults).timeouts (-1) (by decide)) (by decide)
  · intro hfaults
    have hentry := ((hlimit.1 hfaults).resources "Network" _ (by rfl)).2 _ List.mem_cons_self
    exact absurd (hentry.limits ⟨"mail", -1⟩ (by simp)) (by decide)

/-- An entry that limits the network for `mail` is not in the policy if it stands under the first of
two spellings, although the file has no faults: there is no limit for any name. -/
theorem limit_under_first_spelling_is_lost :
    let limited : EntrySettings :=
      { conditions := ["night_standby"], limitedApps := [⟨"mail", 60⟩] }
    let file := twoSpellings [limited] [allowedByNight "music"]
    let policy := Policy.ofFile {} file
    file.faults = [] ∧ file.resources.get? "Network" = some [limited] ∧
      ∀ resource ∈ policy.resources, ∀ rule ∈ resource.2, rule.limitedApps = [] := by
  decide +kernel

end DeviceStandby
