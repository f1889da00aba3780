import DeviceStandby.Proofs.FaithfulPolicies
import Mathlib.Order.Bounds.Basic
import Mathlib.Order.MinMax

/-!
# What a policy answers

A policy is asked how long an exemption of a name may last, and which names are exempted for good.
The answers are said here in terms of what the file states for a resource, a condition and a class of
callers (`Stated`): the longest limit that is stated for the name, and the set of names that are
stated (`Policy.maxDuration_ofFile`, `Policy.mem_persistent_ofFile`).

It does not matter how a file states it.  Entries can be reordered, repeated and split, and their
conditions can be written in other ways (`Respelled`, `Rearranged`); what is stated stays the same
(`Rearranged.stated_iff`), and so do the answers (`answers_are_what_is_stated`).  This is so for files
with one name for each resource, since nothing that is stated under a shadowed name counts.
-/

namespace DeviceStandby

/-! ## What entries state -/

/-- A text names a condition. -/
def Condition.IsNamedIn (condition : Mask) (text : String) : Prop :=
  ∃ name ∈ Condition.namesIn text, Condition.ofName? name = some condition

namespace EntrySettings

/-- One of the texts of the entry names the condition. -/
def Mentions (entry : EntrySettings) (condition : Mask) : Prop :=
  ∃ text ∈ entry.conditions, Condition.IsNamedIn condition text

/-- The apps of the entry, or its processes. -/
def names (entry : EntrySettings) (isApp : Bool) : List String :=
  if isApp then entry.apps else entry.processes

/-- The limits for apps, or for processes. -/
def limits (entry : EntrySettings) (isApp : Bool) : List LimitSetting :=
  if isApp then entry.limitedApps else entry.limitedProcesses

end EntrySettings

/-- An item is stated by one of the entries that allow, or restrict, under the condition. -/
def Stated {α : Type} (entries : List EntrySettings) (items : EntrySettings → List α)
    (condition : Mask) (isAllow : Bool) (item : α) : Prop :=
  ∃ entry ∈ entries, entry.isAllow = isAllow ∧ entry.Mentions condition ∧ item ∈ items entry

/-- The seconds that are stated as limits of a name, as far as 32 bits hold them. -/
def statedCaps (entries : List EntrySettings) (condition : Mask) (isApp : Bool) (name : String) :
    Set Int :=
  {cap | ∃ limit, Stated entries (·.limits isApp) condition true limit ∧ limit.name = name ∧
    cap = min limit.maxDuration Width.int32.greatest}

/-- No two names mean one resource. -/
def ConfigFile.OneNameEach (file : ConfigFile) : Prop :=
  ∀ kind, (file.sections kind).length ≤ 1

/-! ## The greatest of some numbers -/

lemma foldl_max_cases (list : List Int) (start : Int) :
    (∀ x ∈ list, x ≤ list.foldl max start) ∧ start ≤ list.foldl max start ∧
      (list.foldl max start = start ∨ list.foldl max start ∈ list) := by
  induction list generalizing start with
  | nil => simp
  | cons x list ih =>
    obtain ⟨hbound, hstart, hcases⟩ := ih (max start x)
    rw [List.foldl_cons]
    refine ⟨List.forall_mem_cons.2 ⟨by omega, hbound⟩, by omega, ?_⟩
    rcases hcases with hsame | hmem
    · rw [hsame]
      rcases max_choice start x with hmax | hmax
      · exact Or.inl hmax
      · exact Or.inr (by rw [hmax]; exact List.mem_cons_self)
    · exact Or.inr (List.mem_cons_of_mem _ hmem)

lemma isGreatest_foldl_max {list : List Int} (hnonneg : ∀ x ∈ list, 0 ≤ x) (hne : list ≠ []) :
    IsGreatest {x | x ∈ list} (list.foldl max 0) := by
  obtain ⟨hbound, -, hcases⟩ := foldl_max_cases list 0
  refine ⟨?_, fun x hx => hbound x hx⟩
  rcases hcases with hzero | hmem
  · obtain ⟨x, hx⟩ := List.exists_mem_of_ne_nil list hne
    have hsame : x = list.foldl max 0 := le_antisymm (hbound x hx) (by rw [hzero]; exact hnonneg x hx)
    exact hsame ▸ hx
  · exact hmem

/-! ## Rules and entries -/

section Rules

variable {entry : EntrySettings} {condition : Mask}

/-- A rule applies under a condition exactly if its entry mentions it. -/
lemma EntrySettings.Sound.appliesTo_iff (h : entry.Sound)
    (hcondition : condition = Condition.day ∨ condition = Condition.night) :
    (Rule.ofSettings entry).appliesTo condition = true ↔ entry.Mentions condition := by
  have hnonzero : (condition != 0) = true := by rcases hcondition with rfl | rfl <;> rfl
  rw [Rule.appliesTo, hnonzero, Bool.true_and, List.any_eq_true, Rule.ofSettings]
  constructor
  · rintro ⟨set, hmem, hcovers⟩
    obtain ⟨text, htext, hread⟩ := List.mem_filterMap.1 hmem
    exact ⟨text, htext, (Condition.covers_parse? hread hcondition).1 hcovers⟩
  · rintro ⟨text, htext, hnamed⟩
    obtain ⟨set, hread⟩ := Option.isSome_iff_exists.1 (h.conditions text htext)
    exact ⟨set, List.mem_filterMap.2 ⟨text, htext, hread⟩,
      (Condition.covers_parse? hread hcondition).2 hnamed⟩

lemma EntrySettings.Sound.maxDuration_nonneg (h : entry.Sound) {isApp : Bool}
    {setting : LimitSetting} (hmem : setting ∈ entry.limits isApp) : 0 ≤ setting.maxDuration := by
  cases isApp with
  | true => exact h.limits setting (List.mem_append_right _ hmem)
  | false => exact h.limits setting (List.mem_append_left _ hmem)

end Rules

namespace Policy

variable {env : Environment} {file : ConfigFile} {resource : String} {kind : Resource}

/-- The rules for a name are those for the resource that it means. -/
lemma rulesNamed_ofFile (hkind : Resource.ofName? resource = some kind) :
    (ofFile env file).rulesNamed resource = (rulesOf file.resources kind).getD [] := by
  rw [rulesNamed, hkind]
  dsimp only
  split
  · rename_i found hfound
    obtain ⟨other, rules⟩ := found
    obtain rfl : other = kind := by simpa using List.find?_some hfound
    rw [mem_resources_iff.1 (List.mem_of_find?_eq_some hfound), Option.getD_some]
  · rename_i hnone
    cases hrules : rulesOf file.resources kind with
    | none => rfl
    | some rules =>
      have habsent := List.find?_eq_none.1 hnone (kind, rules) (mem_resources_iff.2 hrules)
      exact absurd (decide_eq_true rfl) habsent

/-- With one name for each resource, the rules are the entries. -/
lemma rulesNamed_of_oneNameEach (hone : file.OneNameEach)
    (hkind : Resource.ofName? resource = some kind) :
    (ofFile env file).rulesNamed resource = (file.entriesFor kind).map Rule.ofSettings := by
  have hlength := hone kind
  have hrules : rulesOf file.resources kind =
      (file.sections kind).getLast?.map (fun entry => entry.2.map Rule.ofSettings) := rfl
  rw [rulesNamed_ofFile hkind, hrules, ConfigFile.entriesFor]
  cases hsections : file.sections kind with
  | nil => rfl
  | cons entry rest =>
    rw [hsections, List.length_cons] at hlength
    have hrest : rest = [] := List.length_eq_zero_iff.1 (by omega)
    rw [hrest, List.flatMap_singleton]
    rfl

/-! ### Answers -/

variable (env) {condition : Mask} (hsound : ∀ entry ∈ file.entriesFor kind, entry.Sound)
  (hone : file.OneNameEach) (hkind : Resource.ofName? resource = some kind)
  (hcondition : condition = Condition.day ∨ condition = Condition.night)

include hsound hone hkind hcondition

lemma mem_rulesFor_ofFile {isAllow : Bool} {rule : Rule} :
    rule ∈ (ofFile env file).rulesFor resource condition isAllow ↔
      ∃ entry ∈ file.entriesFor kind, entry.isAllow = isAllow ∧ entry.Mentions condition ∧
        Rule.ofSettings entry = rule := by
  rw [rulesFor, rulesNamed_of_oneNameEach hone hkind, List.mem_filter, List.mem_map]
  constructor
  · rintro ⟨⟨entry, hmem, rfl⟩, hfor⟩
    rw [Bool.and_eq_true, beq_iff_eq, (hsound entry hmem).appliesTo_iff hcondition] at hfor
    exact ⟨entry, hmem, hfor.1, hfor.2, rfl⟩
  · rintro ⟨entry, hmem, hallow, hmentions, rfl⟩
    refine ⟨⟨entry, hmem, rfl⟩, ?_⟩
    rw [Bool.and_eq_true, beq_iff_eq, (hsound entry hmem).appliesTo_iff hcondition]
    exact ⟨hallow, hmentions⟩

/-- The names that are exempted for good are those that are stated. -/
lemma mem_persistent_ofFile (isAllow isApp : Bool) (name : String) :
    name ∈ (ofFile env file).persistent resource condition isAllow isApp ↔
      Stated (file.entriesFor kind) (·.names isApp) condition isAllow name := by
  have hnames : ∀ entry : EntrySettings, name ∈ (if isApp then (Rule.ofSettings entry).apps.keys
      else (Rule.ofSettings entry).processes.keys) ↔ name ∈ entry.names isApp := by
    intro entry
    cases isApp <;> exact mem_keys_nameSet
  rw [persistent, mem_keys_nameSet, List.mem_flatMap]
  constructor
  · rintro ⟨rule, hrule, hname⟩
    obtain ⟨entry, hmem, hallow, hmentions, rfl⟩ :=
      (mem_rulesFor_ofFile env hsound hone hkind hcondition).1 hrule
    exact ⟨entry, hmem, hallow, hmentions, (hnames entry).1 hname⟩
  · rintro ⟨entry, hmem, hallow, hmentions, hname⟩
    exact ⟨Rule.ofSettings entry, (mem_rulesFor_ofFile env hsound hone hkind hcondition).2
      ⟨entry, hmem, hallow, hmentions, rfl⟩, (hnames entry).2 hname⟩

/-- The longest exemption of a name is taken from the limits that are stated for it. -/
lemma exists_maxDuration_ofFile (name : String) (isApp : Bool) :
    ∃ list : List Int,
      (∀ cap, cap ∈ list ↔ cap ∈ statedCaps (file.entriesFor kind) condition isApp name) ∧
        (ofFile env file).maxDuration name resource condition isApp = list.foldl max 0 := by
  refine ⟨_, fun cap => ?_, rfl⟩
  have hlimits : ∀ entry : EntrySettings, (if isApp then (Rule.ofSettings entry).limitedApps
      else (Rule.ofSettings entry).limitedProcesses) =
        (entry.limits isApp).map Limit.ofSetting := by
    intro entry
    cases isApp <;> rfl
  simp only [List.mem_map, List.mem_filter, List.mem_flatMap, decide_eq_true_eq,
    mem_rulesFor_ofFile env hsound hone hkind hcondition]
  constructor
  · rintro ⟨limit, ⟨⟨rule, ⟨entry, hmem, hallow, hmentions, rfl⟩, hlimit⟩, hname⟩, rfl⟩
    rw [hlimits] at hlimit
    obtain ⟨setting, hsetting, rfl⟩ := List.mem_map.1 hlimit
    have hseconds := Int.toNat_of_nonneg ((hsound entry hmem).maxDuration_nonneg hsetting)
    exact ⟨setting, ⟨entry, hmem, hallow, hmentions, hsetting⟩, hname,
      by rw [Limit.ofSetting, hseconds]⟩
  · rintro ⟨setting, ⟨entry, hmem, hallow, hmentions, hsetting⟩, hname, rfl⟩
    have hseconds := Int.toNat_of_nonneg ((hsound entry hmem).maxDuration_nonneg hsetting)
    refine ⟨Limit.ofSetting setting, ⟨⟨Rule.ofSettings entry,
      ⟨entry, hmem, hallow, hmentions, rfl⟩, ?_⟩, hname⟩, by rw [Limit.ofSetting, hseconds]⟩
    rw [hlimits]
    exact List.mem_map_of_mem hsetting

/-- The longest exemption of a name is the longest one that is stated for it, and none if there is
none. -/
lemma isGreatest_maxDuration_ofFile (name : String) (isApp : Bool) :
    let caps := statedCaps (file.entriesFor kind) condition isApp name
    let longest := (ofFile env file).maxDuration name resource condition isApp
    (caps.Nonempty → IsGreatest caps longest) ∧ (caps = ∅ → longest = 0) := by
  intro caps longest
  obtain ⟨list, hlist, hlongest⟩ :=
    exists_maxDuration_ofFile env hsound hone hkind hcondition name isApp
  have hset : {cap | cap ∈ list} = caps := Set.ext hlist
  refine ⟨fun hnonempty => ?_, fun hempty => ?_⟩
  · rw [show longest = _ from hlongest, ← hset]
    refine isGreatest_foldl_max (fun cap hcap => ?_) ?_
    · obtain ⟨setting, ⟨entry, hmem, -, -, hsetting⟩, -, rfl⟩ := (hlist cap).1 hcap
      have hgreatest : 0 ≤ Width.int32.greatest := by decide
      exact le_min ((hsound entry hmem).maxDuration_nonneg hsetting) hgreatest
    · obtain ⟨cap, hcap⟩ := hnonempty
      exact List.ne_nil_of_mem ((hlist cap).2 hcap)
  · have hnil : list = [] := by
      refine List.eq_nil_iff_forall_not_mem.2 (fun cap hcap => ?_)
      have hstated : cap ∈ caps := (hlist cap).1 hcap
      rw [hempty] at hstated
      exact hstated
    rw [show longest = _ from hlongest, hnil]
    rfl

end Policy

/-! ## Stating the same in another way -/

/-- The parts are for the same conditions and allow, or restrict, as the whole does; together they
give its names and limits. -/
structure EntrySettings.SplitsInto (whole : EntrySettings) (parts : List EntrySettings) :
    Prop where
  isAllow : ∀ part ∈ parts, part.isAllow = whole.isAllow
  conditions : ∀ part ∈ parts, part.conditions = whole.conditions
  names : ∀ isApp name, name ∈ whole.names isApp ↔ ∃ part ∈ parts, name ∈ part.names isApp
  limits : ∀ isApp limit, limit ∈ whole.limits isApp ↔ ∃ part ∈ parts, limit ∈ part.limits isApp

/-- Conditions that are written in another way: two texts as one with a bar between them and blanks
around the bar, or letters in another case. -/
inductive Respelled : List String → List String → Prop
  | join (front back : List String) (left right : String) {before behind : String}
      (hbefore : ∀ c ∈ before.toList, isBlank c = true)
      (hbehind : ∀ c ∈ behind.toList, isBlank c = true) :
      Respelled (front ++ left :: right :: back)
        (front ++ (left ++ before ++ "|" ++ behind ++ right) :: back)
  | letters (front back : List String) {text other : String}
      (h : lowerAscii text = lowerAscii other) :
      Respelled (front ++ text :: back) (front ++ other :: back)

/-- Entries that are arranged in another way. -/
inductive Rearranged : List EntrySettings → List EntrySettings → Prop
  | reorder {entries others : List EntrySettings} (h : entries.Perm others) :
      Rearranged entries others
  | split {whole : EntrySettings} {parts : List EntrySettings} (rest : List EntrySettings)
      (h : whole.SplitsInto parts) : Rearranged (whole :: rest) (parts ++ rest)
  | duplicate {entry : EntrySettings} {entries : List EntrySettings} (h : entry ∈ entries) :
      Rearranged entries (entry :: entries)
  | respell (entry : EntrySettings) {conditions : List String} (rest : List EntrySettings)
      (h : Respelled entry.conditions conditions) :
      Rearranged (entry :: rest) ({ entry with conditions } :: rest)
  | symm {entries others : List EntrySettings} (h : Rearranged entries others) :
      Rearranged others entries
  | trans {entries others more : List EntrySettings} (h : Rearranged entries others)
      (h' : Rearranged others more) : Rearranged entries more

/-! ### Conditions -/

/-- The case of letters does not matter for what a text names. -/
lemma Condition.isNamedIn_of_letters (condition : Mask) {text other : String}
    (h : lowerAscii text = lowerAscii other) :
    Condition.IsNamedIn condition text ↔ Condition.IsNamedIn condition other := by
  have hread : ∀ text, Condition.IsNamedIn condition text ↔
      some condition ∈ ((Condition.namesIn text).map lowerAscii).map (fun lower =>
        if lower = "day_standby" then some Condition.day
        else if lower = "night_standby" then some Condition.night
        else none) := by
    intro text
    rw [List.map_map]
    exact List.mem_map.symm
  rw [hread, hread, Condition.namesIn_of_letters h]

/-- A text with a bar names what its halves name. -/
lemma Condition.isNamedIn_bar (condition : Mask) {before behind : String}
    (hbefore : ∀ c ∈ before.toList, isBlank c = true)
    (hbehind : ∀ c ∈ behind.toList, isBlank c = true) (left right : String) :
    Condition.IsNamedIn condition (left ++ before ++ "|" ++ behind ++ right) ↔
      Condition.IsNamedIn condition left ∨ Condition.IsNamedIn condition right := by
  rw [Condition.IsNamedIn, Condition.namesIn_bar hbefore hbehind]
  simp only [List.mem_append, or_and_right, exists_or, Condition.IsNamedIn]

lemma Respelled.isNamedIn_iff {conditions others : List String} (h : Respelled conditions others)
    (condition : Mask) :
    (∃ text ∈ conditions, Condition.IsNamedIn condition text) ↔
      ∃ text ∈ others, Condition.IsNamedIn condition text := by
  cases h with
  | join front back left right hbefore hbehind =>
    have hnamed := Condition.isNamedIn_bar condition hbefore hbehind left right
    simp only [List.mem_append, List.mem_cons, or_and_right, exists_or, exists_eq_left, hnamed,
      or_assoc]
  | letters front back hsame =>
    have hnamed := Condition.isNamedIn_of_letters condition hsame
    simp only [List.mem_append, List.mem_cons, or_and_right, exists_or, exists_eq_left, hnamed]

/-! ### Entries -/

section Stating

variable {α : Type} {items : EntrySettings → List α} {condition : Mask} {isAllow : Bool} {item : α}

lemma stated_append {entries others : List EntrySettings} :
    Stated (entries ++ others) items condition isAllow item ↔
      Stated entries items condition isAllow item ∨ Stated others items condition isAllow item := by
  simp only [Stated, List.mem_append, or_and_right, exists_or]

lemma stated_cons {entry : EntrySettings} {entries : List EntrySettings} :
    Stated (entry :: entries) items condition isAllow item ↔
      (entry.isAllow = isAllow ∧ entry.Mentions condition ∧ item ∈ items entry) ∨
        Stated entries items condition isAllow item := by
  simp only [Stated, List.mem_cons, or_and_right, exists_or, exists_eq_left]

/-- Together the parts of an entry state what the entry states. -/
lemma EntrySettings.SplitsInto.stated_iff {whole : EntrySettings} {parts : List EntrySettings}
    (h : whole.SplitsInto parts) (hitems : item ∈ items whole ↔ ∃ part ∈ parts, item ∈ items part) :
    Stated parts items condition isAllow item ↔
      whole.isAllow = isAllow ∧ whole.Mentions condition ∧ item ∈ items whole := by
  have hsame : ∀ part ∈ parts, (part.isAllow = isAllow ∧ part.Mentions condition ↔
      whole.isAllow = isAllow ∧ whole.Mentions condition) := by
    intro part hpart
    rw [EntrySettings.Mentions, h.isAllow part hpart, h.conditions part hpart,
      EntrySettings.Mentions]
  rw [hitems]
  constructor
  · rintro ⟨part, hpart, hallow, hmentions, hitem⟩
    obtain ⟨hwhole, hmentioned⟩ := (hsame part hpart).1 ⟨hallow, hmentions⟩
    exact ⟨hwhole, hmentioned, part, hpart, hitem⟩
  · rintro ⟨hwhole, hmentioned, part, hpart, hitem⟩
    obtain ⟨hallow, hmentions⟩ := (hsame part hpart).2 ⟨hwhole, hmentioned⟩
    exact ⟨part, hpart, hallow, hmentions, hitem⟩

/-- Whatever is stated stays so when the entries are arranged in another way. -/
lemma Rearranged.stated_iff
    (hsplit : ∀ whole parts, whole.SplitsInto parts →
      (item ∈ items whole ↔ ∃ part ∈ parts, item ∈ items part))
    (hrespell : ∀ entry conditions, items { entry with conditions } = items entry)
    {entries others : List EntrySettings} (h : Rearranged entries others) :
    Stated entries items condition isAllow item ↔ Stated others items condition isAllow item := by
  induction h with
  | reorder hperm => simp only [Stated, hperm.mem_iff]
  | split rest hparts =>
    rw [stated_cons, stated_append, hparts.stated_iff (hsplit _ _ hparts)]
  | duplicate hmem =>
    rw [stated_cons, or_iff_right_of_imp]
    exact fun hstated => ⟨_, hmem, hstated⟩
  | @respell entry conditions rest hspelled =>
    have hmentions : entry.Mentions condition ↔
        ({ entry with conditions } : EntrySettings).Mentions condition :=
      hspelled.isNamedIn_iff condition
    rw [stated_cons, stated_cons, hrespell entry conditions, hmentions]
  | symm _ ih => exact ih.symm
  | trans _ _ ih ih' => exact ih.trans ih'

end Stating

lemma Rearranged.stated_names_iff {entries others : List EntrySettings}
    (h : Rearranged entries others) {condition : Mask} {isAllow isApp : Bool} {name : String} :
    Stated entries (·.names isApp) condition isAllow name ↔
      Stated others (·.names isApp) condition isAllow name :=
  h.stated_iff (fun _ _ hparts => hparts.names isApp name) (fun _ _ => rfl)

lemma Rearranged.statedCaps_eq {entries others : List EntrySettings}
    (h : Rearranged entries others) (condition : Mask) (isApp : Bool) (name : String) :
    statedCaps entries condition isApp name = statedCaps others condition isApp name := by
  have hstated : ∀ limit, Stated entries (·.limits isApp) condition true limit ↔
      Stated others (·.limits isApp) condition true limit := fun limit =>
    h.stated_iff (fun _ _ hparts => hparts.limits isApp limit) (fun _ _ => rfl)
  simp only [statedCaps, hstated]

/-! ## Answers -/

lemma Policy.persistent_sorted (policy : Policy) (resource : String) (condition : Mask)
    (isAllow isApp : Bool) :
    (policy.persistent resource condition isAllow isApp).Pairwise (· < ·) :=
  List.pairwise_map.2 (Table.sorted _)

lemma ConfigFile.Sound.entriesFor {file : ConfigFile} (h : file.Sound) (kind : Resource) :
    ∀ entry ∈ file.entriesFor kind, entry.Sound := by
  intro entry hmem
  obtain ⟨⟨name, entries⟩, hsection, hentry⟩ := List.mem_flatMap.1 hmem
  exact (h.resources name entries (mem_sections.1 hsection).1).2 entry hentry

/-- Let a file have no faults and no two names for one resource.  By day and by night, for apps and
for processes, the policy answers what the file states: an exemption of a name may last as long as
the greatest of the limits that are stated for the name, each as far as 32 bits hold it, or not at
all if there is none; and the names that are allowed, or restricted, for good are those that are
stated, in order.  So any other such file, if the entries for a resource are only arranged in another
way there, leads to the same answers. -/
theorem answers_are_what_is_stated (env : Environment) {file : ConfigFile}
    (hfaults : file.faults = []) (hone : file.OneNameEach) {resource : String} {kind : Resource}
    (hkind : Resource.ofName? resource = some kind) {condition : Mask}
    (hcondition : condition = Condition.day ∨ condition = Condition.night) (isApp : Bool) :
    let policy := Policy.ofFile env file
    (∀ name,
      let caps := statedCaps (file.entriesFor kind) condition isApp name
      (caps.Nonempty → IsGreatest caps (policy.maxDuration name resource condition isApp)) ∧
        (caps = ∅ → policy.maxDuration name resource condition isApp = 0)) ∧
    (∀ isAllow, (policy.persistent resource condition isAllow isApp).Pairwise (· < ·) ∧
      ∀ name, name ∈ policy.persistent resource condition isAllow isApp ↔
        Stated (file.entriesFor kind) (·.names isApp) condition isAllow name) ∧
    ∀ (env' : Environment) (other : ConfigFile), other.faults = [] → other.OneNameEach →
      Rearranged (file.entriesFor kind) (other.entriesFor kind) →
      (∀ name, (Policy.ofFile env' other).maxDuration name resource condition isApp =
        policy.maxDuration name resource condition isApp) ∧
      ∀ isAllow, (Policy.ofFile env' other).persistent resource condition isAllow isApp =
        policy.persistent resource condition isAllow isApp := by
  intro policy
  have hsound := (ConfigFile.faults_eq_nil_iff.1 hfaults).entriesFor kind
  have hlongest := fun name => Policy.isGreatest_maxDuration_ofFile env hsound hone hkind
    hcondition name isApp
  have hnames := fun isAllow name =>
    Policy.mem_persistent_ofFile env hsound hone hkind hcondition isAllow isApp name
  refine ⟨hlongest, fun isAllow => ⟨policy.persistent_sorted _ _ _ _, hnames isAllow⟩, ?_⟩
  intro env' other hfaults' hone' hrearranged
  have hsound' := (ConfigFile.faults_eq_nil_iff.1 hfaults').entriesFor kind
  refine ⟨fun name => ?_, fun isAllow => ?_⟩
  · have hlongest' := Policy.isGreatest_maxDuration_ofFile env' hsound' hone' hkind
      hcondition name isApp
    rw [← hrearranged.statedCaps_eq condition isApp name] at hlongest'
    rcases Set.eq_empty_or_nonempty (statedCaps (file.entriesFor kind) condition isApp name) with
      hempty | hnonempty
    · rw [hlongest'.2 hempty, (hlongest name).2 hempty]
    · exact (hlongest'.1 hnonempty).unique ((hlongest name).1 hnonempty)
  · refine Table.eq_of_sorted id (Policy.persistent_sorted _ _ _ _ _)
      (Policy.persistent_sorted _ _ _ _ _) (fun name => ?_)
    rw [Policy.mem_persistent_ofFile env' hsound' hone' hkind hcondition, hnames isAllow name]
    exact hrearranged.stated_names_iff.symm

/-! ## Two files that state the same -/

/-- A file with some entries under one name. -/
def fileOf (name : String) (entries : List EntrySettings) : ConfigFile where
  format := 1
  resources := Table.ofList [(name, entries)]

lemma oneNameEach_fileOf (name : String) (entries : List EntrySettings) :
    (fileOf name entries).OneNameEach := by
  intro kind
  have hlist : (fileOf name entries).resources.entries = [(name, entries)] := rfl
  rw [ConfigFile.sections, hlist]
  exact List.length_filter_le _ _

/-- An entry that allows some apps for good, and `mail` for as long as the limits say. -/
def mailFor (limits : List Int) (apps conditions : List String) : EntrySettings where
  conditions := conditions
  apps := apps
  limitedApps := limits.map (⟨"mail", ·⟩)

/-- Two limits can be stated in two entries, the second of them first and twice, and two conditions
in one text. -/
lemma rearranged_mailFor :
    Rearranged [mailFor [60, 90] ["music"] ["day_standby", "night_standby"]]
      [mailFor [90] [] ["Day_Standby | NIGHT_STANDBY"],
        mailFor [90] [] ["Day_Standby | NIGHT_STANDBY"],
        mailFor [60] ["music"] ["Day_Standby | NIGHT_STANDBY"]] := by
  have hgap : ∀ c ∈ " ".toList, isBlank c = true := by
    intro c hc
    rw [List.mem_singleton.1 hc]
    rfl
  have hjoin := Respelled.join [] [] "day_standby" "night_standby" hgap hgap
  have htext : "day_standby" ++ " " ++ "|" ++ " " ++ "night_standby" =
      "day_standby | night_standby" := by decide
  rw [htext] at hjoin
  have hletters : lowerAscii "day_standby | night_standby" =
      lowerAscii "Day_Standby | NIGHT_STANDBY" := by
    have hlower : lowerAscii "Day_Standby | NIGHT_STANDBY" = "day_standby | night_standby" := by
      decide +kernel
    rw [hlower]
    decide +kernel
  have hparts : (mailFor [60, 90] ["music"] ["Day_Standby | NIGHT_STANDBY"]).SplitsInto
      [mailFor [60] ["music"] ["Day_Standby | NIGHT_STANDBY"],
        mailFor [90] [] ["Day_Standby | NIGHT_STANDBY"]] := by
    refine ⟨by simp [mailFor], by simp [mailFor], ?_, ?_⟩
    · intro isApp name
      cases isApp <;> simp [mailFor, EntrySettings.names]
    · intro isApp limit
      cases isApp <;> simp [mailFor, EntrySettings.limits]
  have hrespelled := (Rearranged.respell (mailFor [60, 90] ["music"] _) [] hjoin).trans
    (.respell (mailFor [60, 90] ["music"] ["day_standby | night_standby"]) []
      (.letters [] [] hletters))
  have hsplit := hrespelled.trans (.split [] hparts)
  have hturned := hsplit.trans (.reorder (List.Perm.swap _ _ []))
  exact hturned.trans (.duplicate List.mem_cons_self)

/-- Under either file `mail` may use the network for a minute and a half by night, and `music` for
good. -/
theorem answers_for_mail_and_music :
    let whole := mailFor [60, 90] ["music"] ["day_standby", "night_standby"]
    let longer := mailFor [90] [] ["Day_Standby | NIGHT_STANDBY"]
    let shorter := mailFor [60] ["music"] ["Day_Standby | NIGHT_STANDBY"]
    let policy := Policy.ofFile {} (fileOf "network" [whole])
    let other := Policy.ofFile {} (fileOf "Network" [longer, longer, shorter])
    IsGreatest (statedCaps [whole] Condition.night true "mail")
        (policy.maxDuration "mail" "network" Condition.night true) ∧
      policy.maxDuration "mail" "network" Condition.night true = 90 ∧
      policy.maxDuration "music" "network" Condition.night true = 0 ∧
      "music" ∈ policy.persistent "network" Condition.night true true ∧
      other.maxDuration "mail" "network" Condition.night true
        = policy.maxDuration "mail" "network" Condition.night true ∧
      other.persistent "network" Condition.night true true
        = policy.persistent "network" Condition.night true true := by
  intro whole longer shorter policy other
  have hfaults : (fileOf "network" [whole]).faults = [] := by decide +kernel
  have hkind : Resource.ofName? "network" = some .network := by decide +kernel
  have hentries : (fileOf "network" [whole]).entriesFor .network = [whole] := by decide +kernel
  have hothers : (fileOf "Network" [longer, longer, shorter]).entriesFor .network =
      [longer, longer, shorter] := by decide +kernel
  have hmentions : whole.Mentions Condition.night :=
    ⟨"night_standby", by decide, "night_standby", by decide +kernel, by decide +kernel⟩
  obtain ⟨hlongest, hnames, harranged⟩ := answers_are_what_is_stated {} hfaults
    (oneNameEach_fileOf _ _) hkind (Or.inr rfl) true
  rw [hentries] at hlongest hnames harranged
  have hsame := harranged {} (fileOf "Network" [longer, longer, shorter]) (by decide +kernel)
    (oneNameEach_fileOf _ _)
  rw [hothers] at hsame
  obtain ⟨hlimits, hgood⟩ := hsame rearranged_mailFor
  refine ⟨(hlongest "mail").1 ?_, by decide +kernel, (hlongest "music").2 ?_,
    ((hnames true).2 "music").2 ?_, hlimits "mail", hgood true⟩
  · exact ⟨_, ⟨"mail", 60⟩, ⟨whole, List.mem_cons_self, rfl, hmentions, by decide⟩, rfl, rfl⟩
  · refine Set.eq_empty_iff_forall_notMem.2 (fun cap hcap => ?_)
    obtain ⟨limit, ⟨entry, hmem, -, -, hlimit⟩, hname, -⟩ := hcap
    rw [List.mem_singleton.1 hmem] at hlimit
    obtain ⟨seconds, -, rfl⟩ := List.mem_map.1 hlimit
    have hmail : "mail" = "music" := hname
    exact absurd hmail (by decide)
  · exact ⟨whole, List.mem_cons_self, rfl, hmentions, by decide⟩

end DeviceStandby
