import DeviceStandby.Config.Policy
import DeviceStandby.Proofs.FaultlessFiles

/-!
# The rules that a file becomes

A file gives the entries of a resource under a name, and several names can mean one resource, as
`Network` and `network` do.  What becomes of a file are the entries under the last name for each
resource, one by one and in order (`ConfigFile.Shadowed`, `Policy.mem_resources_ofFile`); the entries
under the others are not used.  So a file without faults keeps all of its entries exactly if there
are none under a name that is followed by another one for the same resource (`entries_are_kept_iff`).
-/

namespace DeviceStandby

/-! ## Names for a resource -/

namespace ConfigFile

variable (file : ConfigFile)

/-- The names that mean a resource, with the entries under each. -/
def sections (kind : Resource) : List (String × List EntrySettings) :=
  file.resources.entries.filter (fun entry => Resource.ofName? entry.1 = some kind)

/-- A name that comes later means the same resource. -/
def Shadowed (name : String) : Prop :=
  ∃ later entries, file.resources.get? later = some entries ∧ name < later ∧
    Resource.ofName? later = Resource.ofName? name

/-- The entries under the names for a resource. -/
def entriesFor (kind : Resource) : List EntrySettings := (file.sections kind).flatMap (·.2)

/-- The entries under the last name for a resource. -/
def usedFor (kind : Resource) : List EntrySettings :=
  ((file.sections kind).getLast?.map (·.2)).getD []

/-- How many entries the file gives for all resources. -/
def entryCount : Nat := (file.resources.entries.flatMap (·.2)).length

variable {file} {kind : Resource} {name : String} {entries : List EntrySettings}

lemma mem_sections :
    (name, entries) ∈ file.sections kind ↔
      file.resources.get? name = some entries ∧ Resource.ofName? name = some kind := by
  rw [sections, List.mem_filter, Table.mem_entries, decide_eq_true_iff]

lemma sections_sorted (file : ConfigFile) (kind : Resource) :
    (file.sections kind).Pairwise (fun a b => a.1 < b.1) :=
  file.resources.sorted.sublist List.filter_sublist

/-- The last of the names for a resource comes after all others. -/
lemma sections_concat (hne : file.sections kind ≠ []) :
    ∃ init last, file.sections kind = init ++ [last] ∧ ∀ entry ∈ init, entry.1 < last.1 := by
  obtain ⟨init, last, hsplit⟩ := (file.sections kind).eq_nil_or_concat'.resolve_left hne
  have hsorted := file.sections_sorted kind
  rw [hsplit] at hsorted
  refine ⟨init, last, hsplit, fun entry hentry => ?_⟩
  exact (List.pairwise_append.1 hsorted).2.2 entry hentry last List.mem_cons_self

/-- Of the names for a resource all but the last one are shadowed. -/
lemma shadowed_iff (hmem : (name, entries) ∈ file.sections kind) :
    file.Shadowed name ↔ (name, entries) ∈ (file.sections kind).dropLast := by
  obtain ⟨init, ⟨last, kept⟩, hsplit, hfirst⟩ := sections_concat (List.ne_nil_of_mem hmem)
  have hkind := (mem_sections.1 hmem).2
  rw [hsplit, List.dropLast_concat]
  constructor
  · rintro ⟨later, others, hget, hlt, hsame⟩
    have hlater : (later, others) ∈ file.sections kind := mem_sections.2 ⟨hget, hsame.trans hkind⟩
    rw [hsplit] at hmem hlater
    rcases List.mem_append.1 hmem with hinit | hlast
    · exact hinit
    · obtain ⟨rfl, rfl⟩ := Prod.mk.inj (List.mem_singleton.1 hlast)
      rcases List.mem_append.1 hlater with hbefore | hself
      · exact absurd (String.lt_trans hlt (hfirst _ hbefore)) (String.lt_irrefl _)
      · obtain ⟨rfl, -⟩ := Prod.mk.inj (List.mem_singleton.1 hself)
        exact absurd hlt (String.lt_irrefl _)
  · intro hinit
    have hlast : (last, kept) ∈ file.sections kind := by rw [hsplit]; simp
    obtain ⟨hget, hlastKind⟩ := mem_sections.1 hlast
    exact ⟨last, kept, hget, hfirst _ hinit, hlastKind.trans hkind.symm⟩

/-- The last name for a resource is the one that no other shadows. -/
lemma getLast?_sections :
    (file.sections kind).getLast? = some (name, entries) ↔
      file.resources.get? name = some entries ∧ Resource.ofName? name = some kind ∧
        ¬ file.Shadowed name := by
  rw [← and_assoc, ← mem_sections]
  constructor
  · intro hlast
    have hmem := List.mem_of_getLast? hlast
    obtain ⟨init, last, hsplit, hfirst⟩ := sections_concat (List.ne_nil_of_mem hmem)
    rw [hsplit, List.getLast?_concat, Option.some.injEq] at hlast
    refine ⟨hmem, fun hshadowed => ?_⟩
    rw [shadowed_iff hmem, hsplit, List.dropLast_concat] at hshadowed
    have hlt := hfirst _ hshadowed
    rw [hlast] at hlt
    exact String.lt_irrefl _ hlt
  · rintro ⟨hmem, hunshadowed⟩
    rw [shadowed_iff hmem] at hunshadowed
    obtain ⟨init, last, hsplit, -⟩ := sections_concat (List.ne_nil_of_mem hmem)
    rw [hsplit, List.dropLast_concat] at hunshadowed
    rw [hsplit] at hmem ⊢
    rcases List.mem_append.1 hmem with hinit | hlast
    · exact absurd hinit hunshadowed
    · rw [List.getLast?_concat, List.mem_singleton.1 hlast]

/-! ## Counting entries -/

/-- Each name means one resource, if it means any. -/
lemma entryCount_eq (hknown : ∀ entry ∈ file.resources.entries,
    (Resource.ofName? entry.1).isSome = true) :
    file.entryCount = (Resource.all.flatMap file.entriesFor).length := by
  unfold entryCount entriesFor sections
  generalize file.resources.entries = list at hknown ⊢
  induction list with
  | nil => rfl
  | cons entry rest ih =>
    obtain ⟨kind, hkind⟩ := Option.isSome_iff_exists.1 (hknown entry List.mem_cons_self)
    have hrest := ih (fun other hother => hknown other (List.mem_cons_of_mem _ hother))
    rw [List.flatMap_cons, List.length_append, hrest]
    cases kind <;> simp [Resource.all, hkind] <;> omega

/-- Only what is under the last name is used, so all is used if there is nothing under the others. -/
lemma usedFor_length (file : ConfigFile) (kind : Resource) :
    (file.usedFor kind).length ≤ (file.entriesFor kind).length ∧
      ((file.usedFor kind).length = (file.entriesFor kind).length ↔
        ∀ entry ∈ (file.sections kind).dropLast, entry.2 = []) := by
  by_cases hne : file.sections kind = []
  · simp [usedFor, entriesFor, hne]
  · obtain ⟨init, last, hsplit, -⟩ := sections_concat hne
    have hused : file.usedFor kind = last.2 := by simp [usedFor, hsplit]
    have hgiven : file.entriesFor kind = init.flatMap (·.2) ++ last.2 := by
      simp [entriesFor, hsplit]
    have hnone : (∀ entry ∈ init, entry.2 = []) ↔ (init.flatMap (·.2)).length = 0 := by
      rw [List.length_eq_zero_iff, List.flatMap_eq_nil_iff]
    rw [hused, hgiven, hsplit, List.dropLast_concat, List.length_append, hnone]
    omega

end ConfigFile

namespace Policy

/-- How many rules the policy has for all resources. -/
def ruleCount (policy : Policy) : Nat := (policy.resources.flatMap (·.2)).length

variable {env : Environment} {file : ConfigFile} {kind : Resource} {rules : List Rule}

lemma mem_resources_iff :
    (kind, rules) ∈ (ofFile env file).resources ↔ rulesOf file.resources kind = some rules := by
  simp only [ofFile, List.mem_filterMap, Option.map_eq_some_iff, Prod.mk.injEq]
  constructor
  · rintro ⟨_, -, _, hrules, rfl, rfl⟩
    exact hrules
  · exact fun hrules => ⟨kind, kind.mem_all, rules, hrules, rfl, rfl⟩

/-- The rules for a resource are the entries under the last of its names. -/
lemma mem_resources_ofFile :
    (kind, rules) ∈ (ofFile env file).resources ↔
      ∃ name entries, file.resources.get? name = some entries ∧
        Resource.ofName? name = some kind ∧ ¬ file.Shadowed name ∧
        rules = entries.map Rule.ofSettings := by
  rw [mem_resources_iff, rulesOf, Option.map_eq_some_iff]
  constructor
  · rintro ⟨⟨name, entries⟩, hlast, rfl⟩
    obtain ⟨hget, hkind, hunshadowed⟩ := ConfigFile.getLast?_sections.1 hlast
    exact ⟨name, entries, hget, hkind, hunshadowed, rfl⟩
  · rintro ⟨name, entries, hget, hkind, hunshadowed, rfl⟩
    exact ⟨(name, entries), ConfigFile.getLast?_sections.2 ⟨hget, hkind, hunshadowed⟩, rfl⟩

lemma ruleCount_ofFile (env : Environment) (file : ConfigFile) :
    (ofFile env file).ruleCount = (Resource.all.flatMap file.usedFor).length := by
  have hrules : ∀ kinds : List Resource,
      (kinds.filterMap (fun kind =>
        (rulesOf file.resources kind).map (fun rules => (kind, rules)))).flatMap (·.2) =
          (kinds.flatMap file.usedFor).map Rule.ofSettings := by
    intro kinds
    induction kinds with
    | nil => rfl
    | cons kind kinds ih =>
      have hlast : rulesOf file.resources kind =
          (file.sections kind).getLast?.map (·.2.map Rule.ofSettings) := rfl
      rw [List.filterMap_cons, List.flatMap_cons, List.map_append, ← ih, hlast, ConfigFile.usedFor]
      cases (file.sections kind).getLast? <;> rfl
  rw [ruleCount, ofFile, hrules, List.length_map]

end Policy

/-! ## What is kept -/

/-- If some lists are not longer than others, then together they are as long as those exactly if
each is. -/
lemma length_flatMap_le {α β : Type} {f g : α → List β} (hle : ∀ x, (f x).length ≤ (g x).length)
    (list : List α) :
    (list.flatMap f).length ≤ (list.flatMap g).length ∧
      ((list.flatMap f).length = (list.flatMap g).length ↔
        ∀ x ∈ list, (f x).length = (g x).length) := by
  induction list with
  | nil => simp
  | cons x list ih =>
    have hfirst := hle x
    rw [List.forall_mem_cons, ← ih.2, List.flatMap_cons, List.flatMap_cons, List.length_append,
      List.length_append]
    omega

namespace ConfigFile

variable {file : ConfigFile}

/-- The name under which the entries for a resource are used is the last that means it. -/
lemma exists_unshadowed {kind : Resource} {name : String} {entries : List EntrySettings}
    (hmem : (name, entries) ∈ file.sections kind) :
    ∃ last kept, (last, kept) ∈ file.sections kind ∧ ¬ file.Shadowed last := by
  obtain ⟨init, ⟨last, kept⟩, hsplit, -⟩ := sections_concat (List.ne_nil_of_mem hmem)
  have hlast : (file.sections kind).getLast? = some (last, kept) := by
    rw [hsplit, List.getLast?_concat]
  exact ⟨last, kept, List.mem_of_getLast? hlast, (getLast?_sections.1 hlast).2.2⟩

/-- Everything is used exactly if there is nothing under the names that are shadowed. -/
lemma usedFor_length_eq_iff (hfaults : file.faults = []) :
    (∀ kind ∈ Resource.all, (file.usedFor kind).length = (file.entriesFor kind).length) ↔
      ∀ name entries, file.resources.get? name = some entries → file.Shadowed name →
        entries = [] := by
  constructor
  · intro hequal name entries hget hshadowed
    obtain ⟨hknown, -⟩ := (faults_eq_nil_iff.1 hfaults).resources name entries hget
    obtain ⟨kind, hkind⟩ := Option.isSome_iff_exists.1 hknown
    have hempty := (file.usedFor_length kind).2.1 (hequal kind kind.mem_all)
    exact hempty _ ((shadowed_iff (mem_sections.2 ⟨hget, hkind⟩)).1 hshadowed)
  · intro hempty kind _
    refine (file.usedFor_length kind).2.2 ?_
    rintro ⟨name, entries⟩ hdropped
    have hmem := List.dropLast_subset _ hdropped
    exact hempty name entries (mem_sections.1 hmem).1 ((shadowed_iff hmem).2 hdropped)

end ConfigFile

/-- Let a file have no faults.  Each of its names means a resource that the policy has rules for;
they are the entries under that name, one by one and in order, unless the name is shadowed.  The
policy has no other rules.  So it has no more of them than the file has entries, and as many exactly
if there are no entries under the names that are shadowed. -/
theorem entries_are_kept_iff (env : Environment) {file : ConfigFile} (hfaults : file.faults = []) :
    let policy := Policy.ofFile env file
    (∀ name entries, file.resources.get? name = some entries →
      ∃ kind rules, Resource.ofName? name = some kind ∧ (kind, rules) ∈ policy.resources ∧
        (¬ file.Shadowed name → rules = entries.map Rule.ofSettings)) ∧
    (∀ kind rules, (kind, rules) ∈ policy.resources →
      ∃ name entries, file.resources.get? name = some entries ∧
        Resource.ofName? name = some kind ∧ ¬ file.Shadowed name ∧
        rules = entries.map Rule.ofSettings) ∧
    policy.ruleCount ≤ file.entryCount ∧
    (policy.ruleCount = file.entryCount ↔
      ∀ name entries, file.resources.get? name = some entries → file.Shadowed name →
        entries = []) := by
  intro policy
  have hknown : ∀ entry ∈ file.resources.entries, (Resource.ofName? entry.1).isSome = true :=
    fun entry hentry => ((ConfigFile.faults_eq_nil_iff.1 hfaults).resources entry.1 entry.2
      (Table.mem_entries.1 hentry)).1
  have hgiven := ConfigFile.entryCount_eq hknown
  have hused := Policy.ruleCount_ofFile env file
  have hlengths := length_flatMap_le (fun kind => (file.usedFor_length kind).1) Resource.all
  refine ⟨?_, fun kind rules => Policy.mem_resources_ofFile.1, ?_, ?_⟩
  · intro name entries hget
    obtain ⟨kind, hkind⟩ := Option.isSome_iff_exists.1 (hknown _ (Table.mem_entries.2 hget))
    have hmem := ConfigFile.mem_sections.2 ⟨hget, hkind⟩
    by_cases hshadowed : file.Shadowed name
    · obtain ⟨last, kept, hlast, hunshadowed⟩ := ConfigFile.exists_unshadowed hmem
      obtain ⟨hgetLast, hkindLast⟩ := ConfigFile.mem_sections.1 hlast
      exact ⟨kind, _, hkind, Policy.mem_resources_ofFile.2
        ⟨last, kept, hgetLast, hkindLast, hunshadowed, rfl⟩, fun hnot => absurd hshadowed hnot⟩
    · exact ⟨kind, _, hkind, Policy.mem_resources_ofFile.2
        ⟨name, entries, hget, hkind, hshadowed, rfl⟩, fun _ => rfl⟩
  · rw [hgiven, hused]
    exact hlengths.1
  · rw [hgiven, hused]
    exact hlengths.2.trans (ConfigFile.usedFor_length_eq_iff hfaults)

/-! ## Two spellings -/

/-- An app that may use a resource for good by night. -/
def allowedByNight (app : String) : EntrySettings where
  conditions := ["night_standby"]
  apps := [app]

/-- A file that gives entries for the network under two spellings. -/
def twoSpellings (first second : List EntrySettings) : ConfigFile where
  format := 1
  resources := Table.ofList [("Network", first), ("network", second)]

/-- Without entries under the first spelling, the one entry under the second is kept. -/
theorem entry_is_kept_under_last_spelling :
    let file := twoSpellings [] [allowedByNight "music"]
    (Policy.ofFile {} file).ruleCount = file.entryCount ∧
      ∃ name entries, file.resources.get? name = some entries ∧
        Resource.ofName? name = some .network ∧ ¬ file.Shadowed name ∧
        [Rule.ofSettings (allowedByNight "music")] = entries.map Rule.ofSettings := by
  intro file
  have hfaults : file.faults = [] := by decide +kernel
  obtain ⟨-, hrules, -, hcount⟩ := entries_are_kept_iff {} hfaults
  refine ⟨hcount.2 ?_, hrules _ _ (by decide +kernel)⟩
  have hlist : file.resources.entries =
      [("Network", []), ("network", [allowedByNight "music"])] := by decide +kernel
  rintro name entries hget ⟨later, others, hlater, hlt, -⟩
  rw [← Table.mem_entries, hlist, List.mem_pair] at hget hlater
  rcases hget with hfirst | hsecond
  · exact (Prod.mk.inj hfirst).2
  · obtain ⟨rfl, -⟩ := Prod.mk.inj hsecond
    rcases hlater with hlater | hlater
    · obtain ⟨rfl, -⟩ := Prod.mk.inj hlater
      exact absurd hlt (by decide +kernel)
    · obtain ⟨rfl, -⟩ := Prod.mk.inj hlater
      exact absurd hlt (String.lt_irrefl _)

/-- With an entry under each spelling the file has no faults, but the entry under the first one is
not in the policy: the app that it allows the network for good is not allowed it. -/
theorem entry_under_first_spelling_is_lost :
    let file := twoSpellings [allowedByNight "mail"] [allowedByNight "music"]
    let policy := Policy.ofFile {} file
    file.faults = [] ∧ Resource.ofName? "Network" = some .network ∧
      file.resources.get? "Network" = some [allowedByNight "mail"] ∧
      policy.resources = [(.network, [Rule.ofSettings (allowedByNight "music")])] ∧
      Rule.ofSettings (allowedByNight "mail") ≠ Rule.ofSettings (allowedByNight "music") ∧
      policy.ruleCount = 1 ∧ file.entryCount = 2 ∧
      policy.persistent "Network" Condition.night true true = ["music"] := by
  decide +kernel

end DeviceStandby
