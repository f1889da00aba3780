import DeviceStandby.Config.Fault
import DeviceStandby.Proofs.Numerals
import DeviceStandby.Proofs.SplitTexts

/-!
# Which texts are read as times of day

The form `HH:MM` is one or two digits for the hour, a colon, and one or two digits for the minute
(`ClockTime.WrittenBy TwoDigits`).  All such texts are read, but more than these are: the hour and
the minute are read as bytes are, so a plus sign may stand in front of either, and any number of
zeros after it (`ClockTime.WrittenBy PaddedField`, `TimeText.parse_eq_ok_iff`).  A text of a night
is a fault exactly if it is not even that (`ConfigFile.badTime_mem_faults_iff`,
`TimeText.padded_times_are_read`).
-/

namespace DeviceStandby

/-- A time of day with a colon between the hour and the minute, both written as `field` says. -/
def ClockTime.WrittenBy (field : List Char → Nat → Prop) (text : List Char) (time : ClockTime) :
    Prop :=
  ∃ hour minute, text = hour ++ ':' :: minute ∧ field hour time.hour ∧ field minute time.minute ∧
    time.hour < 24 ∧ time.minute < 60

/-- One digit or two. -/
structure TwoDigits (digits : List Char) (number : Nat) : Prop where
  numeral : Numeral digits number
  length : digits.length ≤ 2

/-- One digit or two, with zeros and a sign in front or without. -/
def PaddedField (text : List Char) (number : Nat) : Prop :=
  ∃ sign zeros digits, (sign = [] ∨ sign = ['+']) ∧
    text = sign ++ List.replicate zeros '0' ++ digits ∧ TwoDigits digits number

section Field

variable {text : List Char} {number : Nat}

lemma TwoDigits.padded (h : TwoDigits text number) : PaddedField text number :=
  ⟨[], 0, text, Or.inl rfl, rfl, h⟩

/-- A number below a hundred is written in more than two digits only with zeros in front. -/
lemma paddedField_iff (hnumber : number < 100) :
    PaddedField text number ↔
      ∃ digits, (text = digits ∨ text = '+' :: digits) ∧ Numeral digits number := by
  constructor
  · rintro ⟨sign, zeros, digits, rfl | rfl, rfl, h⟩
    · exact ⟨_, Or.inl rfl, h.numeral.zeros zeros⟩
    · exact ⟨_, Or.inr rfl, h.numeral.zeros zeros⟩
  · rintro ⟨digits, htext, hnumeral⟩
    obtain ⟨zeros, short, rfl, hshort, hlength⟩ := hnumeral.exists_zeros 2 (by decide) hnumber
    rcases htext with rfl | rfl
    · exact ⟨[], zeros, short, Or.inl rfl, rfl, hshort, hlength⟩
    · exact ⟨['+'], zeros, short, Or.inr rfl, rfl, hshort, hlength⟩

lemma byte_read?_eq_some_iff (hnumber : number < 100) :
    Width.byte.read? text = some (number : Int) ↔ PaddedField text number := by
  rw [Width.read?_eq_some_iff rfl, paddedField_iff hnumber]
  constructor
  · rintro ⟨digits, value, htext, hnumeral, -, hvalue⟩
    obtain rfl := Int.ofNat_inj.1 hvalue
    exact ⟨digits, htext, hnumeral⟩
  · rintro ⟨digits, htext, hnumeral⟩
    refine ⟨digits, number, htext, hnumeral, ?_, rfl⟩
    simp only [Width.greatest]
    omega

lemma byte_read?_nonneg {value : Int} (h : Width.byte.read? text = some value) : 0 ≤ value := by
  obtain ⟨digits, number, -, -, -, rfl⟩ := (Width.read?_eq_some_iff rfl).1 h
  exact Int.natCast_nonneg number

/-- A colon is neither a sign nor a digit. -/
lemma PaddedField.colon_notMem (h : PaddedField text number) : ':' ∉ text := by
  obtain ⟨sign, zeros, digits, hsign, rfl, hdigits⟩ := h
  have hend : ':' ∉ digits := fun hmem => absurd (hdigits.numeral.ascii ':' hmem) (by decide)
  rcases hsign with rfl | rfl <;> simp [List.mem_replicate, hend]

end Field

lemma ClockTime.WrittenBy.padded {text : List Char} {time : ClockTime}
    (h : time.WrittenBy TwoDigits text) : time.WrittenBy PaddedField text := by
  obtain ⟨hour, minute, htext, hhour, hminute, hrange⟩ := h
  exact ⟨hour, minute, htext, hhour.padded, hminute.padded, hrange⟩

/-! ## Faults of the night -/

section Faults

variable {text : String} {fault : TimeFault}

lemma badTime_mem_timeFaults_iff {other : String} :
    .badTime text fault ∈ timeFaults other ↔ text = other ∧ TimeText.parse text = .error fault := by
  unfold timeFaults
  split
  case h_1 time hread =>
    refine ⟨nofun, ?_⟩
    rintro ⟨rfl, herror⟩
    rw [hread] at herror
    cases herror
  case h_2 found herror =>
    rw [List.mem_singleton, ConfigFault.badTime.injEq]
    refine and_congr_right ?_
    rintro rfl
    rw [herror, Except.error.injEq, eq_comm]

namespace ConfigFile

variable {file : ConfigFile}

lemma badTime_notMem_nameFaults : .badTime text fault ∉ file.nameFaults := by
  unfold nameFaults
  cases file.version <;> simp

lemma badTime_notMem_durationFaults : .badTime text fault ∉ file.durationFaults := by
  have htimeout : ∀ name timeout, .badTime text fault ∉ timeoutFaults name timeout := by
    intro name timeout
    cases timeout <;> simp [timeoutFaults]
  simp [durationFaults, htimeout, intervalFaults]

lemma badTime_notMem_resourceFaults {name : String} {entries : List EntrySettings} :
    .badTime text fault ∉ resourceFaults name entries := by
  unfold resourceFaults
  split <;> simp [EntrySettings.faults]

lemma badTime_mem_nightFaults_iff :
    .badTime text fault ∈ file.nightFaults ↔
      ∃ night, file.night = some night ∧ (text = night.start ∨ text = night.stop) ∧
        TimeText.parse text = .error fault := by
  unfold nightFaults
  cases file.night with
  | none => simp
  | some night =>
    rw [List.mem_append, badTime_mem_timeFaults_iff, badTime_mem_timeFaults_iff, ← or_and_right]
    simp

/-- A fault of a time of day belongs to a text of the night that cannot be read. -/
lemma badTime_mem_faults_iff :
    .badTime text fault ∈ file.faults ↔
      ∃ night, file.night = some night ∧ (text = night.start ∨ text = night.stop) ∧
        TimeText.parse text = .error fault := by
  rw [faults, List.mem_append, List.mem_append, List.mem_append, badTime_mem_nightFaults_iff]
  constructor
  · rintro (((hname | hduration) | hnight) | hresources)
    · exact absurd hname badTime_notMem_nameFaults
    · exact absurd hduration badTime_notMem_durationFaults
    · exact hnight
    · obtain ⟨_, -, hmem⟩ := List.mem_flatMap.1 hresources
      exact absurd hmem badTime_notMem_resourceFaults
  · exact fun hnight => Or.inl (Or.inr hnight)

end ConfigFile

end Faults

namespace TimeText

variable {text : String} {time : ClockTime}

/-- Hour and minute are read by themselves, and then their ranges are looked at. -/
lemma parse_eq_ok_iff_fields :
    parse text = .ok time ↔
      ∃ hour minute, splitAt ':' text.toList = [hour, minute] ∧
        Width.byte.read? hour = some (time.hour : Int) ∧
        Width.byte.read? minute = some (time.minute : Int) ∧ time.hour < 24 ∧ time.minute < 60 := by
  constructor
  · intro h
    unfold parse at h
    repeat' split at h
    all_goals cases h
    rename_i hour minute hsplit _ hours hhour _ minutes hminute hhours hminutes
    have hnatural : (hours.toNat : Int) = hours ∧ (minutes.toNat : Int) = minutes :=
      ⟨Int.toNat_of_nonneg (byte_read?_nonneg hhour),
        Int.toNat_of_nonneg (byte_read?_nonneg hminute)⟩
    have hrange : hours.toNat < 24 ∧ minutes.toNat < 60 := by omega
    refine ⟨hour, minute, hsplit, ?_, ?_, hrange⟩
    · rw [hhour, hnatural.1]
    · rw [hminute, hnatural.2]
  · rintro ⟨hour, minute, hsplit, hhour, hminute, hhours, hminutes⟩
    unfold parse
    rw [hsplit]
    simp only [hhour, hminute]
    rw [if_neg (by omega), if_neg (by omega)]
    rfl

/-- What is read as a time of day. -/
theorem parse_eq_ok_iff : parse text = .ok time ↔ time.WrittenBy PaddedField text.toList := by
  rw [parse_eq_ok_iff_fields]
  constructor
  · rintro ⟨hour, minute, hsplit, hhour, hminute, hrange⟩
    obtain ⟨-, -, htext⟩ := splitAt_eq_iff.1 hsplit
    have hfields : time.hour < 100 ∧ time.minute < 100 := by omega
    exact ⟨hour, minute, by simpa using htext, (byte_read?_eq_some_iff hfields.1).1 hhour,
      (byte_read?_eq_some_iff hfields.2).1 hminute, hrange⟩
  · rintro ⟨hour, minute, htext, hhour, hminute, hrange⟩
    have hfields : time.hour < 100 ∧ time.minute < 100 := by omega
    refine ⟨hour, minute, ?_, (byte_read?_eq_some_iff hfields.1).2 hhour,
      (byte_read?_eq_some_iff hfields.2).2 hminute, hrange⟩
    refine splitAt_eq_iff.2 ⟨List.cons_ne_nil _ _, ?_, by simpa using htext⟩
    simp [hhour.colon_notMem, hminute.colon_notMem]

lemma parse?_eq_some_iff : parse? text = some time ↔ parse text = .ok time := by
  unfold parse?
  cases parse text <;> simp

/-- What was read is a time of day. -/
lemma range_of_parse? (h : parse? text = some time) : time.hour < 24 ∧ time.minute < 60 := by
  obtain ⟨hour, minute, -, -, -, hrange⟩ := parse_eq_ok_iff_fields.1 (parse?_eq_some_iff.1 h)
  exact hrange

/-- Every text in the form `HH:MM` is read as what it denotes, and so is it with zeros and a sign in
front of the hour or the minute; nothing else can be read, and every other text of a night is a
fault of the file. -/
theorem padded_times_are_read (text : String) :
    (∀ time, parse text = .ok time ↔ time.WrittenBy PaddedField text.toList) ∧
      (∀ time : ClockTime, time.WrittenBy TwoDigits text.toList → parse text = .ok time) ∧
      ∀ (file : ConfigFile) (night : NightSettings),
        file.night = some night → (text = night.start ∨ text = night.stop) →
          ((∃ fault, .badTime text fault ∈ file.faults) ↔
            ¬ ∃ time : ClockTime, time.WrittenBy PaddedField text.toList) := by
  refine ⟨fun time => parse_eq_ok_iff, fun time htime => parse_eq_ok_iff.2 htime.padded, ?_⟩
  intro file night hnight htext
  simp only [ConfigFile.badTime_mem_faults_iff, ← parse_eq_ok_iff]
  constructor
  · rintro ⟨fault, -, -, -, herror⟩ ⟨time, hread⟩
    rw [herror] at hread
    cases hread
  · intro hunread
    cases hparse : parse text with
    | ok time => exact absurd ⟨time, hparse⟩ hunread
    | error fault => exact ⟨fault, night, hnight, htext, rfl⟩

/-- Half past six in the morning is read, and a night until then that begins at the hour 24 is a
fault. -/
theorem hour_24_is_fault :
    parse "6:30" = .ok ⟨6, 30⟩ ∧
      ∃ fault, .badTime "24:00" fault ∈
        ({ format := 1, night := some ⟨"24:00", "6:30"⟩ } : ConfigFile).faults := by
  have hhour : Numeral ['6'] 6 := ⟨by decide, List.all_eq_true.1 (by decide), by decide +kernel⟩
  have hminute : Numeral ['3', '0'] 30 :=
    ⟨by decide, List.all_eq_true.1 (by decide), by decide +kernel⟩
  refine ⟨(padded_times_are_read "6:30").2.1 ⟨6, 30⟩ ⟨['6'], ['3', '0'], by decide,
    ⟨hhour, by decide⟩, ⟨hminute, by decide⟩, by decide, by decide⟩, ?_⟩
  obtain ⟨hread, -, hfault⟩ := padded_times_are_read "24:00"
  refine (hfault _ _ rfl (Or.inl rfl)).2 ?_
  rintro ⟨time, htime⟩
  have herror : parse "24:00" = .error .hourRange := by decide +kernel
  rw [← hread, herror] at htime
  cases htime

/-- A sign is no digit, and yet the text is read, and a night until then is no fault. -/
theorem signed_hour_is_read :
    parse "+5:30" = .ok ⟨5, 30⟩ ∧
      ({ format := 1, night := some ⟨"22:00", "+5:30"⟩ } : ConfigFile).faults = [] ∧
        ¬ ∃ time : ClockTime, time.WrittenBy TwoDigits "+5:30".toList := by
  refine ⟨by decide +kernel, by decide +kernel, ?_⟩
  rintro ⟨time, hour, minute, htext, hhour, -⟩
  cases hour with
  | nil => exact hhour.numeral.nonempty rfl
  | cons c rest =>
    have hsign : '+' = c := (List.cons.inj (htext : '+' :: _ = c :: _)).1
    exact absurd hhour.numeral.isDigit_head (by rw [← hsign]; decide)

end TimeText

end DeviceStandby
