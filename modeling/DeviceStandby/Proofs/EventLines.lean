import DeviceStandby.Host.EventStream
import DeviceStandby.Proofs.ConditionNames
import DeviceStandby.Proofs.SpelledTexts

/-!
# One line does not disturb another

A stream of events is read line by line, up to the first line that is no UTF-8.  How it is cut into
lines is said by `EventStream.CutInto`, and `EventStream.Legible` names the texts of its lines up to
there.  What is delivered are the events that these texts hold, each read for itself and in their
order: a line that is blank, a comment or nothing that can be understood takes nothing with it
(`EventStream.events_are_read_line_by_line`).

So what follows a line end is read as if it were alone.
-/

namespace DeviceStandby.EventStream

/-! ## Lines -/

/-- The byte that may stand before a line end. -/
def carriageReturn : UInt8 := 13

/-- The line without the carriage return at its end. -/
def withoutReturn (line : List UInt8) : List UInt8 :=
  if line.getLast? = some carriageReturn then line.dropLast else line

/-- The lines of a byte sequence, one after the other.  A line ends with a newline; a carriage
return before that does not belong to it.  Bytes after the last newline are a line too. -/
inductive CutInto : List UInt8 → List (List UInt8) → Prop
  | nothing : CutInto [] []
  | unended {line : List UInt8} : line ≠ [] → newline ∉ line → CutInto line [line]
  | ended {line bytes : List UInt8} {rest : List (List UInt8)} :
    newline ∉ line → CutInto bytes rest →
      CutInto (line ++ newline :: bytes) (withoutReturn line :: rest)

/-- Every byte sequence is cut into lines. -/
lemma exists_cutInto (bytes : List UInt8) : ∃ cut, CutInto bytes cut := by
  by_cases hends : newline ∈ bytes
  · obtain ⟨line, rest, rfl, hline⟩ := List.eq_append_cons_of_mem hends
    obtain ⟨cut, hcut⟩ := exists_cutInto rest
    exact ⟨_, .ended hline hcut⟩
  · by_cases hsome : bytes = []
    · subst hsome
      exact ⟨[], .nothing⟩
    · exact ⟨[bytes], .unended hsome hends⟩
termination_by bytes.length
decreasing_by
  subst bytes
  simp only [List.length_append, List.length_cons]
  omega

lemma lines_of_notMem {line : List UInt8} (hsome : line ≠ []) (h : newline ∉ line) :
    lines line = [line] := by
  induction line with
  | nil => exact absurd rfl hsome
  | cons byte line ih =>
    rw [List.mem_cons, not_or] at h
    rw [lines, if_neg (Ne.symm h.1)]
    cases line with
    | nil => rfl
    | cons next line => rw [ih (List.cons_ne_nil _ _) h.2]

lemma lines_append {line : List UInt8} (h : newline ∉ line) (bytes : List UInt8) :
    lines (line ++ newline :: bytes) = line :: lines bytes := by
  induction line with
  | nil => rw [List.nil_append, lines, if_pos rfl]
  | cons byte line ih =>
    rw [List.mem_cons, not_or] at h
    rw [List.cons_append, lines, if_neg (Ne.symm h.1), ih h.2]

/-! ## Texts -/

/-- A carriage return behind a line stands behind its text. -/
lemma decode?_append_return (line : List UInt8) :
    Utf8.decode? (line ++ [carriageReturn]) = (Utf8.decode? line).map (· ++ ['\r']) := by
  refine Option.ext fun text => ?_
  rw [Utf8.decode?_eq_some_iff, Option.map_eq_some_iff]
  constructor
  · intro h
    obtain ⟨left, c, right, rfl, rfl, hc, hright⟩ :=
      Utf8.exists_split_spelled (by decide) h.symm
    obtain rfl : c = '\r' := Char.ext (UInt32.toNat_inj.1 hc)
    obtain rfl : right = [] := by
      have hdecoded := Utf8.decode?_spelled right
      rw [← hright, Utf8.decode?_nil] at hdecoded
      exact (Option.some.inj hdecoded).symm
    exact ⟨left, Utf8.decode?_spelled left, rfl⟩
  · rintro ⟨left, hleft, rfl⟩
    rw [Utf8.spelled_append, ← Utf8.decode?_eq_some_iff.1 hleft]
    rfl

/-- The first character of a text that is no blank. -/
def firstMark? (text : List Char) : Option Char := text.find? (fun c => !isBlank c)

/-- The event that a text holds.  A text that is blank, or whose first character that is no blank is
`#`, holds none, and neither does one that cannot be understood. -/
def eventIn? (text : List Char) : Option SystemEvent :=
  if firstMark? text = none ∨ firstMark? text = some '#' then none
  else (Json.parse? (String.ofList (trimChars text))).bind SystemEvent.ofValue?

/-- A text without the blanks around it begins with the first character that is no blank. -/
lemma head?_trimChars (text : List Char) : (trimChars text).head? = firstMark? text := by
  have hmark := List.head?_dropWhile_not isBlank text
  rw [firstMark?, List.find?_not_eq_head?_dropWhile]
  unfold trimChars dropBlanks
  cases hdropped : text.dropWhile isBlank with
  | nil => rfl
  | cons c rest =>
    -- What is dropped from the end cannot reach beyond `c`.
    have hc : isBlank c = false := by simpa [hdropped] using hmark
    rw [List.reverse_cons, List.dropWhile_append]
    split <;> simp [hc]

lemma eventOfLine?_eq (text : List Char) : eventOfLine? text = eventIn? text := by
  rw [eventIn?, ← head?_trimChars]
  split
  · rename_i hidle
    rcases hidle with hblank | hcomment
    · rw [eventOfLine?, SystemEvent.readLine, List.head?_eq_none_iff.1 hblank]
    · obtain ⟨rest, hrest⟩ := List.head?_eq_some_iff.1 hcomment
      rw [eventOfLine?, SystemEvent.readLine, hrest]
      rfl
  · rename_i hidle
    obtain ⟨hblank, hcomment⟩ := not_or.1 hidle
    have hline : SystemEvent.readLine text =
        ((Json.parse? (String.ofList (trimChars text))).bind SystemEvent.ofValue?).elim
          .malformed .event := by
      rw [SystemEvent.readLine]
      split
      · rename_i hnil
        exact absurd (congrArg List.head? hnil) hblank
      · rename_i hmark
        exact absurd (congrArg List.head? hmark) hcomment
      · cases (Json.parse? (String.ofList (trimChars text))).bind SystemEvent.ofValue? <;> rfl
    rw [eventOfLine?, hline]
    cases (Json.parse? (String.ofList (trimChars text))).bind SystemEvent.ofValue? <;> rfl

lemma eventOfLine?_append_return (text : List Char) :
    eventOfLine? (text ++ ['\r']) = eventOfLine? text := by
  have hblank : ∀ c ∈ ['\r'], isBlank c = true := List.forall_mem_singleton.2 rfl
  have htrim : trimChars (text ++ ['\r']) = trimChars text := trimChars_append_blank hblank text
  rw [eventOfLine?, SystemEvent.readLine, htrim]
  rfl

/-! ## Events -/

lemma eventsOfLines_cons (line : List UInt8) (rest : List (List UInt8)) :
    eventsOfLines (line :: rest) = ((Utf8.decode? line).map fun text =>
      (eventOfLine? text).toList ++ eventsOfLines rest).getD [] := by
  rw [eventsOfLines]
  cases Utf8.decode? line <;> rfl

lemma eventsOfLines_withoutReturn (line : List UInt8) (rest : List (List UInt8)) :
    eventsOfLines (withoutReturn line :: rest) = eventsOfLines (line :: rest) := by
  unfold withoutReturn
  split
  · rename_i hreturn
    obtain ⟨front, rfl⟩ := List.getLast?_eq_some_iff.1 hreturn
    rw [List.dropLast_concat, eventsOfLines_cons, eventsOfLines_cons, decode?_append_return]
    cases Utf8.decode? front with
    | none => rfl
    | some text =>
      simp only [Option.map_some, eventOfLine?_append_return]
  · rfl

/-- What is delivered are the events of the lines. -/
lemma events_of_cutInto {bytes : List UInt8} {cut : List (List UInt8)} (h : CutInto bytes cut) :
    events bytes = eventsOfLines cut := by
  unfold events
  induction h with
  | nothing => rfl
  | unended hsome hline => rw [lines_of_notMem hsome hline]
  | ended hline _ ih =>
    rw [lines_append hline, eventsOfLines_withoutReturn, eventsOfLines_cons, eventsOfLines_cons, ih]

/-- Lines that can be read are read one after the other. -/
lemma eventsOfLines_append (texts : List (List Char)) (rest : List (List UInt8)) :
    eventsOfLines (texts.map Utf8.spelled ++ rest) =
      texts.filterMap eventIn? ++ eventsOfLines rest := by
  induction texts with
  | nil => rfl
  | cons text texts ih =>
    rw [List.map_cons, List.cons_append, eventsOfLines_cons, Utf8.decode?_spelled, ih,
      Option.map_some, Option.getD_some, eventOfLine?_eq, List.filterMap_cons]
    cases eventIn? text <;> rfl

/-- The texts of the lines before the first one that is no UTF-8. -/
def Legible (bytes : List UInt8) (texts : List (List Char)) : Prop :=
  ∃ rest, CutInto bytes (texts.map Utf8.spelled ++ rest) ∧
    ∀ line ∈ rest.head?, ¬ line.toByteArray.IsValidUTF8

lemma exists_legible (bytes : List UInt8) : ∃ texts, Legible bytes texts := by
  obtain ⟨cut, hcut⟩ := exists_cutInto bytes
  have hsplit : ∃ (texts : List (List Char)) (rest : List (List UInt8)),
      cut = texts.map Utf8.spelled ++ rest ∧
        ∀ line ∈ rest.head?, ¬ line.toByteArray.IsValidUTF8 := by
    clear hcut
    induction cut with
    | nil => exact ⟨[], [], rfl, by simp⟩
    | cons line cut ih =>
      by_cases hvalid : line.toByteArray.IsValidUTF8
      · obtain ⟨text, rfl⟩ := Utf8.isValidUTF8_iff.1 hvalid
        obtain ⟨texts, rest, rfl, hrest⟩ := ih
        exact ⟨text :: texts, rest, rfl, hrest⟩
      · exact ⟨[], line :: cut, rfl, by simpa using hvalid⟩
  obtain ⟨texts, rest, rfl, hrest⟩ := hsplit
  exact ⟨texts, rest, hcut, hrest⟩

lemma events_of_legible {bytes : List UInt8} {texts : List (List Char)} (h : Legible bytes texts) :
    events bytes = texts.filterMap eventIn? := by
  obtain ⟨rest, hcut, hrest⟩ := h
  rw [events_of_cutInto hcut, eventsOfLines_append]
  cases rest with
  | nil => exact List.append_nil _
  | cons line rest =>
    have hline := hrest line rfl
    rw [← Utf8.decode?_eq_none_iff] at hline
    rw [eventsOfLines_cons, hline]
    exact List.append_nil _

/-! ## One stream behind the other -/

namespace CutInto

variable {front bytes : List UInt8} {cut more : List (List UInt8)}

/-- Behind a line end the lines begin anew. -/
lemma append (h : CutInto front cut) (hends : ∀ byte ∈ front.getLast?, byte = newline)
    (hmore : CutInto bytes more) : CutInto (front ++ bytes) (cut ++ more) := by
  induction h with
  | nothing => exact hmore
  | @unended line hsome hline =>
    have hlast := hends _ (List.getLast?_eq_some_getLast hsome)
    exact absurd (hlast ▸ List.getLast_mem hsome) hline
  | @ended line rest _ hline _ ih =>
    rw [List.append_assoc, List.cons_append]
    refine .ended hline (ih fun byte hbyte => hends byte ?_)
    rw [List.getLast?_append, List.getLast?_cons, hbyte]
    rfl

lemma exists_withoutReturn (text : List Char) :
    ∃ shorter, withoutReturn (Utf8.spelled text) = Utf8.spelled shorter := by
  unfold withoutReturn
  split
  · rename_i hreturn
    obtain ⟨line, hline⟩ := List.getLast?_eq_some_iff.1 hreturn
    obtain ⟨left, -, -, -, rfl, -, -⟩ := Utf8.exists_split_spelled (by decide) hline
    exact ⟨left, by rw [hline, List.dropLast_concat]⟩
  · exact ⟨text, rfl⟩

/-- All lines of a text can be read. -/
lemma exists_texts {text : List Char} (h : CutInto (Utf8.spelled text) cut) :
    ∃ texts : List (List Char), cut = texts.map Utf8.spelled := by
  generalize hfront : Utf8.spelled text = front at h
  induction h generalizing text with
  | nothing => exact ⟨[], rfl⟩
  | unended => exact ⟨[text], by rw [← hfront]; rfl⟩
  | ended hline _ ih =>
    obtain ⟨left, -, right, -, rfl, -, rfl⟩ := Utf8.exists_split_spelled (by decide) hfront
    obtain ⟨texts, rfl⟩ := ih rfl
    obtain ⟨shorter, hshorter⟩ := exists_withoutReturn left
    exact ⟨shorter :: texts, by rw [hshorter]; rfl⟩

end CutInto

/-- What follows a valid text that ends its last line is read as if it were alone. -/
lemma events_append {front : List UInt8} (hvalid : front.toByteArray.IsValidUTF8)
    (hends : ∀ byte ∈ front.getLast?, byte = newline) (bytes : List UInt8) :
    events (front ++ bytes) = events front ++ events bytes := by
  obtain ⟨text, rfl⟩ := Utf8.isValidUTF8_iff.1 hvalid
  obtain ⟨cut, hcut⟩ := exists_cutInto (Utf8.spelled text)
  obtain ⟨more, hmore⟩ := exists_cutInto bytes
  obtain ⟨texts, rfl⟩ := hcut.exists_texts
  have halone := eventsOfLines_append texts []
  rw [List.append_nil, eventsOfLines, List.append_nil] at halone
  rw [events_of_cutInto (hcut.append hends hmore), eventsOfLines_append, events_of_cutInto hcut,
    events_of_cutInto hmore, halone]

/-- From any bytes are delivered, in their order, the events of the lines before the first one that
is no UTF-8, without the lines that hold no event; and there always are such lines.  Behind a line
end, what follows a valid text is read as if it were alone. -/
theorem events_are_read_line_by_line (bytes : List UInt8) :
    (∃ texts, Legible bytes texts) ∧
    (∀ texts, Legible bytes texts → events bytes = texts.filterMap eventIn?) ∧
    ∀ front : List UInt8, front.toByteArray.IsValidUTF8 → front.getLast? = some newline →
      events (front ++ bytes) = events front ++ events bytes := by
  refine ⟨exists_legible bytes, fun texts h => events_of_legible h, fun front hvalid hends => ?_⟩
  refine events_append hvalid (fun byte hbyte => ?_) bytes
  rw [hends] at hbyte
  exact (Option.some.inj hbyte).symm

/-- A line with one event. -/
def opening : List UInt8 :=
  Utf8.spelled "\x7b\"event\":\"boot_completed\"\x7d".toList ++ [newline]

/-- An event behind blanks whose line ends with a carriage return, a comment, and a line that cannot
be understood.  The next line is no UTF-8, and what comes after it is lost. -/
def garbled : List UInt8 :=
  Utf8.spelled " \x7b\"event\":\"charging_status\",\"charging\":true\x7d\r".toList ++ newline ::
    (Utf8.spelled "  # nothing".toList ++ newline ::
      (Utf8.spelled "\x7b\"event\"".toList ++ newline ::
        ([0xFF] ++ newline :: opening)))

theorem events_of_garbled_stream :
    opening.toByteArray.IsValidUTF8 ∧ opening.getLast? = some newline ∧
    Legible garbled [" \x7b\"event\":\"charging_status\",\"charging\":true\x7d".toList,
      "  # nothing".toList, "\x7b\"event\"".toList] ∧
    events (opening ++ garbled) = [.bootCompleted, .chargingStatus true] := by
  have hvalid : opening.toByteArray.IsValidUTF8 := by
    refine Utf8.isValidUTF8_iff.2 ⟨"\x7b\"event\":\"boot_completed\"\x7d\n".toList, ?_⟩
    decide +kernel
  have hends : opening.getLast? = some newline := List.getLast?_concat
  have hopening : Legible opening ["\x7b\"event\":\"boot_completed\"\x7d".toList] := by
    refine ⟨[], ?_, by simp⟩
    exact .ended (by decide +kernel) .nothing
  have hgarbled : Legible garbled
      [" \x7b\"event\":\"charging_status\",\"charging\":true\x7d".toList, "  # nothing".toList,
        "\x7b\"event\"".toList] := by
    refine ⟨[[0xFF], Utf8.spelled "\x7b\"event\":\"boot_completed\"\x7d".toList], ?_, ?_⟩
    · refine .ended (by decide +kernel) (.ended (by decide +kernel) (.ended (by decide +kernel)
        (.ended (by decide +kernel) (.ended (by decide +kernel) .nothing))))
    · decide +kernel
  obtain ⟨-, hread, hbehind⟩ := events_are_read_line_by_line garbled
  obtain ⟨-, hreadOpening, -⟩ := events_are_read_line_by_line opening
  refine ⟨hvalid, hends, hgarbled, ?_⟩
  rw [hbehind opening hvalid hends, hread _ hgarbled, hreadOpening _ hopening]
  decide +kernel

end DeviceStandby.EventStream
