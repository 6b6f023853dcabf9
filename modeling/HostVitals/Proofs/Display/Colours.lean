import HostVitals.Display.Overview
import HostVitals.Proofs.Display.Rows
import HostVitals.Proofs.Text.Escapes

/-!
# Displays without their colours

Colours change nothing in what a display says.  As long as the texts that are shown hold no escape
character of their own, the display with colours becomes the one without them when its escape
sequences are taken out.  Lines lose only their colours when no stretch of them has an escape
character, so what is shown is gone through section by section: captions are fixed, numbers, bars,
rules and times never have an escape character, and the other texts are those of the records.

Main results:

- `escapeFree_fixedPlaces`, `escapeFree_plainText`: numbers and times have no escape character.
- `linesFree_batteries`, `linesFree_thermal`, `linesFree_sensors`, `linesFree_overview`: neither
  have the sections when the texts of the records have none.
- `colours_removed`: the law for a whole snapshot and for each section.
-/

namespace HostVitals.Number

open HostVitals.Text

/-! ## Numbers -/

/-- Digits are no escape characters. -/
theorem escapeFree_of_digits {cs : List Char} (h : ∀ c ∈ cs, isDigit c = true) :
    EscapeFree cs := by
  intro hmem
  exact absurd (h escapeChar hmem) (by decide)

theorem escapeFree_natDigits (n : Nat) : EscapeFree (natDigits n) :=
  escapeFree_of_digits (fun _ => isDigit_of_mem_natDigits)

theorem escapeFree_paddedDigits (width n : Nat) : EscapeFree (paddedDigits width n) :=
  (escapeFree_replicate _ (by decide)).append (escapeFree_natDigits n)

/-- A number with fixed places has no escape character, whether it is finite or not. -/
theorem escapeFree_fixedPlaces (places : Nat) (x : Binary64) :
    EscapeFree (fixedPlaces places x) :=
  not_mem_fixedPlaces (by decide) places x

end HostVitals.Number

namespace HostVitals.Time

open HostVitals.Number HostVitals.Text

/-! ## Times -/

theorem escapeFree_yearText (year : Int) : EscapeFree (yearText year) := by
  have hdigits := escapeFree_paddedDigits 4 year.natAbs
  unfold yearText
  dsimp only
  split
  · exact hdigits
  · split
    · exact hdigits.cons (by decide)
    · exact hdigits.cons (by decide)

theorem Date.escapeFree_text (date : Date) : EscapeFree date.text := by
  have hmonth := (escapeFree_paddedDigits 2 date.month).cons (by decide : escapeChar ≠ '-')
  have hday := (escapeFree_paddedDigits 2 date.day).cons (by decide : escapeChar ≠ '-')
  exact ((escapeFree_yearText date.year).append hmonth).append hday

theorem Clock.escapeFree_text (clock : Clock) : EscapeFree clock.text := by
  have hminute := (escapeFree_paddedDigits 2 clock.minute).cons (by decide : escapeChar ≠ ':')
  have hsecond := (escapeFree_paddedDigits 2 clock.second).cons (by decide : escapeChar ≠ ':')
  exact ((escapeFree_paddedDigits 2 clock.hour).append hminute).append hsecond

/-- A time for people to read has no escape character. -/
theorem Instant.escapeFree_plainText (t : Instant) : EscapeFree t.plainText.toList := by
  have hclock := t.clock.escapeFree_text.cons (by decide : escapeChar ≠ ' ')
  rw [Instant.plainText, String.toList_ofList]
  exact (t.date.escapeFree_text.append hclock).append (by decide)

end HostVitals.Time

namespace HostVitals

open HostVitals.Text

/-! ## Records -/

/-- A battery whose texts have no escape character. -/
structure Battery.EscapeFree (battery : Battery) : Prop where
  status : Text.EscapeFree battery.status.toList
  timeLeft : ∀ time ∈ battery.timeLeft, Text.EscapeFree time.toList
  health : ∀ health ∈ battery.health, Text.EscapeFree health.toList

/-- A snapshot whose texts have no escape character. -/
structure Snapshot.EscapeFree (snapshot : Snapshot) : Prop where
  platform : Text.EscapeFree snapshot.platform.toList
  batteries : ∀ battery ∈ snapshot.batteries, battery.EscapeFree
  batteryError : ∀ why ∈ snapshot.batteryError, Text.EscapeFree why.toList
  sensors : ∀ reading ∈ snapshot.sensors, Text.EscapeFree reading.label.toList
  sensorError : ∀ why ∈ snapshot.sensorError, Text.EscapeFree why.toList

namespace Display

open HostVitals.Number

/-! ## Sections -/

/-- A header is free of escape characters when its title is. -/
theorem linesFree_header {title : String} (h : EscapeFree title.toList) :
    LinesFree (header title) := by
  refine linesFree_nil.cons ?_ |>.cons ?_ |>.cons ?_
  · intro span hspan
    rw [List.mem_singleton.1 hspan]
    exact escapeFree_replicate ruleWidth (by decide)
  · intro span hspan
    rw [List.mem_singleton.1 hspan]
    exact h
  · intro span hspan
    cases hspan

/-- A line of a caption and a value. -/
theorem linesFree_captioned {caption value : Span} (hcaption : EscapeFree caption.text)
    (hvalue : EscapeFree value.text) : LinesFree [[caption, value]] := by
  refine linesFree_nil.cons ?_
  intro span hspan
  simp only [List.mem_cons, List.not_mem_nil, or_false] at hspan
  rcases hspan with rfl | rfl
  · exact hcaption
  · exact hvalue

theorem escapeFree_temperature (degrees : Binary64) : EscapeFree (temperature degrees).text :=
  (escapeFree_fixedPlaces 1 degrees).append (by decide)

/-! ### Batteries -/

theorem escapeFree_chargeCells (percent : Binary64) : EscapeFree (chargeCells percent) :=
  (escapeFree_replicate _ (by decide)).append (escapeFree_replicate _ (by decide))

theorem escapeFree_chargeLine {b : Battery} (h : b.EscapeFree) :
    ∀ span ∈ chargeLine b, EscapeFree span.text := by
  intro span hspan
  simp only [chargeLine, List.mem_cons, List.not_mem_nil, or_false] at hspan
  rcases hspan with rfl | rfl | rfl | rfl | rfl | rfl
  · decide
  · exact escapeFree_chargeCells b.percent
  · decide
  · exact escapeFree_fixedPlaces 0 b.percent
  · decide
  · exact h.status

theorem linesFree_battery {b : Battery} (h : b.EscapeFree) : LinesFree (battery b) := by
  have htime : LinesFree (b.timeLeft.map
      (fun time => [say "    Time Remaining: ", say time])).toList := by
    cases htime : b.timeLeft with
    | none => exact linesFree_nil
    | some time => exact linesFree_captioned (by decide) (h.timeLeft time htime)
  have hhealth : LinesFree (b.health.map
      (fun health => [say "    Condition: ", sayIn (conditionStyle health) health])).toList := by
    cases hhealth : b.health with
    | none => exact linesFree_nil
    | some health => exact linesFree_captioned (by decide) (h.health health hhealth)
  refine (((linesFree_nil.cons (escapeFree_chargeLine h)).append htime).append hhealth).append ?_
  split
  · exact linesFree_captioned (by decide) (escapeFree_natDigits _)
  · exact linesFree_nil

theorem escapeFree_batteryNumber (n : Nat) : ∀ span ∈ batteryNumber n, EscapeFree span.text := by
  intro span hspan
  simp only [batteryNumber, List.mem_cons, List.not_mem_nil, or_false] at hspan
  rcases hspan with rfl | rfl | rfl | rfl
  · decide
  · decide
  · decide
  · exact escapeFree_natDigits n

theorem linesFree_batteriesFrom (numbered : Bool) (n : Nat) {bs : List Battery}
    (h : ∀ b ∈ bs, b.EscapeFree) : LinesFree (batteriesFrom numbered n bs) := by
  induction bs generalizing n with
  | nil => exact linesFree_nil
  | cons b bs ih =>
      have hnumber : LinesFree (if numbered then [batteryNumber n] else []) := by
        split
        · exact linesFree_nil.cons (escapeFree_batteryNumber n)
        · exact linesFree_nil
      have hrest := ih (n + 1) (fun other hother => h other (List.mem_cons_of_mem b hother))
      exact (hnumber.append (linesFree_battery (h b List.mem_cons_self))).append hrest

theorem linesFree_batteries {bs : List Battery} (h : ∀ b ∈ bs, b.EscapeFree) :
    LinesFree (batteries bs) :=
  (linesFree_header (by decide)).append (linesFree_batteriesFrom _ 0 h)

/-! ### Temperatures -/

theorem linesFree_fan (status : Thermal) : LinesFree (fan status) := by
  unfold fan
  split
  · refine linesFree_nil.cons ?_
    intro span hspan
    simp only [List.mem_cons, List.not_mem_nil, or_false] at hspan
    rcases hspan with rfl | rfl | rfl
    · decide
    · exact escapeFree_natDigits _
    · decide
  · exact linesFree_nil

theorem linesFree_processor (status : Thermal) : LinesFree (processor status) := by
  unfold processor
  split
  · exact linesFree_nil
  · exact linesFree_captioned (by decide) (escapeFree_temperature status.temperature)
  · refine linesFree_nil.cons ?_
    intro span hspan
    simp only [List.mem_cons, List.not_mem_nil, or_false] at hspan
    rcases hspan with rfl | rfl | rfl | rfl
    · decide
    · exact escapeFree_temperature status.temperature
    · decide
    · decide

theorem linesFree_thermal (status : Thermal) : LinesFree (thermal status) := by
  refine (linesFree_header (by decide)).append ?_
  split
  · exact linesFree_captioned (by decide) (by decide)
  · exact (linesFree_fan status).append (linesFree_processor status)

/-- The lines of the sensor section, when there are any. -/
theorem linesFree_sensors {rs : List Reading} (h : ∀ r ∈ rs, EscapeFree r.label.toList)
    {lines : List Line} (hlines : sensors rs = .ok lines) : LinesFree lines := by
  unfold sensors at hlines
  have hheader : LinesFree (header "Sensors") := linesFree_header (by decide)
  split at hlines
  · cases hlines
    exact hheader.append (linesFree_captioned (by decide) (by decide))
  · split at hlines
    · cases hlines
    · cases hlines
      refine hheader.append ?_
      intro line hline span hspan
      obtain ⟨r, hr, rfl⟩ := List.mem_map.1 hline
      simp only [reading, List.mem_cons, List.not_mem_nil, or_false] at hspan
      rcases hspan with rfl | rfl | rfl | rfl
      · decide
      · exact (h r hr).append (escapeFree_replicate _ (by decide))
      · decide
      · exact escapeFree_temperature r.value

/-! ### Snapshots -/

theorem linesFree_title {platform time : String} (hplatform : EscapeFree platform.toList)
    (htime : EscapeFree time.toList) : LinesFree (title platform time) := by
  have hhead : ∀ span ∈ [sayIn (.bold ++ .brightCyan) "HARDWARE TELEMETRY"],
      EscapeFree span.text := by decide
  have hrule : ∀ span ∈ rule '=', EscapeFree span.text := by decide
  refine LinesFree.cons (by decide) (LinesFree.cons hhead (LinesFree.cons hrule
    (linesFree_nil.cons ?_)))
  intro span hspan
  simp only [List.mem_cons, List.not_mem_nil, or_false] at hspan
  rcases hspan with rfl | rfl | rfl | rfl | rfl | rfl | rfl | rfl
  · decide
  · decide
  · decide
  · exact hplatform
  · decide
  · decide
  · decide
  · exact htime

theorem linesFree_failed {name why : String} (style : Style) (hname : EscapeFree name.toList)
    (hwhy : EscapeFree why.toList) : LinesFree (failed name style why) :=
  (linesFree_header hname).append (linesFree_captioned (by decide) hwhy)

section

variable {snapshot : Snapshot}

theorem linesFree_batterySection (h : snapshot.EscapeFree) :
    LinesFree (batterySection snapshot) := by
  unfold batterySection
  split
  · next why hwhy => exact linesFree_failed _ (by decide) (h.batteryError why hwhy)
  · exact linesFree_batteries h.batteries

theorem linesFree_sensorSection (h : snapshot.EscapeFree) {lines : List Line}
    (hlines : sensorSection snapshot = .ok lines) : LinesFree lines := by
  unfold sensorSection at hlines
  split at hlines
  · next why hwhy =>
      cases hlines
      exact linesFree_failed _ (by decide) (h.sensorError why hwhy)
  · exact linesFree_sensors h.sensors hlines

/-- The display of a snapshot is its title and the sections that are asked for. -/
theorem overview_eq_ok {sections : Sections} {lines : List Line}
    (h : overview snapshot sections = .ok lines) :
    ∃ last, (if sections.sensors then sensorSection snapshot else .ok []) = .ok last ∧
      lines = title snapshot.platform snapshot.collectedAt.plainText
        ++ (if sections.battery then batterySection snapshot else [])
        ++ (if sections.thermal then thermal snapshot.thermal else [])
        ++ last := by
  unfold overview overviewAt at h
  by_cases hsensors : sections.sensors = true
  · simp only [hsensors, if_true] at h ⊢
    cases hlast : sensorSection snapshot with
    | error breakdown =>
        rw [hlast] at h
        cases h
    | ok last =>
        rw [hlast] at h
        cases h
        exact ⟨last, rfl, rfl⟩
  · simp only [hsensors] at h ⊢
    cases h
    exact ⟨[], rfl, rfl⟩

theorem linesFree_overview (h : snapshot.EscapeFree) {sections : Sections} {lines : List Line}
    (hlines : overview snapshot sections = .ok lines) : LinesFree lines := by
  obtain ⟨last, hlast, hlines⟩ := overview_eq_ok hlines
  have htitle : LinesFree (title snapshot.platform snapshot.collectedAt.plainText) :=
    linesFree_title h.platform (Time.Instant.escapeFree_plainText _)
  have hbattery : LinesFree (if sections.battery then batterySection snapshot else []) := by
    split
    · exact linesFree_batterySection h
    · exact linesFree_nil
  have hthermal : LinesFree (if sections.thermal then thermal snapshot.thermal else []) := by
    split
    · exact linesFree_thermal snapshot.thermal
    · exact linesFree_nil
  have hsensors : LinesFree last := by
    split at hlast
    · exact linesFree_sensorSection h hlast
    · cases hlast
      exact linesFree_nil
  rw [hlines]
  exact ((htitle.append hbattery).append hthermal).append hsensors

end

/-! ## Without colours -/

/-- A display with colours is the one without them when its escape sequences are taken out. -/
theorem map_removeEscapes {display : Except Breakdown (List Line)}
    (h : ∀ lines, display = .ok lines → LinesFree lines) :
    display.map (fun lines => removeEscapes (writeLines true lines)) =
      display.map (writeLines false) := by
  cases display with
  | error breakdown => rfl
  | ok lines => exact congrArg Except.ok (removeEscapes_writeLines (h lines rfl))

/-- Taking the escape sequences out of a display with colours leaves the display without colours:
for a snapshot with any sections, and for each section alone, whatever the numbers are. -/
theorem colours_removed :
    (∀ (snapshot : Snapshot) (sections : Sections), snapshot.EscapeFree →
      (overview snapshot sections).map (fun lines => removeEscapes (writeLines true lines)) =
        (overview snapshot sections).map (writeLines false)) ∧
    (∀ bs : List Battery, (∀ b ∈ bs, b.EscapeFree) →
      removeEscapes (writeLines true (batteries bs)) = writeLines false (batteries bs)) ∧
    (∀ status : Thermal,
      removeEscapes (writeLines true (thermal status)) = writeLines false (thermal status)) ∧
    ∀ rs : List Reading, (∀ r ∈ rs, EscapeFree r.label.toList) →
      (sensors rs).map (fun lines => removeEscapes (writeLines true lines)) =
        (sensors rs).map (writeLines false) := by
  refine ⟨?_, ?_, ?_, ?_⟩
  · intro snapshot sections h
    exact map_removeEscapes (fun _ => linesFree_overview h)
  · intro bs h
    exact removeEscapes_writeLines (linesFree_batteries h)
  · intro status
    exact removeEscapes_writeLines (linesFree_thermal status)
  · intro rs h
    exact map_removeEscapes (fun _ => linesFree_sensors h)

/-- A snapshot with numbers that are none or infinite, and with an `m` and a bracket in its
texts. -/
def strained : Snapshot where
  collectedAt := ⟨0, 0⟩
  platform := "[31m"
  batteries := [⟨.nan, "charging", some "1:30", some "Normal", 1000⟩]
  batteryError := none
  thermal := ⟨3, .infinite false, .thermalLevel⟩
  sensors := [⟨"m", .infinite true, "°C"⟩, ⟨"[0m", .nan, "°C"⟩]
  sensorError := none

/-- Its display is among those that lose only their colours. -/
theorem colours_removed_strained :
    strained.EscapeFree ∧
      (overview strained .all).map (fun lines => removeEscapes (writeLines true lines)) =
        (overview strained .all).map (writeLines false) := by
  have hfree : strained.EscapeFree :=
    { platform := by decide
      batteries := by
        intro battery hbattery
        rw [List.mem_singleton.1 hbattery]
        exact ⟨by decide, by decide, by decide⟩
      batteryError := by decide
      sensors := by decide
      sensorError := by decide }
  exact ⟨hfree, colours_removed.1 strained .all hfree⟩

end Display

end HostVitals
