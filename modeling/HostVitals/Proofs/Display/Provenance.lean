import HostVitals.Display.Temperatures
import HostVitals.Proofs.Display.Rows
import HostVitals.Proofs.Rounds.Temperature

/-!
# What the thermal section tells of a round

The section says that there are no data when the numbers of the status are zero, and marks an
estimate by the source of the temperature.  For a status that was collected the two agree, since a
temperature is above zero exactly when there is a source for it.  So every temperature that was got
is shown, and whether it is shown as a measurement or as an estimate is decided by the probe that it
came from.

Main results:

- `Warmed.measured_iff`, `Warmed.estimated_iff`: which probe a temperature came from.
- `mem_thermalRows_iff`: the rows of the section for a status whose numbers and source agree.
- `unmarked_measuredRow`, `marked_estimatedRow`: only the row of an estimate has the marks of one.
- `thermal_provenance`: what is shown of a round.
-/

namespace HostVitals

open HostVitals.Number HostVitals.Text

namespace Collect

/-! ## Where a temperature comes from -/

/-- In these exchanges the sensor next to the battery gave a temperature. -/
def Measured (exchanges : List Exchange) (degrees : Binary64) : Prop :=
  ∃ answer n, .temperature (.ok answer) ∈ exchanges ∧ Reads answer n ∧ 0 < n ∧
    degrees = (Binary64.ofInt n).div (.ofInt 100)

/-- In these exchanges the thermal level led to an estimate of the temperature. -/
def Estimated (exchanges : List Exchange) (degrees : Binary64) : Prop :=
  ∃ answer n, .thermalLevel (.ok answer) ∈ exchanges ∧ Reads answer n ∧ 0 ≤ n ∧
    degrees = Report.estimatedTemperature n

section

variable {fanSpeed : UInt32} {looks later : List Exchange} {status : Thermal} {degrees : Binary64}

/-- What is no look is not among the looks. -/
theorem mem_append_of_not_look {exchange : Exchange} (hlooks : ∀ look ∈ looks, look.isLook = true)
    (h : exchange.isLook = false) : exchange ∈ looks ++ later ↔ exchange ∈ later := by
  rw [List.mem_append, or_iff_right]
  intro hmem
  rw [hlooks exchange hmem] at h
  cases h

/-- Looks give no temperature. -/
theorem measured_append_iff (hlooks : ∀ look ∈ looks, look.isLook = true) :
    Measured (looks ++ later) degrees ↔ Measured later degrees := by
  have hmem : ∀ answer, .temperature (.ok answer) ∈ looks ++ later ↔
      .temperature (.ok answer) ∈ later := fun _ => mem_append_of_not_look hlooks rfl
  simp only [Measured, hmem]

theorem estimated_append_iff (hlooks : ∀ look ∈ looks, look.isLook = true) :
    Estimated (looks ++ later) degrees ↔ Estimated later degrees := by
  have hmem : ∀ answer, .thermalLevel (.ok answer) ∈ looks ++ later ↔
      .thermalLevel (.ok answer) ∈ later := fun _ => mem_append_of_not_look hlooks rfl
  simp only [Estimated, hmem]

/-- A sensor without a whole number above zero gave no temperature. -/
theorem not_measured {answer level : Answer String} (hnone : ∀ m, Reads answer m → m ≤ 0) :
    ¬Measured [.temperature (.ok answer), .thermalLevel (.ok level)] degrees := by
  rintro ⟨other, n, hother, hread, hpos, -⟩
  simp only [List.mem_cons, reduceCtorEq, List.not_mem_nil, or_false,
    Exchange.temperature.injEq, Except.ok.injEq] at hother
  rw [hother] at hread
  exact absurd hpos (Int.not_lt.2 (hnone n hread))

/-- The source is the sensor exactly when the sensor gave the temperature. -/
theorem Warmed.measured_iff (h : Warmed fanSpeed later status) :
    Measured later degrees ↔ status.source = .batterySensor ∧ degrees = status.temperature := by
  cases h with
  | @measured answer n hread hpos =>
      dsimp only
      constructor
      · rintro ⟨other, m, hother, hm, -, hdegrees⟩
        cases List.mem_singleton.1 hother
        rw [hm.unique hread] at hdegrees
        exact ⟨rfl, hdegrees⟩
      · rintro ⟨-, hdegrees⟩
        exact ⟨answer, n, List.mem_singleton_self _, hread, hpos, hdegrees⟩
  | estimated hnone => exact iff_of_false (not_measured hnone) (fun hsource => by cases hsource.1)
  | unknown hnone => exact iff_of_false (not_measured hnone) (fun hsource => by cases hsource.1)

/-- The source is the thermal level exactly when that led to the temperature. -/
theorem Warmed.estimated_iff (h : Warmed fanSpeed later status) :
    Estimated later degrees ↔ status.source = .thermalLevel ∧ degrees = status.temperature := by
  cases h with
  | measured =>
      refine iff_of_false ?_ (fun hsource => by cases hsource.1)
      rintro ⟨other, n, hother, -⟩
      cases List.mem_singleton.1 hother
  | @estimated answer level n _ hread hnonneg =>
      simp only [Estimated, List.mem_cons, reduceCtorEq, List.not_mem_nil, or_false, false_or,
        Exchange.thermalLevel.injEq, Except.ok.injEq]
      constructor
      · rintro ⟨other, m, rfl, hm, -, hdegrees⟩
        rw [hm.unique hread] at hdegrees
        exact ⟨trivial, hdegrees⟩
      · rintro ⟨-, hdegrees⟩
        exact ⟨level, n, rfl, hread, hnonneg, hdegrees⟩
  | @unknown answer level _ hlevel =>
      refine iff_of_false ?_ (fun hsource => by cases hsource.1)
      rintro ⟨other, n, hother, hread, hnonneg, -⟩
      simp only [List.mem_cons, reduceCtorEq, List.not_mem_nil, or_false, false_or,
        Exchange.thermalLevel.injEq, Except.ok.injEq] at hother
      rw [hother] at hread
      exact absurd hnonneg (Int.not_le.2 (hlevel n hread))

end

end Collect

namespace Display

open HostVitals.Collect

/-! ## Rows -/

/-- The row that says that there are no data. -/
def noDataRow : List Char :=
  "  No thermal data available".toList

/-- The words in front of a fan speed. -/
def fanCaption : List Char :=
  "    Fan Speed: ".toList

/-- The row of a fan speed. -/
def fanRow (fanSpeed : UInt32) : List Char :=
  fanCaption ++ natDigits fanSpeed.toNat ++ " RPM".toList

/-- The words in front of a processor temperature. -/
def processorCaption : List Char :=
  "    CPU Temp: ".toList

/-- The row of a measurement. -/
def measuredRow (degrees : Binary64) : List Char :=
  processorCaption ++ fixedPlaces 1 degrees ++ "°C".toList

/-- The words behind an estimate. -/
def estimateNote : List Char :=
  "(estimated from thermal level)".toList

/-- The row of an estimate. -/
def estimatedRow (degrees : Binary64) : List Char :=
  processorCaption ++ "~".toList ++ fixedPlaces 1 degrees ++ "°C ".toList ++ estimateNote

/-- The numbers of a status and its source agree on whether there are data. -/
def Agrees (status : Thermal) : Prop :=
  status.isEmpty = true ↔ status.fanSpeed = 0 ∧ status.source = .none

/-- The rows below the header. -/
def thermalRows (status : Thermal) : List (List Char) :=
  (if status.isEmpty then [[say "  ", sayIn .dimmed "No thermal data available"]]
    else fan status ++ processor status).map (writeSpans false)

section

variable {status : Thermal}

theorem rows_noData :
    writeSpans false [say "  ", sayIn .dimmed "No thermal data available"] = noDataRow := by
  decide

theorem rows_fan (status : Thermal) :
    (fan status).map (writeSpans false) =
      if status.fanSpeed = 0 then [] else [fanRow status.fanSpeed] := by
  have hrow : writeSpans false [say "    Fan Speed: ", ⟨.plain, natDigits status.fanSpeed.toNat⟩,
      say " RPM"] = fanRow status.fanSpeed := by
    simp only [writeSpans, List.flatMap_cons, List.flatMap_nil, Span.write_colourless,
      List.append_nil, fanRow, List.append_assoc]
    rfl
  by_cases hfan : status.fanSpeed = 0
  · rw [if_pos hfan, fan, hfan, if_neg (by decide), List.map_nil]
  · rw [if_neg hfan, fan, if_pos (UInt32.pos_iff_ne_zero.2 hfan), List.map_singleton, hrow]

theorem rows_processor (status : Thermal) :
    (processor status).map (writeSpans false) =
      match status.source with
      | .none => []
      | .batterySensor => [measuredRow status.temperature]
      | .thermalLevel => [estimatedRow status.temperature] := by
  have hmeasured : writeSpans false [say "    CPU Temp: ", temperature status.temperature] =
      measuredRow status.temperature := by
    simp only [writeSpans, List.flatMap_cons, List.flatMap_nil, Span.write_colourless,
      List.append_nil, measuredRow, List.append_assoc]
    rfl
  have hestimated : writeSpans false [say "    CPU Temp: ~", temperature status.temperature,
      say " ", sayIn .dimmed "(estimated from thermal level)"] =
        estimatedRow status.temperature := by
    have hcaption : (say "    CPU Temp: ~").text = processorCaption ++ "~".toList := by decide
    have hunit : "°C ".toList = "°C".toList ++ (say " ").text := by decide
    have hdegrees : (temperature status.temperature).text =
      fixedPlaces 1 status.temperature ++ "°C".toList := rfl
    simp only [writeSpans, List.flatMap_cons, List.flatMap_nil, Span.write_colourless,
      List.append_nil, hcaption, hdegrees, estimatedRow, hunit, List.append_assoc]
    rfl
  rw [processor]
  cases status.source with
  | none => rfl
  | batterySensor => rw [List.map_singleton, hmeasured]
  | thermalLevel => rw [List.map_singleton, hestimated]

/-- The rows for a status whose numbers and source agree on whether there are data. -/
theorem mem_thermalRows_iff (hagrees : Agrees status) {row : List Char} :
    row ∈ thermalRows status ↔
      (row = noDataRow ∧ status.fanSpeed = 0 ∧ status.source = .none) ∨
      (row = fanRow status.fanSpeed ∧ status.fanSpeed ≠ 0) ∨
      (row = measuredRow status.temperature ∧ status.source = .batterySensor) ∨
      (row = estimatedRow status.temperature ∧ status.source = .thermalLevel) := by
  by_cases hnone : status.fanSpeed = 0 ∧ status.source = .none
  · rw [thermalRows, if_pos (hagrees.2 hnone), List.map_singleton, rows_noData]
    simp [hnone]
  · rw [thermalRows, if_neg (mt hagrees.1 hnone), List.map_append, rows_fan, rows_processor,
      List.mem_append]
    by_cases hfan : status.fanSpeed = 0
    · cases hsource : status.source <;> simp [hfan, hsource] at hnone ⊢
    · cases hsource : status.source <;> simp [hfan]

/-! ## Telling rows apart -/

/-- Of two captions of which none goes on from the other, a row has at most one. -/
theorem not_caption_of_caption {as bs row : List Char} (h : bs <+: row) (has : ¬as <+: bs)
    (hbs : ¬bs <+: as) : ¬as <+: row := by
  intro hrow
  rcases List.prefix_or_prefix_of_prefix hrow h with hmore | hmore
  · exact has hmore
  · exact hbs hmore

theorem caption_fanRow (fanSpeed : UInt32) : fanCaption <+: fanRow fanSpeed :=
  (List.prefix_append _ _).trans (List.prefix_append _ _)

theorem caption_measuredRow (degrees : Binary64) : processorCaption <+: measuredRow degrees :=
  (List.prefix_append _ _).trans (List.prefix_append _ _)

theorem caption_estimatedRow (degrees : Binary64) : processorCaption <+: estimatedRow degrees := by
  simp only [estimatedRow, List.append_assoc]
  exact List.prefix_append _ _

/-- A character that is no figure stands in no row of a measurement, when it is not in its words. -/
theorem not_mem_measuredRow {c : Char} (hfigure : isFigure c = false)
    (hwords : c ∉ processorCaption ++ "°C".toList) (degrees : Binary64) :
    c ∉ measuredRow degrees := by
  intro hmem
  rw [List.mem_append, not_or] at hwords
  rcases List.mem_append.1 hmem with hmem | hunit
  · rcases List.mem_append.1 hmem with hcaption | hdegrees
    · exact hwords.1 hcaption
    · exact not_mem_fixedPlaces hfigure 1 degrees hdegrees
  · exact hwords.2 hunit

/-- A measurement has none of the marks of an estimate. -/
theorem unmarked_measuredRow (degrees : Binary64) :
    '~' ∉ measuredRow degrees ∧ ¬estimateNote <:+: measuredRow degrees := by
  refine ⟨not_mem_measuredRow (by decide) (by decide) degrees, ?_⟩
  intro hnote
  have hbracket : ')' ∈ estimateNote := by decide
  exact not_mem_measuredRow (by decide) (by decide) degrees (hnote.subset hbracket)

/-- An estimate has both of them. -/
theorem marked_estimatedRow (degrees : Binary64) :
    '~' ∈ estimatedRow degrees ∧ estimateNote <:+: estimatedRow degrees := by
  constructor
  · simp [estimatedRow]
  · exact (List.suffix_append _ _).isInfix

theorem newline_not_mem_fanRow (fanSpeed : UInt32) : '\n' ∉ fanRow fanSpeed := by
  have hcaption : '\n' ∉ fanCaption := by decide
  have hunit : '\n' ∉ " RPM".toList := by decide
  simp only [fanRow, List.mem_append, not_or]
  exact ⟨⟨hcaption, newline_not_mem_natDigits _⟩, hunit⟩

theorem newline_not_mem_estimatedRow (degrees : Binary64) : '\n' ∉ estimatedRow degrees := by
  have hcaption : '\n' ∉ processorCaption ++ "~".toList := by decide
  have hdegrees : '\n' ∉ fixedPlaces 1 degrees := not_mem_fixedPlaces (by decide) 1 degrees
  have hunit : '\n' ∉ "°C ".toList := by decide
  have hnote : '\n' ∉ estimateNote := by decide
  simp only [estimatedRow, List.mem_append, not_or] at hcaption ⊢
  exact ⟨⟨⟨hcaption, hdegrees⟩, hunit⟩, hnote⟩

/-! ## The section -/

/-- The section is its header and its rows. -/
theorem pieces_thermal (hagrees : Agrees status) :
    pieces isNewline (writeLines false (thermal status)) =
      [[], "Thermal".toList, List.replicate 60 '-'] ++ thermalRows status ++ [[]] := by
  rw [thermal, thermalRows]
  apply pieces_section (by decide)
  rw [← List.forall_mem_map (f := writeSpans false) (P := fun row => '\n' ∉ row), ← thermalRows]
  intro row hrow
  rcases (mem_thermalRows_iff hagrees).1 hrow with h | h | h | h
  · rw [h.1]
    decide
  · rw [h.1]
    exact newline_not_mem_fanRow _
  · rw [h.1]
    exact not_mem_measuredRow (by decide) (by decide) _
  · rw [h.1]
    exact newline_not_mem_estimatedRow _

/-- No row is printed twice. -/
theorem nodup_thermalRows (status : Thermal) : (thermalRows status).Nodup := by
  have hfan : ∀ speed, ∀ row, processorCaption <+: row → fanRow speed ≠ row := by
    rintro speed row hrow rfl
    exact not_caption_of_caption (caption_fanRow speed) (by decide) (by decide) hrow
  rw [thermalRows]
  split
  · simp
  · rw [List.map_append, rows_fan, rows_processor]
    have hmeasured := hfan status.fanSpeed _ (caption_measuredRow status.temperature)
    have hestimated := hfan status.fanSpeed _ (caption_estimatedRow status.temperature)
    split <;> split <;> simp [hmeasured, hestimated]

/-- It is said that there are no data exactly when there is neither a fan speed nor a source. -/
theorem noDataRow_mem_iff (hagrees : Agrees status) :
    noDataRow ∈ thermalRows status ↔ status.fanSpeed = 0 ∧ status.source = .none := by
  have hfan : ¬fanCaption <+: noDataRow := by decide
  have hprocessor : ¬processorCaption <+: noDataRow := by decide
  rw [mem_thermalRows_iff hagrees]
  constructor
  · rintro (⟨-, hnone⟩ | ⟨hrow, -⟩ | ⟨hrow, -⟩ | ⟨hrow, -⟩)
    · exact hnone
    · exact absurd (hrow ▸ caption_fanRow _) hfan
    · exact absurd (hrow ▸ caption_measuredRow _) hprocessor
    · exact absurd (hrow ▸ caption_estimatedRow _) hprocessor
  · exact fun hnone => .inl ⟨rfl, hnone⟩

/-- A row with the caption of the fan is the row of its speed. -/
theorem fan_mem_iff (hagrees : Agrees status) {row : List Char} :
    row ∈ thermalRows status ∧ fanCaption <+: row ↔
      row = fanRow status.fanSpeed ∧ status.fanSpeed ≠ 0 := by
  have hprocessor : ∀ {row : List Char}, processorCaption <+: row → ¬fanCaption <+: row :=
    fun hrow => not_caption_of_caption hrow (by decide) (by decide)
  rw [mem_thermalRows_iff hagrees]
  constructor
  · rintro ⟨⟨rfl, -⟩ | hfan | ⟨rfl, -⟩ | ⟨rfl, -⟩, hcaption⟩
    · exact absurd hcaption (by decide)
    · exact hfan
    · exact absurd hcaption (hprocessor (caption_measuredRow _))
    · exact absurd hcaption (hprocessor (caption_estimatedRow _))
  · rintro ⟨rfl, hfan⟩
    exact ⟨.inr (.inl ⟨rfl, hfan⟩), caption_fanRow _⟩

/-- A row with the caption of the processor is the row of its temperature, as a measurement or as an
estimate by the source. -/
theorem processor_mem_iff (hagrees : Agrees status) {row : List Char} :
    row ∈ thermalRows status ∧ processorCaption <+: row ↔
      (row = measuredRow status.temperature ∧ status.source = .batterySensor) ∨
      (row = estimatedRow status.temperature ∧ status.source = .thermalLevel) := by
  rw [mem_thermalRows_iff hagrees]
  constructor
  · rintro ⟨⟨rfl, -⟩ | ⟨rfl, -⟩ | hmeasured | hestimated, hcaption⟩
    · exact absurd hcaption (by decide)
    · exact absurd hcaption
        (not_caption_of_caption (caption_fanRow _) (by decide) (by decide))
    · exact .inl hmeasured
    · exact .inr hestimated
  · rintro (⟨rfl, hsource⟩ | ⟨rfl, hsource⟩)
    · exact ⟨.inr (.inr (.inl ⟨rfl, hsource⟩)), caption_measuredRow _⟩
    · exact ⟨.inr (.inr (.inr ⟨rfl, hsource⟩)), caption_estimatedRow _⟩

end

/-! ## What is shown of a round -/

/-- What rows show of a status, and of the exchanges in which it was collected. -/
structure Shows (rows : List (List Char)) (status : Thermal) (exchanges : List Exchange) :
    Prop where
  /-- No row is printed twice. -/
  once : rows.Nodup
  /-- There are three kinds of rows. -/
  kinds : ∀ row ∈ rows, row = noDataRow ∨ fanCaption <+: row ∨ processorCaption <+: row
  /-- It is said that there are no data exactly when there is neither a fan speed nor a source of a
  temperature, and nothing else is said then. -/
  noData_iff : noDataRow ∈ rows ↔ status.fanSpeed = 0 ∧ status.source = .none
  noData_alone : noDataRow ∈ rows → rows = [noDataRow]
  /-- A fan speed is shown exactly when it is not zero. -/
  fan_iff : ∀ row, row ∈ rows ∧ fanCaption <+: row ↔
    row = fanRow status.fanSpeed ∧ status.fanSpeed ≠ 0
  /-- A temperature is shown exactly when there is a source. -/
  processor_iff : (∃ row ∈ rows, processorCaption <+: row) ↔ status.source ≠ .none
  /-- What the sensor gave is shown as a measurement, and what the thermal level led to as an
  estimate. -/
  origin_iff : ∀ row, row ∈ rows ∧ processorCaption <+: row ↔
    (∃ degrees, row = measuredRow degrees ∧ Measured exchanges degrees) ∨
    ∃ degrees, row = estimatedRow degrees ∧ Estimated exchanges degrees
  /-- The marks of an estimate are there exactly when the temperature is one. -/
  marked_iff : ∀ row ∈ rows, processorCaption <+: row →
    ('~' ∈ row ↔ ∃ degrees, Estimated exchanges degrees) ∧
    (estimateNote <:+: row ↔ ∃ degrees, Estimated exchanges degrees)

/-- The rows show what the exchanges gave when numbers and source of the status are those of the
exchanges. -/
theorem shows_thermalRows {status : Thermal} {exchanges : List Exchange} (hagrees : Agrees status)
    (hmeasured : ∀ degrees, Measured exchanges degrees ↔
      status.source = .batterySensor ∧ degrees = status.temperature)
    (hestimated : ∀ degrees, Estimated exchanges degrees ↔
      status.source = .thermalLevel ∧ degrees = status.temperature) :
    Shows (thermalRows status) status exchanges where
  once := nodup_thermalRows status
  kinds := by
    intro row hrow
    rcases (mem_thermalRows_iff hagrees).1 hrow with ⟨rfl, -⟩ | ⟨rfl, -⟩ | ⟨rfl, -⟩ | ⟨rfl, -⟩
    · exact .inl rfl
    · exact .inr (.inl (caption_fanRow _))
    · exact .inr (.inr (caption_measuredRow _))
    · exact .inr (.inr (caption_estimatedRow _))
  noData_iff := noDataRow_mem_iff hagrees
  noData_alone := by
    intro hrow
    rw [thermalRows, if_pos (hagrees.2 ((noDataRow_mem_iff hagrees).1 hrow)), List.map_singleton,
      rows_noData]
  fan_iff := fun _ => fan_mem_iff hagrees
  processor_iff := by
    simp only [processor_mem_iff hagrees]
    cases status.source <;> simp
  origin_iff := by
    intro row
    rw [processor_mem_iff hagrees]
    simp only [hmeasured, hestimated]
    constructor
    · rintro (⟨hrow, hsource⟩ | ⟨hrow, hsource⟩)
      · exact .inl ⟨_, hrow, hsource, rfl⟩
      · exact .inr ⟨_, hrow, hsource, rfl⟩
    · rintro (⟨_, hrow, hsource, rfl⟩ | ⟨_, hrow, hsource, rfl⟩)
      · exact .inl ⟨hrow, hsource⟩
      · exact .inr ⟨hrow, hsource⟩
  marked_iff := by
    intro row hrow hcaption
    simp only [hestimated]
    rcases (processor_mem_iff hagrees).1 ⟨hrow, hcaption⟩ with ⟨rfl, hsource⟩ | ⟨rfl, hsource⟩
    · have hunmarked := unmarked_measuredRow status.temperature
      simp [hunmarked, hsource]
    · have hmarked := marked_estimatedRow status.temperature
      simp [hmarked, hsource]

section

variable {σ : Type} {station : Station σ} {session : Session σ} {status : Thermal}

/-- What is shown of a status that was collected, whatever was kept before and whatever the probes
answered.  The rows below the header say that there are no data exactly when there is neither a fan
speed nor a source of a temperature.  Otherwise there is a row for the fan exactly when its speed is
not zero, and one for the processor exactly when there is a source.  That row shows the temperature
that the sensor gave in the round, or, with the marks of an estimate, the one that the thermal level
led to.  So no estimate is shown as a measurement, no measurement as an estimate, and no temperature
that was got is left out. -/
theorem thermal_provenance (h : (Collect.thermal station session).1 = .ok status) :
    let exchanges := (transcript (Collect.thermal station.watched) session).exchanges
    (∃ rows : List (List Char),
      pieces isNewline (writeLines false (thermal status)) =
        [[], "Thermal".toList, List.replicate 60 '-'] ++ rows ++ [[]] ∧
      Shows rows status exchanges) ∧
    (status.source = .batterySensor ↔ ∃ degrees, Measured exchanges degrees) ∧
    (status.source = .thermalLevel ↔ ∃ degrees, Estimated exchanges degrees) := by
  have hsound := (unguarded_thermal station).sound_of_ok h
  obtain ⟨profile, later, told, -, htold, hexchanges, hwarmed⟩ := warmed_thermal hsound
  cases Except.ok.inj (h.symm.trans htold)
  have hlooks := (look_powerText station session).isLook
  intro exchanges
  have hmeasured : ∀ degrees, Measured exchanges degrees ↔
      status.source = .batterySensor ∧ degrees = status.temperature := by
    intro degrees
    rw [show exchanges = _ from hexchanges, measured_append_iff hlooks, hwarmed.measured_iff]
  have hestimated : ∀ degrees, Estimated exchanges degrees ↔
      status.source = .thermalLevel ∧ degrees = status.temperature := by
    intro degrees
    rw [show exchanges = _ from hexchanges, estimated_append_iff hlooks, hwarmed.estimated_iff]
  refine ⟨⟨thermalRows status, pieces_thermal hwarmed.isEmpty_iff,
    shows_thermalRows hwarmed.isEmpty_iff hmeasured hestimated⟩, ?_, ?_⟩
  · simp [hmeasured]
  · simp [hestimated]

end

/-- A prepared host with a fan whose sensor gives zero, so that the thermal level leads to an
estimate. -/
def fannedHost : Prepared where
  clock := 100
  drift := 7
  files := Files.emptyDirectory
  texts := [("profile", [.ok (.ok "Fan Speed: 1200 RPM")]), ("temp", [.ok (.ok "0")]),
    ("level", [.ok (.ok "40\n")])]
  supplies := []
  temperatures := []

/-- Its fan speed is shown, and its temperature with the marks of an estimate. -/
theorem thermal_provenance_fanned :
    let station := Prepared.station (Prepared.platform "Trial" true) 30
    let status : Thermal := ⟨1200, .ofInt 65, .thermalLevel⟩
    (Collect.thermal station (Session.start fannedHost)).1 = .ok status ∧
      ∃ rows : List (List Char),
        pieces isNewline (writeLines false (thermal status)) =
          [[], "Thermal".toList, List.replicate 60 '-'] ++ rows ++ [[]] ∧
        fanRow 1200 ∈ rows ∧ ∃ row ∈ rows, '~' ∈ row ∧ estimateNote <:+: row := by
  intro station status
  have hsome : (Collect.thermal station (Session.start fannedHost)).1.toOption = some status := by
    decide +kernel
  have htold : (Collect.thermal station (Session.start fannedHost)).1 = .ok status := by
    cases hrun : (Collect.thermal station (Session.start fannedHost)).1 with
    | error breakdown =>
        rw [hrun] at hsome
        cases hsome
    | ok told =>
        rw [hrun] at hsome
        rw [Option.some.inj hsome]
  obtain ⟨⟨rows, hrows, hshows⟩, -, hestimated⟩ := thermal_provenance htold
  obtain ⟨row, hrow, hcaption⟩ := hshows.processor_iff.2 (by decide)
  have hmarks := hshows.marked_iff row hrow hcaption
  have hfan := (hshows.fan_iff (fanRow 1200)).2 ⟨rfl, by decide⟩
  exact ⟨htold, rows, hrows, hfan.1, row, hrow, hmarks.1.2 (hestimated.1 rfl),
    hmarks.2.2 (hestimated.1 rfl)⟩

end Display

end HostVitals
