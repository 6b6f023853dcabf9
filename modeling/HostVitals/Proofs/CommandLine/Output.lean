import HostVitals.CommandLine.Topic
import HostVitals.Platform.Scripted
import HostVitals.Proofs.Json.Snapshots
import HostVitals.Proofs.Rounds.Transcript

/-!
# What goes to the standard output

Where JSON is asked for, a program that reads the standard output expects one document and a line
end, or nothing at all.  This is what it finds, with one exception: that there is no battery is told
in words.

Main results:

- `isOneDocument_document`: a document of a well-formed value is one document.
- `tell_json_iff`: the standard output is empty or one document, unless there is no battery to tell
  of.
-/

namespace HostVitals.CommandLine

open HostVitals.Collect HostVitals.Json HostVitals.Text

/-- An output is one JSON document and a line end. -/
def IsOneDocument (output : String) : Prop :=
  ∃ text value, output = text ++ "\n" ∧ ofText text = some value

theorem isOneDocument_document {value : Value} (h : value.WellFormed) :
    IsOneDocument (document value).stdout :=
  ⟨value.toText, value, rfl, ofText_toText h⟩

/-- An output that is fit for a reader of JSON. -/
def FitForJson (printed : Printed) : Prop :=
  printed.stdout = "" ∨ IsOneDocument printed.stdout

/-! ## The parts -/

/-- The characters that tell that there is no battery, without the line end. -/
def noBatteryWords (colours : Bool) : List Char :=
  writeSpans colours [sayIn .dimmed Failure.noBatteryData.message]

/-- They are no document, with colours or without. -/
theorem document_noBatteryWords (colours : Bool) :
    Json.document ((noBatteryWords colours).map some) = none := by
  cases colours <;> decide +kernel

/-- That there is no battery is told in words. -/
theorem not_fitForJson_noBattery (colours : Bool) :
    ¬FitForJson (toldBatteries ⟨true, colours⟩ (.error .noBatteryData)) := by
  have hline : (toldBatteries ⟨true, colours⟩ (.error .noBatteryData)).stdout.toList =
      noBatteryWords colours ++ ['\n'] := by
    simp [toldBatteries, display, writeLines, noBatteryWords]
  rintro (hempty | ⟨text, value, houtput, hvalue⟩)
  · rw [hempty] at hline
    simp at hline
  · rw [houtput, String.toList_append] at hline
    have htext : text.toList = noBatteryWords colours := List.append_cancel_right hline
    rw [ofText, htext, document_noBatteryWords] at hvalue
    cases hvalue

/-- Of the batteries there is one document or nothing, unless there is none of them. -/
theorem fitForJson_toldBatteries_iff (colours : Bool) (answer : Answer (List Battery)) :
    FitForJson (toldBatteries ⟨true, colours⟩ answer) ↔ answer ≠ .error .noBatteryData := by
  rcases answer with failure | found
  · cases failure with
    | noBatteryData => exact iff_of_false (not_fitForJson_noBattery colours) (by simp)
    | _ => exact iff_of_true (.inl rfl) (by simp)
  · have hdocument := isOneDocument_document (wellFormed_list Battery.wellFormed_toJson found)
    exact iff_of_true (.inr hdocument) (by simp)

theorem fitForJson_toldThermal (colours : Bool) (status : Thermal) :
    FitForJson (toldThermal ⟨true, colours⟩ status) :=
  .inr (isOneDocument_document status.wellFormed_toJson)

theorem fitForJson_toldSensors {colours : Bool} {answer : Answer (List HostVitals.Reading)}
    {printed : Printed} (h : toldSensors ⟨true, colours⟩ answer = .ok printed) :
    FitForJson printed := by
  rcases answer with failure | found
  · cases h
    exact .inl rfl
  · cases h
    exact .inr (isOneDocument_document (wellFormed_list HostVitals.Reading.wellFormed_toJson found))

theorem fitForJson_toldSnapshot {colours : Bool} {forms : TimeForms} {snap : Snapshot}
    {printed : Printed} (h : toldSnapshot ⟨true, colours⟩ forms snap = .ok printed) :
    FitForJson printed := by
  have hprinted : document (snap.toJsonAt (forms.document snap.collectedAt)) = printed :=
    Except.ok.inj h
  rw [← hprinted]
  exact .inr (isOneDocument_document (snap.wellFormed_toJsonAt _))

/-! ## The whole output -/

section

variable {σ : Type} {station : Station σ} {colours : Bool} {forms : TimeForms}
  {time : Time.Instant} {session : Session σ} {printed : Printed}

/-- What is told of the batteries is told of their answer. -/
theorem tell_battery (h : (tell station .battery ⟨true, colours⟩ forms time session).1 =
    .ok printed) : printed = toldBatteries ⟨true, colours⟩ (batteries station session).1 :=
  (Except.ok.inj h).symm

theorem tell_thermal (h : (tell station .thermal ⟨true, colours⟩ forms time session).1 =
    .ok printed) : ∃ status, printed = toldThermal ⟨true, colours⟩ status := by
  obtain ⟨status, after, -, hlast⟩ := parts_of_bind_ok (Prod.ext h rfl)
  exact ⟨status, (Except.ok.inj (congrArg Prod.fst hlast)).symm⟩

theorem tell_sensors (h : (tell station .sensors ⟨true, colours⟩ forms time session).1 =
    .ok printed) : ∃ answer, toldSensors ⟨true, colours⟩ answer = .ok printed := by
  obtain ⟨answer, after, -, hlast⟩ := parts_of_bind_ok (Prod.ext h rfl)
  exact ⟨answer, congrArg Prod.fst hlast⟩

theorem tell_all (h : (tell station .all ⟨true, colours⟩ forms time session).1 = .ok printed) :
    ∃ snap, toldSnapshot ⟨true, colours⟩ forms snap = .ok printed := by
  obtain ⟨snap, after, -, hlast⟩ := parts_of_bind_ok (Prod.ext h rfl)
  exact ⟨snap, congrArg Prod.fst hlast⟩

end

/-- Where JSON is asked for, whatever is told on the standard output is empty or is one document and
a line end, exactly unless the batteries are asked for and there is no battery. -/
theorem tell_json_iff {σ : Type} {station : Station σ} {topic : Topic} {colours : Bool}
    {forms : TimeForms} {time : Time.Instant} {session : Session σ} {printed : Printed}
    (h : (tell station topic ⟨true, colours⟩ forms time session).1 = .ok printed) :
    (printed.stdout = "" ∨
        ∃ text value, printed.stdout = text ++ "\n" ∧ ofText text = some value) ↔
      ¬(topic = .battery ∧ (batteries station session).1 = .error .noBatteryData) := by
  change FitForJson printed ↔ _
  cases topic with
  | battery =>
      rw [tell_battery h, fitForJson_toldBatteries_iff]
      simp
  | thermal =>
      obtain ⟨status, rfl⟩ := tell_thermal h
      exact iff_of_true (fitForJson_toldThermal colours status) (by simp)
  | sensors =>
      obtain ⟨answer, hanswer⟩ := tell_sensors h
      exact iff_of_true (fitForJson_toldSensors hanswer) (by simp)
  | all =>
      obtain ⟨snap, hsnap⟩ := tell_all h
      exact iff_of_true (fitForJson_toldSnapshot hsnap) (by simp)

/-- A station that watches a host with nothing on it. -/
def bareStation : Station Prepared :=
  Prepared.station (Prepared.platform "scripted" false) 30

/-- A session with that host. -/
def bareSession : Session Prepared :=
  .start (Prepared.empty Files.emptyDirectory)

/-- Fan and temperature of that host are one document. -/
theorem tell_json_iff_thermal :
    ∃ printed, (tell bareStation .thermal ⟨true, true⟩ .usual ⟨0, 0⟩ bareSession).1 = .ok printed ∧
      (printed.stdout = "" ∨
        ∃ text value, printed.stdout = text ++ "\n" ∧ ofText text = some value) := by
  have hok : (tell bareStation .thermal ⟨true, true⟩ .usual ⟨0, 0⟩ bareSession).1.isOk = true := by
    decide +kernel
  generalize htold : (tell bareStation .thermal ⟨true, true⟩ .usual ⟨0, 0⟩ bareSession).1 = told
    at hok
  cases told with
  | error breakdown => cases hok
  | ok printed => exact ⟨printed, rfl, (tell_json_iff htold).2 (by simp)⟩

/-- That the host has no battery is told in words, though JSON is asked for. -/
theorem tell_json_without_battery :
    ∃ printed, (tell bareStation .battery ⟨true, false⟩ .usual ⟨0, 0⟩ bareSession).1 =
        .ok printed ∧ printed.stdout = "no battery data found\n" ∧
      ¬(printed.stdout = "" ∨
        ∃ text value, printed.stdout = text ++ "\n" ∧ ofText text = some value) := by
  have hnone : (batteries bareStation bareSession).1 = .error .noBatteryData := rfl
  refine ⟨toldBatteries ⟨true, false⟩ (.error .noBatteryData), ?_, by decide +kernel,
    not_fitForJson_noBattery false⟩
  rw [← hnone]
  rfl

end HostVitals.CommandLine
