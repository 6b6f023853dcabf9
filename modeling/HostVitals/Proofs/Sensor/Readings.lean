import HostVitals.Collect.Snapshot
import HostVitals.Proofs.Number.Order
import HostVitals.Proofs.Rounds.Transcript
import HostVitals.Proofs.Sensor.Labels

/-!
# Readings of sensors

A list of raw temperatures is gone through one by one: a value that can be a temperature is kept
with the label of its key, and all others are dropped.  Whether a value can be a temperature is a
question of its exact value, so that it has an answer for each number, the infinite ones and the one
that is no number among them.  Readings have labels for keys and are plausible, so that nothing
changes when they are read once more.

Main results:

- `isPlausible_iff`: the plausible values by their exact values.
- `readings_eq_iff`: which temperatures are kept, in which order, and as what.
- `readings_readings`: readings that are read once more.
- `readings_kept`: these laws, and what the collector makes of the answer of the sensors.
-/

namespace HostVitals

open HostVitals.Number

/-! ## Values -/

/-- A value that can be a temperature: finite, above zero and at most 150 degrees. -/
def IsTemperature (x : Binary64) : Prop :=
  ∃ degrees : ℚ, x.value = some degrees ∧ 0 < degrees ∧ degrees ≤ 150

theorem value_zero : Binary64.zero.value = some 0 :=
  Binary64.LiesIn.value_eq (n := 0) (by decide +kernel)

theorem value_hottest : hottest.value = some 150 :=
  Binary64.LiesIn.value_eq (n := 150) (by decide +kernel)

/-- The plausible values are those that can be temperatures. -/
theorem isPlausible_iff {x : Binary64} : isPlausible x = true ↔ IsTemperature x := by
  simp only [isPlausible, Bool.and_eq_true, ← Binary64.isSome_value_iff, Option.isSome_iff_exists]
  constructor
  · rintro ⟨⟨⟨degrees, hvalue⟩, habove⟩, hbelow⟩
    exact ⟨degrees, hvalue, (Binary64.lt_iff_value value_zero hvalue).1 habove,
      (Binary64.le_iff_value hvalue value_hottest).1 hbelow⟩
  · rintro ⟨degrees, hvalue, habove, hbelow⟩
    exact ⟨⟨⟨degrees, hvalue⟩, (Binary64.lt_iff_value value_zero hvalue).2 habove⟩,
      (Binary64.le_iff_value hvalue value_hottest).2 hbelow⟩

/-! ## Lists -/

/-- Going through raw temperatures one by one: what can be a temperature is kept with the label of
its key, its value and the unit, and the rest is dropped. -/
inductive Sifted : List RawTemperature → List Reading → Prop
  | none : Sifted [] []
  | keep {t : RawTemperature} {ts : List RawTemperature} {rs : List Reading}
      (h : IsTemperature t.celsius) (hrest : Sifted ts rs) :
      Sifted (t :: ts) (⟨labelOfKey t.key, t.celsius, "°C"⟩ :: rs)
  | drop {t : RawTemperature} {ts : List RawTemperature} {rs : List Reading}
      (h : ¬IsTemperature t.celsius) (hrest : Sifted ts rs) : Sifted (t :: ts) rs

section

variable {t : RawTemperature} {ts : List RawTemperature} {rs : List Reading}

theorem readings_cons_keep (h : IsTemperature t.celsius) :
    readings (t :: ts) = ⟨labelOfKey t.key, t.celsius, celsius⟩ :: readings ts := by
  simp [readings, isPlausible_iff.2 h]

theorem readings_cons_drop (h : ¬IsTemperature t.celsius) : readings (t :: ts) = readings ts := by
  rw [← isPlausible_iff] at h
  simp [readings, h]

theorem sifted_readings (ts : List RawTemperature) : Sifted ts (readings ts) := by
  induction ts with
  | nil => exact .none
  | cons t ts ih =>
      by_cases h : IsTemperature t.celsius
      · rw [readings_cons_keep h]
        exact .keep h ih
      · rw [readings_cons_drop h]
        exact .drop h ih

/-- The readings of raw temperatures are what is left when one goes through them. -/
theorem readings_eq_iff : readings ts = rs ↔ Sifted ts rs := by
  constructor
  · rintro rfl
    exact sifted_readings ts
  · intro hsifted
    induction hsifted with
    | none => rfl
    | keep h _ ih => rw [readings_cons_keep h, ih, celsius]
    | drop h _ ih => rw [readings_cons_drop h, ih]

end

/-! ## Once more -/

/-- A reading as a raw temperature, with its label for the key. -/
def Reading.raw (r : Reading) : RawTemperature :=
  ⟨r.label, r.value⟩

/-- Plausible values in degrees Celsius with labels are their own readings. -/
theorem readings_map_raw {rs : List Reading}
    (h : ∀ r ∈ rs, isPlausible r.value = true ∧ labelOfKey r.label = r.label ∧ r.unit = celsius) :
    readings (rs.map Reading.raw) = rs := by
  induction rs with
  | nil => rfl
  | cons r rs ih =>
      obtain ⟨hvalue, hlabel, hunit⟩ := h r List.mem_cons_self
      have hkept : IsTemperature r.raw.celsius := isPlausible_iff.1 hvalue
      rw [List.map_cons, readings_cons_keep hkept,
        ih (fun other hother => h other (List.mem_cons_of_mem r hother)), Reading.raw, hlabel,
        ← hunit]

/-- Readings that are read once more stay as they are. -/
theorem readings_readings (ts : List RawTemperature) :
    readings ((readings ts).map Reading.raw) = readings ts := by
  apply readings_map_raw
  intro r hr
  have hvalue : isPlausible r.value = true := readings_plausible hr
  exact ⟨hvalue, labelled_readings hr⟩

/-! ## The collector -/

/-- What is collected from the sensors: the readings, or the failure of the sensors as it is. -/
theorem outcome_sensors {σ : Type} (station : Station σ) (session : Session σ) :
    (Collect.sensors station session).1 =
      match (station.sensors session.host).outcome with
      | .ok (.ok temperatures) => .ok (.ok (readings temperatures))
      | .ok (.error failure) => .ok (.error failure)
      | .error breakdown => .error breakdown := by
  rcases h : (station.sensors session.host).outcome with breakdown | failure | temperatures
  · exact congrArg Prod.fst (Collect.run_ask_bind_error h _)
  · exact congrArg Prod.fst (Collect.run_ask_bind_ok h _)
  · exact congrArg Prod.fst (Collect.run_ask_bind_ok h _)

/-- The raw temperatures that are kept are those with a finite value above zero and at most 150, in
their order and as often as they occur, with the labels of their keys and their own values.  The
readings of two lists are those of the one and those of the other, and readings that are read once
more stay as they are.  The collector gives the readings when the sensors answer with temperatures,
and otherwise their failure. -/
theorem readings_kept :
    (∀ ts rs, readings ts = rs ↔ Sifted ts rs) ∧
    (∀ as bs, readings (as ++ bs) = readings as ++ readings bs) ∧
    (∀ ts, readings ((readings ts).map (fun r => ⟨r.label, r.value⟩)) = readings ts) ∧
    ∀ (σ : Type) (station : Station σ) (session : Session σ),
      (Collect.sensors station session).1 =
        match (station.sensors session.host).outcome with
        | .ok (.ok temperatures) => .ok (.ok (readings temperatures))
        | .ok (.error failure) => .ok (.error failure)
        | .error breakdown => .error breakdown :=
  ⟨fun _ _ => readings_eq_iff, readings_append, readings_readings,
    fun _ station session => outcome_sensors station session⟩

/-- A value of 150 degrees is kept, and the next greater one is not. -/
example :
    let hot : RawTemperature := ⟨"die", .ofBits 0x4062C00000000000⟩
    let hotter : RawTemperature := ⟨"die", .ofBits 0x4062C00000000001⟩
    (readings [hot, hotter]).length = 1 := by
  decide +kernel

end HostVitals
