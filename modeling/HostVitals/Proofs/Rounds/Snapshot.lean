import HostVitals.Proofs.Rounds.Batteries
import HostVitals.Proofs.Rounds.TaskOrder
import HostVitals.Proofs.Sensor.Labels

/-!
# A round of everything

A snapshot is what the batteries, the sensors, and fan and temperature come to one after the other,
with the failures of the first two recorded in it.  The guard around the batteries is the only one:
what breaks down after them breaks the whole round down.

Main results:

- `snapshot_parts`: the parts of a round that comes to a snapshot.
- `snapshot_escapes`: a round breaks down exactly with the probes that are asked outside the guard.
- `snapshot_in_turn`: a snapshot is what the three collectors come to in turn.
-/

namespace HostVitals.Collect

open HostVitals.Number

variable {σ : Type}

/-! ## The parts of a round -/

/-- What was found, as a snapshot. -/
def assemble (station : Station σ) (time : Time.Instant) (found : Answer (List Battery))
    (read : Answer (List Reading)) (status : Thermal) : Snapshot where
  collectedAt := time
  platform := station.platform.name
  batteries := listOf found
  batteryError := errorOf found
  thermal := status
  sensors := listOf read
  sensorError := errorOf read

/-- The rest of a round, once the sensors are read. -/
def afterSensors (station : Station σ) (time : Time.Instant) (found : Answer (List Battery))
    (read : Answer (List Reading)) : Collect σ Snapshot := do
  return assemble station time found read (← thermal station)

/-- The rest of a round, once the batteries are collected. -/
def afterBatteries (station : Station σ) (time : Time.Instant) (found : Answer (List Battery)) :
    Collect σ Snapshot :=
  sensors station >>= afterSensors station time found

theorem unguarded_afterSensors (station : Station σ) (time : Time.Instant)
    (found : Answer (List Battery)) (read : Answer (List Reading)) :
    Unguarded (afterSensors station.watched time found read)
      (afterSensors station time found read) :=
  (unguarded_thermal station).bind (fun _ => .pure _)

/-- The rest of a round has no guard. -/
theorem unguarded_afterBatteries (station : Station σ) (time : Time.Instant)
    (found : Answer (List Battery)) :
    Unguarded (afterBatteries station.watched time found) (afterBatteries station time found) :=
  (unguarded_sensors station).bind (unguarded_afterSensors station time found)

/-- A round goes on in any case once the batteries are collected. -/
theorem run_snapshot (station : Station σ) (time : Time.Instant) (session : Session σ) :
    snapshot station time session =
      afterBatteries station time (batteries station session).1 (batteries station session).2 := by
  have hfound : ofSafely (batteries station) session =
      (.ok (batteries station session).1, (batteries station session).2) := rfl
  exact run_bind_ok hfound _

theorem transcript_snapshot (station : Station σ) (time : Time.Instant) (session : Session σ) :
    transcript (snapshot station.watched time) session =
      transcript (batteries station.watched) session ++
        transcript (afterBatteries station.watched time (batteries station session).1)
          (batteries station session).2 := by
  have hfound : ofSafely (batteries station) session =
      (.ok (batteries station session).1, (batteries station session).2) := rfl
  have hbatteries := tells_ofSafely (tells_batteries station)
  have htold := hbatteries.watches.transcript_bind_ok hfound
    (unguarded_afterBatteries station time (batteries station session).1).watches
  rw [hbatteries.transcript session, ← (tells_batteries station).transcript session] at htold
  exact htold

/-- The parts of a round that comes to a snapshot. -/
theorem snapshot_parts {station : Station σ} {time : Time.Instant} {session after : Session σ}
    {snap : Snapshot} (h : snapshot station time session = (.ok snap, after)) :
    ∃ found first read second status, batteries station session = (found, first) ∧
      sensors station first = (.ok read, second) ∧ thermal station second = (.ok status, after) ∧
      snap = assemble station time found read status := by
  rcases hfound : batteries station session with ⟨found, first⟩
  rw [run_snapshot, hfound] at h
  obtain ⟨read, second, hread, hafter⟩ := parts_of_bind_ok h
  obtain ⟨status, third, hstatus, hlast⟩ := parts_of_bind_ok hafter
  cases hlast
  exact ⟨found, first, read, second, status, rfl, hread, hstatus, rfl⟩

/-! ## Breakdowns -/

/-- After the batteries the sensors are read, and then fan and temperature are collected unless the
sensors broke down. -/
theorem exchanges_afterBatteries (station : Station σ) (time : Time.Instant)
    (found : Answer (List Battery)) (session : Session σ) :
    ∃ later, (transcript (afterBatteries station.watched time found) session).exchanges =
        .sensors (station.sensors session.host).outcome :: later ∧
      ∀ exchange ∈ later, exchange.isThermal = true := by
  have hread : (transcript (sensors station.watched) session).exchanges =
      [.sensors (station.sensors session.host).outcome] :=
    exchanges_ask_silent (fun _ => .pure _) session
  have hwatches := (unguarded_sensors station).watches
  rcases hsensors : sensors station session with ⟨breakdown | read, before⟩
  · refine ⟨[], ?_, by simp⟩
    rw [afterBatteries, hwatches.transcript_bind_error hsensors, hread]
  · have hlater : (transcript (afterSensors station.watched time found read) before).exchanges =
        (transcript (thermal station.watched) before).exchanges :=
      (unguarded_thermal station).watches.exchanges_bind_silent (fun _ => .pure _) before
    refine ⟨_, ?_, isThermal_thermal station before⟩
    rw [afterBatteries, hwatches.transcript_bind_ok hsensors
      (unguarded_afterSensors station time found read).watches, Transcript.exchanges_append, hread,
      hlater]
    rfl

/-- The failures of the batteries and of the sensors are recorded. -/
theorem snapshot_records {station : Station σ} {time : Time.Instant} {session : Session σ}
    {snap : Snapshot} {failure : Failure} (h : (snapshot station time session).1 = .ok snap) :
    ((batteries station session).1 = .error failure →
        snap.batteries = [] ∧ snap.batteryError = some failure.message) ∧
      ((station.sensors (batteries station session).2.host).outcome = .ok (.error failure) →
        snap.sensors = [] ∧ snap.sensorError = some failure.message) := by
  have hrun : snapshot station time session = (.ok snap, (snapshot station time session).2) :=
    Prod.ext h rfl
  obtain ⟨found, first, read, second, status, hfound, hread, -, rfl⟩ := snapshot_parts hrun
  rw [hfound]
  constructor
  · rintro rfl
    exact ⟨rfl, rfl⟩
  · intro hfailed
    have hsensors : sensors station first = (.ok (.error failure), _) :=
      run_ask_bind_ok hfailed _
    rw [hread] at hsensors
    cases hsensors
    exact ⟨rfl, rfl⟩

/-- A round breaks down exactly when a probe does that is asked after the batteries: the sensors,
or a probe for fan and temperature.  What breaks down while the batteries are collected does not
break down the round.  Otherwise there is a snapshot, and the failures of the batteries and of the
sensors are recorded in it, those breakdowns among them. -/
theorem snapshot_escapes (station : Station σ) (time : Time.Instant) (session : Session σ) :
    let guarded := (transcript (batteries station.watched) session).exchanges
    ∃ (read : Except Breakdown (Answer (List RawTemperature))) (later : List Exchange),
      (transcript (snapshot station.watched time) session).exchanges =
        guarded ++ .sensors read :: later ∧
      (∀ exchange ∈ later, exchange.isThermal = true) ∧
      (∀ breakdown, (snapshot station time session).1 = .error breakdown ↔
        ∃ exchange ∈ .sensors read :: later, exchange.breakdown = some breakdown) ∧
      ((∀ exchange ∈ .sensors read :: later, exchange.breakdown = none) →
        ∃ snap, (snapshot station time session).1 = .ok snap) ∧
      ∀ snap, (snapshot station time session).1 = .ok snap →
        (∀ exchange ∈ guarded, ∀ breakdown, exchange.breakdown = some breakdown →
          snap.batteries = [] ∧
            snap.batteryError = some ("battery collection failed: " ++ breakdown.reason)) ∧
        (∀ failure, (batteries station session).1 = .error failure →
          snap.batteries = [] ∧ snap.batteryError = some failure.message) ∧
        (∀ failure, read = .ok (.error failure) →
          snap.sensors = [] ∧ snap.sensorError = some failure.message) := by
  intro guarded
  obtain ⟨later, hexchanges, hlater⟩ := exchanges_afterBatteries station time
    (batteries station session).1 (batteries station session).2
  have hafter := unguarded_afterBatteries station time (batteries station session).1
  refine ⟨(station.sensors (batteries station session).2.host).outcome, later, ?_, hlater, ?_, ?_,
    ?_⟩
  · rw [transcript_snapshot, Transcript.exchanges_append, hexchanges]
  · intro breakdown
    rw [run_snapshot, hafter.broken_iff, hexchanges]
  · intro hsound
    rw [← hexchanges] at hsound
    obtain ⟨snap, after, hsnap⟩ := hafter.ok_of_sound hsound
    exact ⟨snap, by rw [run_snapshot, hsnap]⟩
  · intro snap hsnap
    refine ⟨?_, fun failure => (snapshot_records hsnap).1,
      fun failure => (snapshot_records hsnap).2⟩
    intro exchange hexchange breakdown hbroken
    exact (snapshot_records hsnap).1 (batteries_of_broken hexchange hbroken)

/-- A prepared host whose power profile breaks down and whose other probes give something. -/
def restlessHost : Prepared where
  clock := 0
  drift := 0
  files := Files.emptyDirectory
  texts :=
    [("report", [.ok (.ok " -InternalBattery-0 (id=1)\t77%; discharging")]),
     ("profile", [.error (.told "profile died")]), ("temp", [.ok (.ok "3050")])]
  supplies := []
  temperatures := [.ok (.ok [])]

/-- The breakdown of the power profile is recorded while the batteries are collected, and then
breaks the round down. -/
theorem snapshot_escapes_profile :
    let station := Prepared.station (Prepared.platform "scripted" true) 30000000000
    let session := Session.start restlessHost
    (batteries station session).1 = .error (.batteryCollection "profile died") ∧
      ¬∃ snap, (snapshot station ⟨0, 0⟩ session).1 = .ok snap := by
  intro station session
  have hbatteries : (batteries station session).1 = .error (.batteryCollection "profile died") := by
    rfl
  have hbroken : (snapshot station ⟨0, 0⟩ session).1.toOption = none := by decide +kernel
  refine ⟨hbatteries, ?_⟩
  rintro ⟨snap, hsnap⟩
  rw [hsnap] at hbroken
  cases hbroken

/-! ## One collector after another -/

/-- The tasks of a round. -/
def roundTasks : List Task := [.batteries, .sensors, .thermal]

theorem findings_roundTasks {station : Station σ} {session first second after : Session σ}
    {found : Answer (List Battery)} {read : Answer (List Reading)} {status : Thermal}
    (hfound : batteries station session = (found, first))
    (hread : sensors station first = (.ok read, second))
    (hstatus : thermal station second = (.ok status, after)) :
    findings station session roundTasks =
      ([.batteries found, .sensors (.ok read), .thermal (.ok status)], after) := by
  simp only [roundTasks, findings, Task.run, finding, hfound, hread, hstatus]

/-- The exchanges of a round that comes to a snapshot are those of its tasks in turn. -/
theorem transcript_roundTasks {station : Station σ} {time : Time.Instant}
    {session after : Session σ} {snap : Snapshot}
    (h : snapshot station time session = (.ok snap, after)) :
    transcript (fun session => findings station.watched session roundTasks) session =
      transcript (snapshot station.watched time) session := by
  -- on the watched host the round comes to the same snapshot, so its parts are the same tasks
  have hwatched := (watches_snapshot station time).run session
  rw [h] at hwatched
  obtain ⟨found, first, read, second, status, hfound, hread, hstatus, -⟩ := snapshot_parts hwatched
  exact transcript_eq (findings_roundTasks hfound hread hstatus)

/-- What is read are the readings of what the sensors gave. -/
theorem readings_of_sensors {station : Station σ} {session after : Session σ}
    {read : Answer (List Reading)} (h : sensors station session = (.ok read, after)) :
    ∃ answer : Answer (List RawTemperature), read = answer.map readings := by
  obtain ⟨answer, before, -, hlast⟩ := parts_of_bind_ok h
  cases hlast
  exact ⟨answer, rfl⟩

/-- Every reading is a temperature in degrees Celsius above zero and up to 150, with a label. -/
theorem sound_readings {temperatures : List RawTemperature} {r : Reading}
    (h : r ∈ readings temperatures) :
    r.value.isFinite = true ∧ Binary64.zero.lt r.value = true ∧ r.value.le (.ofInt 150) = true ∧
      r.unit = "°C" ∧ labelOfKey r.label = r.label := by
  have hplausible := readings_plausible h
  simp only [isPlausible, Bool.and_eq_true] at hplausible
  obtain ⟨⟨hfinite, hpositive⟩, hhottest⟩ := hplausible
  obtain ⟨hlabel, hunit⟩ := labelled_readings h
  exact ⟨hfinite, hpositive, hhottest, hunit, hlabel⟩

/-- An answer that is no empty list has an empty list exactly when it is a failure. -/
theorem listOf_eq_nil_iff {α : Type} {answer : Answer (List α)} (h : answer ≠ .ok []) :
    listOf answer = [] ↔ errorOf answer ≠ none := by
  cases answer with
  | error failure => simp [listOf, errorOf]
  | ok items =>
      have hne : items ≠ [] := by
        rintro rfl
        exact h rfl
      simpa [listOf, errorOf] using hne

/-- A round that comes to a snapshot is the three collectors one after another: the batteries, the
sensors, then fan and temperature come to what the snapshot holds, from the same session to the same
session and with the same exchanges.  There are no batteries in it exactly when their failure is,
there are no sensor readings when theirs is, and every reading is a plausible temperature with a
tidied label. -/
theorem snapshot_in_turn {station : Station σ} {time : Time.Instant} {session after : Session σ}
    {snap : Snapshot} (h : snapshot station time session = (.ok snap, after)) :
    ∃ found read status,
      findings station session [.batteries, .sensors, .thermal] =
        ([.batteries found, .sensors (.ok read), .thermal (.ok status)], after) ∧
      transcript (fun session => findings station.watched session [.batteries, .sensors, .thermal])
          session =
        transcript (snapshot station.watched time) session ∧
      snap = ⟨time, station.platform.name, listOf found, errorOf found, status, listOf read,
        errorOf read⟩ ∧
      (snap.batteries = [] ↔ snap.batteryError ≠ none) ∧
      (snap.sensorError ≠ none → snap.sensors = []) ∧
      ∀ r ∈ snap.sensors, r.value.isFinite = true ∧ Binary64.zero.lt r.value = true ∧
        r.value.le (.ofInt 150) = true ∧ r.unit = "°C" ∧ labelOfKey r.label = r.label := by
  obtain ⟨found, first, read, second, status, hfound, hread, hstatus, rfl⟩ := snapshot_parts h
  have hne : found ≠ .ok [] := by
    have hne := batteries_ne_nil station session
    rwa [hfound] at hne
  obtain ⟨answer, rfl⟩ := readings_of_sensors hread
  refine ⟨found, answer.map readings, status, findings_roundTasks hfound hread hstatus,
    transcript_roundTasks h, rfl, listOf_eq_nil_iff hne, ?_, ?_⟩
  · intro herror
    cases answer with
    | error failure => rfl
    | ok temperatures => exact absurd rfl herror
  · intro r hr
    cases answer with
    | error failure => cases hr
    | ok temperatures => exact sound_readings hr

/-- A prepared host that gives something at every probe, with a reading that is no temperature. -/
def busyHost : Prepared where
  clock := 0
  drift := 5
  files := Files.emptyDirectory
  texts :=
    [("report", [.ok (.error .noBatteryData)]), ("profile", [.ok (.ok "Fan Speed: 1200")]),
     ("temp", [.ok (.ok "3050")])]
  supplies := [.ok (.ok [])]
  temperatures := [.ok (.ok [⟨"TC_x_y ", .ofInt 30⟩, ⟨"off", .ofInt 0⟩])]

/-- A round without batteries and with one reading. -/
theorem snapshot_in_turn_busy :
    let station := Prepared.station (Prepared.platform "scripted" true) 30000000000
    let session := Session.start busyHost
    ∃ snap after, snapshot station ⟨0, 0⟩ session = (.ok snap, after) ∧
      snap.batteryError = some "no battery data found" ∧ snap.batteries = [] ∧
      snap.sensors.length = 1 ∧ ∀ r ∈ snap.sensors, labelOfKey r.label = r.label := by
  intro station session
  have hsnap : (snapshot station ⟨0, 0⟩ session).1.toOption.map
      (fun snap => (snap.batteryError, snap.sensors.length)) =
        some (some "no battery data found", 1) := by decide +kernel
  rcases hrun : snapshot station ⟨0, 0⟩ session with ⟨breakdown | snap, after⟩
  · rw [hrun] at hsnap
    cases hsnap
  · rw [hrun] at hsnap
    obtain ⟨herror, hlength⟩ := Prod.mk.inj (Option.some.inj hsnap)
    obtain ⟨_, _, _, -, -, -, hbatteries, -, hreadings⟩ := snapshot_in_turn hrun
    refine ⟨snap, after, rfl, herror, hbatteries.2 ?_, hlength, ?_⟩
    · rw [herror]
      exact Option.some_ne_none _
    · intro r hr
      exact (hreadings r hr).2.2.2.2

end HostVitals.Collect
