import HostVitals.Collect.Profile
import HostVitals.Report.FastBattery

/-!
# Collecting the batteries

The fast report is tried first, and the list of power supplies when the report fails or has no
battery in it.  Having no battery at all is a failure of its own.  A probe that breaks down is
caught here, so that collecting the batteries always comes to an end.

Main results:

- `run_batteries_ok`, `run_batteries_error`: batteries that were found are given, and a breakdown
  is noted.
- `batteries_ne_nil`: an empty list is never given.
-/

namespace HostVitals.Collect

variable {σ : Type}

/-- The batteries of the fast report, empty when it is of no use. -/
def reportedBatteries (station : Station σ) : Collect σ (List Battery) := do
  match ← ask station.platform.report with
  | .ok report =>
    let found := Report.batteries report (← powerData station)
    if found.isEmpty then note .debug "Fast battery report had no battery lines"
    return found
  | .error failure =>
    note .debug ("Fast battery report unavailable: " ++ failure.message)
    return []

/-- The batteries among the power supplies. -/
def suppliedBatteries (station : Station σ) : Collect σ (List Battery) := do
  return (← ask station.platform.supplies).map Report.Supply.toBattery

/-- The batteries of the report, or else of the power supplies. -/
def findBatteries (station : Station σ) : Collect σ (List Battery) := do
  let reported ← reportedBatteries station
  if reported.isEmpty then suppliedBatteries station else return reported

/-- What is given to those who asked for batteries. -/
def batteryAnswer (found : List Battery) : Answer (List Battery) :=
  if found.isEmpty then .error .noBatteryData else .ok found

/-- The batteries of the host. -/
def batteries (station : Station σ) : Safely σ (Answer (List Battery)) := fun session =>
  match findBatteries station session with
  | (.ok found, session) => (batteryAnswer found, session)
  | (.error breakdown, session) =>
    let note : LogRecord := ⟨.warn, "Battery probe panicked: " ++ breakdown.reason⟩
    (.error (.batteryCollection breakdown.reason),
      { session with events := session.events ++ [.note note] })

/-- Batteries that were looked for are answered. -/
theorem run_batteries_ok {station : Station σ} {session after : Session σ} {found : List Battery}
    (h : findBatteries station session = (.ok found, after)) :
    batteries station session = (batteryAnswer found, after) := by
  simp only [batteries, h]

/-- A breakdown while looking for batteries is noted, and is the answer. -/
theorem run_batteries_error {station : Station σ} {session after : Session σ}
    {breakdown : Breakdown} (h : findBatteries station session = (.error breakdown, after)) :
    batteries station session =
      (.error (.batteryCollection breakdown.reason),
        { after with
          events := after.events ++
            [.note ⟨.warn, "Battery probe panicked: " ++ breakdown.reason⟩] }) := by
  simp only [batteries, h]

/-- The answer is never an empty list. -/
theorem batteryAnswer_ne_nil (found : List Battery) : batteryAnswer found ≠ .ok [] := by
  unfold batteryAnswer
  split
  · simp
  · next h =>
    intro heq
    simp only [Except.ok.injEq] at heq
    simp [heq] at h

/-- Collecting batteries never gives an empty list. -/
theorem batteries_ne_nil (station : Station σ) (session : Session σ) :
    (batteries station session).1 ≠ .ok [] := by
  unfold batteries
  split
  · exact batteryAnswer_ne_nil _
  · simp

end HostVitals.Collect
