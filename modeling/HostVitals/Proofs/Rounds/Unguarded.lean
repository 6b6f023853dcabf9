import HostVitals.Collect.Snapshot
import HostVitals.Proofs.Rounds.Transcript

/-!
# The collectors on a watched host

Every collector is made of looks at the power profile, of questions to probes and of notes, so its
transcript is put together from theirs.  Only the batteries are collected behind a guard: all other
collectors break down with the probes that they ask.

Main results:

- `look_powerText`: the ways a look at the power profile goes.
- `unguarded_findBatteries`, `unguarded_thermal`, `unguarded_sensors`: these break down exactly
  when a probe does that they ask.
- `tells_batteries`: behind the guard a breakdown becomes a note.
- `watches_snapshot`: a round of all collectors comes to the same on the watched host.
-/

namespace HostVitals

/-- Whether an exchange is part of a look at the power profile. -/
def Exchange.isLook : Exchange → Bool
  | .clock _ => true
  | .profile _ => true
  | _ => false

/-- Whether an exchange is part of collecting fan and temperature. -/
def Exchange.isThermal : Exchange → Bool
  | .temperature _ => true
  | .thermalLevel _ => true
  | exchange => exchange.isLook

/-- Taking in an answer notes nothing but details for those who look for a fault. -/
theorem Cache.level_of_refresh {now : Nat} {cache : Cache} {record : LogRecord}
    {answer : Except Breakdown (Answer String)} (h : record ∈ (cache.refresh now answer).notes) :
    record.level = .debug := by
  rcases answer with breakdown | failure | text
  · simp [refresh] at h
  · simp only [refresh, List.mem_singleton] at h
    rw [h]
  · by_cases hempty : text.isEmpty
    · simp only [refresh, hempty, if_true, List.mem_singleton] at h
      rw [h]
    · simp [refresh, hempty] at h

namespace Collect

open HostVitals.Number

variable {σ α β : Type}

section

variable (station : Station σ)

/-! ## A look at the power profile -/

/-- What a look at the power profile exchanges and notes. -/
def lookTold (session : Session σ) : Transcript :=
  let (now, host) := station.clock session.host
  if station.platform.hasProfile = false then .empty
  else if session.cache.isFresh station.timeToLive now then ⟨[.clock now], []⟩
  else
    let outcome := (station.platform.profile host).outcome
    ⟨[.clock now, .profile outcome], (session.cache.refresh now outcome).notes⟩

/-- Getting the text of the power profile is watched. -/
theorem tells_powerText :
    Tells (powerText station.watched) (powerText station) (lookTold station) := by
  intro session before
  cases hprofile : station.platform.hasProfile with
  | false =>
      rw [run_powerText_missing hprofile,
        @run_powerText_missing _ station.watched hprofile (session.watched before)]
      simp [lookTold, hprofile]
  | true =>
      cases hfresh : session.cache.isFresh station.timeToLive (station.clock session.host).1 with
      | true =>
          rw [run_powerText_fresh hprofile hfresh,
            @run_powerText_fresh _ station.watched (session.watched before) hprofile hfresh]
          simp [lookTold, hprofile, hfresh, Session.watched, Station.watched]
      | false =>
          rw [run_powerText_stale hprofile hfresh,
            @run_powerText_stale _ station.watched (session.watched before) hprofile hfresh]
          simp [lookTold, hprofile, hfresh, Session.watched, Station.watched, Probe.watched]

/-- The ways a look at the power profile goes: what it comes to, the session it leaves, and what it
exchanges and notes. -/
inductive Look (station : Station σ) (session : Session σ) :
    Except Breakdown String → Session σ → Transcript → Prop
  | missing (hprofile : station.platform.hasProfile = false) :
      Look station session (.ok "") session .empty
  | fresh (hprofile : station.platform.hasProfile = true)
      (hfresh : session.cache.isFresh station.timeToLive (station.clock session.host).1 = true) :
      Look station session (.ok session.cache.text)
        { session with host := (station.clock session.host).2 }
        ⟨[.clock (station.clock session.host).1], []⟩
  | stale {run : Run σ (Answer String)} {access : Cache.Access}
      (hprofile : station.platform.hasProfile = true)
      (hstale : session.cache.isFresh station.timeToLive (station.clock session.host).1 = false)
      (hrun : station.platform.profile (station.clock session.host).2 = run)
      (haccess : session.cache.refresh (station.clock session.host).1 run.outcome = access) :
      Look station session access.outcome
        ⟨run.host, access.cache, session.events ++ run.events ++ access.notes.map .note⟩
        ⟨[.clock (station.clock session.host).1, .profile run.outcome], access.notes⟩

/-- Getting the text of the power profile goes in one of these ways. -/
theorem look_powerText (session : Session σ) :
    Look station session (powerText station session).1 (powerText station session).2
      (lookTold station session) := by
  cases hprofile : station.platform.hasProfile with
  | false =>
      have htold : lookTold station session = .empty := by simp [lookTold, hprofile]
      rw [run_powerText_missing hprofile, htold]
      exact .missing hprofile
  | true =>
      cases hfresh : session.cache.isFresh station.timeToLive (station.clock session.host).1 with
      | true =>
          have htold : lookTold station session =
              ⟨[.clock (station.clock session.host).1], []⟩ := by
            simp [lookTold, hprofile, hfresh]
          rw [run_powerText_fresh hprofile hfresh, htold]
          exact .fresh hprofile hfresh
      | false =>
          rw [run_powerText_stale hprofile hfresh]
          have htold : lookTold station session = ⟨[.clock (station.clock session.host).1,
              .profile (station.platform.profile (station.clock session.host).2).outcome],
              (session.cache.refresh (station.clock session.host).1
                (station.platform.profile (station.clock session.host).2).outcome).notes⟩ := by
            simp [lookTold, hprofile, hfresh]
          rw [htold]
          exact .stale hprofile hfresh rfl rfl

section

variable {station} {session after : Session σ} {outcome : Except Breakdown String}
  {told : Transcript}

/-- A look reads the clock and asks for the profile, and nothing else. -/
theorem Look.isLook (h : Look station session outcome after told) :
    ∀ exchange ∈ told.exchanges, exchange.isLook = true := by
  cases h with
  | missing => simp [Transcript.empty]
  | fresh => simp [Exchange.isLook]
  | stale => simp [Exchange.isLook]

/-- A look notes nothing but details for those who look for a fault. -/
theorem Look.level (h : Look station session outcome after told) :
    ∀ record ∈ told.notes, record.level = .debug := by
  cases h with
  | missing => simp [Transcript.empty]
  | fresh => simp
  | stale _ _ _ haccess =>
      intro record hrecord
      rw [← haccess] at hrecord
      exact Cache.level_of_refresh hrecord

/-- A look breaks down exactly when the profile is asked for and that breaks down. -/
theorem Look.broken_iff (h : Look station session outcome after told) {breakdown : Breakdown} :
    outcome = .error breakdown ↔
      ∃ exchange ∈ told.exchanges, exchange.breakdown = some breakdown := by
  cases h with
  | missing => simp [Transcript.empty]
  | fresh => simp [Exchange.breakdown]
  | @stale run _ _ _ _ haccess =>
      rw [← haccess, Cache.refresh_outcome]
      cases run.outcome <;> simp [Except.map, Exchange.breakdown]

/-- A look that breaks down leaves the cache as it was. -/
theorem Look.cache_of_broken (h : Look station session outcome after told) {breakdown : Breakdown}
    (hbroken : outcome = .error breakdown) : after.cache = session.cache := by
  cases h with
  | missing => cases hbroken
  | fresh => cases hbroken
  | @stale run _ _ _ _ haccess =>
      subst haccess
      cases hanswer : run.outcome with
      | error broken => rfl
      | ok answer =>
          rw [hanswer, Cache.refresh_outcome] at hbroken
          cases hbroken

end

theorem unguarded_powerText : Unguarded (powerText station.watched) (powerText station) where
  watches := (tells_powerText station).watches
  broken_iff := by
    intro session breakdown
    rw [(tells_powerText station).transcript session]
    exact (look_powerText station session).broken_iff
  level := by
    intro session
    rw [(tells_powerText station).transcript session]
    exact (look_powerText station session).level

/-! ## The collectors -/

theorem unguarded_powerData : Unguarded (powerData station.watched) (powerData station) :=
  (unguarded_powerText station).bind (fun _ => .pure _)

/-- The batteries that were found in a report, with a note when there are none. -/
def noteIfNone (found : List Battery) : Collect σ (List Battery) := do
  if found.isEmpty then note .debug "Fast battery report had no battery lines"
  return found

/-- What comes of a report once it was given. -/
def readReport (station : Station σ) (report : String) : Collect σ (List Battery) := do
  noteIfNone (Report.batteries report (← powerData station))

theorem unguarded_noteIfNone (found : List Battery) :
    Unguarded (noteIfNone found : Collect (Watched σ) _) (noteIfNone found : Collect σ _) := by
  unfold noteIfNone
  dsimp only
  split
  · exact (Unguarded.note _).bind (fun _ => .pure _)
  · exact .pure _

theorem silent_noteIfNone (found : List Battery) :
    Silent (noteIfNone found : Collect (Watched σ) _) (noteIfNone found : Collect σ _) := by
  unfold noteIfNone
  dsimp only
  split
  · exact (Silent.note _ _).bind (fun _ => .pure _)
  · exact .pure _

theorem unguarded_readReport (report : String) :
    Unguarded (readReport station.watched report) (readReport station report) :=
  (unguarded_powerData station).bind (fun _ => unguarded_noteIfNone _)

theorem unguarded_reportedBatteries :
    Unguarded (reportedBatteries station.watched) (reportedBatteries station) := by
  refine (Unguarded.ask (fun _ => rfl) station.platform.report).bind ?_
  intro answer
  cases answer with
  | ok report => exact unguarded_readReport station report
  | error failure => exact (Unguarded.note _).bind (fun _ => .pure _)

theorem unguarded_suppliedBatteries :
    Unguarded (suppliedBatteries station.watched) (suppliedBatteries station) :=
  (Unguarded.ask (fun _ => rfl) station.platform.supplies).bind (fun _ => .pure _)

theorem unguarded_findBatteries :
    Unguarded (findBatteries station.watched) (findBatteries station) := by
  refine (unguarded_reportedBatteries station).bind ?_
  intro reported
  split
  · exact unguarded_suppliedBatteries station
  · exact .pure _

/-- What collecting the batteries exchanges and notes: besides what looking for them does, it notes
a breakdown. -/
def batteriesTold (session : Session σ) : Transcript :=
  transcript (findBatteries station.watched) session ++
    match (findBatteries station session).1 with
    | .ok _ => .empty
    | .error breakdown => ⟨[], [⟨.warn, "Battery probe panicked: " ++ breakdown.reason⟩]⟩

theorem tells_batteries :
    Tells (batteries station.watched) (batteries station) (batteriesTold station) := by
  intro session before
  have hwatched := (unguarded_findBatteries station).watches session before
  rcases hfound : findBatteries station session with ⟨breakdown | found, after⟩
  · rw [hfound] at hwatched
    rw [run_batteries_error hfound, run_batteries_error hwatched]
    simp [batteriesTold, hfound, Session.watched]
  · rw [hfound] at hwatched
    rw [run_batteries_ok hfound, run_batteries_ok hwatched]
    simp [batteriesTold, hfound]

/-- Reads something out of a text.  A failure is noted. -/
def readOrNote (complaint : String) (read : String → Option α) :
    Answer String → Collect σ (Option α)
  | .ok text => return read text
  | .error failure => do
    note .debug (complaint ++ failure.message)
    return none

/-- Asks for a text and reads something out of it. -/
def askAndRead (probe : Probe σ (Answer String)) (complaint : String) (read : String → Option α) :
    Collect σ (Option α) :=
  ask probe >>= readOrNote complaint read

theorem unguarded_readOrNote (complaint : String) (read : String → Option α)
    (answer : Answer String) :
    Unguarded (readOrNote complaint read answer : Collect (Watched σ) _)
      (readOrNote complaint read answer : Collect σ _) := by
  cases answer with
  | ok text => exact .pure _
  | error failure => exact (Unguarded.note _).bind (fun _ => .pure _)

theorem silent_readOrNote (complaint : String) (read : String → Option α)
    (answer : Answer String) :
    Silent (readOrNote complaint read answer : Collect (Watched σ) _)
      (readOrNote complaint read answer : Collect σ _) := by
  cases answer with
  | ok text => exact .pure _
  | error failure => exact silent_note_pure _ _ _

theorem unguarded_askAndRead {entry : Except Breakdown (Answer String) → Exchange}
    (hentry : ∀ outcome, (entry outcome).breakdown = breakdownOf outcome)
    (probe : Probe σ (Answer String)) (complaint : String) (read : String → Option α) :
    Unguarded (askAndRead (Probe.watched entry probe) complaint read)
      (askAndRead probe complaint read) :=
  (Unguarded.ask hentry probe).bind (unguarded_readOrNote complaint read)

theorem unguarded_measuredTemperature :
    Unguarded (measuredTemperature station.watched) (measuredTemperature station) :=
  unguarded_askAndRead (fun _ => rfl) station.platform.temperature _ _

theorem unguarded_estimatedTemperature :
    Unguarded (estimatedTemperature station.watched) (estimatedTemperature station) :=
  unguarded_askAndRead (fun _ => rfl) station.platform.thermalLevel _ _

/-- Falls back on an estimate when there is no measured temperature. -/
def fallBack (station : Station σ) (fanSpeed : UInt32) (measured : Option Binary64) :
    Collect σ Thermal := do
  if measured.isSome then return thermalStatus fanSpeed measured none
  return thermalStatus fanSpeed none (← estimatedTemperature station)

/-- Gets a temperature once the fan speed is known. -/
def warm (station : Station σ) (fanSpeed : UInt32) : Collect σ Thermal :=
  measuredTemperature station >>= fallBack station fanSpeed

theorem unguarded_fallBack (fanSpeed : UInt32) (measured : Option Binary64) :
    Unguarded (fallBack station.watched fanSpeed measured)
      (fallBack station fanSpeed measured) := by
  unfold fallBack
  split
  · exact .pure _
  · exact (unguarded_estimatedTemperature station).bind (fun _ => .pure _)

theorem unguarded_warm (fanSpeed : UInt32) :
    Unguarded (warm station.watched fanSpeed) (warm station fanSpeed) :=
  (unguarded_measuredTemperature station).bind (unguarded_fallBack station fanSpeed)

theorem unguarded_thermal : Unguarded (thermal station.watched) (thermal station) :=
  (unguarded_powerText station).bind (fun _ => unguarded_warm station _)

theorem unguarded_sensors : Unguarded (sensors station.watched) (sensors station) :=
  (Unguarded.ask (fun _ => rfl) station.sensors).bind (fun _ => .pure _)

/-! ## What is exchanged -/

theorem exchanges_powerText (session : Session σ) :
    (transcript (powerText station.watched) session).exchanges =
      (lookTold station session).exchanges := by
  rw [(tells_powerText station).transcript session]

theorem exchanges_powerData (session : Session σ) :
    (transcript (powerData station.watched) session).exchanges =
      (lookTold station session).exchanges :=
  ((unguarded_powerText station).watches.exchanges_bind_silent (fun _ => .pure _) session).trans
    (exchanges_powerText station session)

theorem exchanges_readReport (report : String) (session : Session σ) :
    (transcript (readReport station.watched report) session).exchanges =
      (lookTold station session).exchanges :=
  ((unguarded_powerData station).watches.exchanges_bind_silent (fun _ => silent_noteIfNone _)
    session).trans (exchanges_powerData station session)

theorem exchanges_askAndRead (entry : Except Breakdown (Answer String) → Exchange)
    (probe : Probe σ (Answer String)) (complaint : String) (read : String → Option α)
    (session : Session σ) :
    (transcript (askAndRead (Probe.watched entry probe) complaint read) session).exchanges =
      [entry (probe session.host).outcome] :=
  exchanges_ask_silent (silent_readOrNote complaint read) session

theorem exchanges_measuredTemperature (session : Session σ) :
    (transcript (measuredTemperature station.watched) session).exchanges =
      [.temperature (station.platform.temperature session.host).outcome] :=
  exchanges_askAndRead .temperature _ _ _ session

theorem exchanges_estimatedTemperature (session : Session σ) :
    (transcript (estimatedTemperature station.watched) session).exchanges =
      [.thermalLevel (station.platform.thermalLevel session.host).outcome] :=
  exchanges_askAndRead .thermalLevel _ _ _ session

theorem exchanges_fallBack_none (fanSpeed : UInt32) (session : Session σ) :
    (transcript (fallBack station.watched fanSpeed none) session).exchanges =
      (transcript (estimatedTemperature station.watched) session).exchanges :=
  (unguarded_estimatedTemperature station).watches.exchanges_bind_silent (fun _ => .pure _) session

theorem isThermal_fallBack (fanSpeed : UInt32) (measured : Option Binary64) (session : Session σ) :
    ∀ exchange ∈ (transcript (fallBack station.watched fanSpeed measured) session).exchanges,
      exchange.isThermal = true := by
  cases measured with
  | some degrees =>
      have htold : transcript (fallBack station.watched fanSpeed (some degrees)) session = .empty :=
        (tells_pure _).transcript session
      simp [htold, Transcript.empty]
  | none =>
      rw [exchanges_fallBack_none, exchanges_estimatedTemperature]
      simp [Exchange.isThermal]

/-- Fan and temperature are collected with a look at the power profile and with the two probes for
the temperature. -/
theorem isThermal_thermal (session : Session σ) :
    ∀ exchange ∈ (transcript (thermal station.watched) session).exchanges,
      exchange.isThermal = true := by
  refine (unguarded_powerText station).watches.forall_exchanges_bind
    (fun _ => (unguarded_warm station _).watches) ?_ (fun profile => ?_) session
  · intro session exchange hexchange
    rw [exchanges_powerText] at hexchange
    have hlook := (look_powerText station session).isLook exchange hexchange
    cases exchange <;> first | rfl | cases hlook
  · refine (unguarded_measuredTemperature station).watches.forall_exchanges_bind
      (fun _ => (unguarded_fallBack station _ _).watches) ?_ (isThermal_fallBack station _)
    intro session exchange hexchange
    rw [exchanges_measuredTemperature, List.mem_singleton] at hexchange
    rw [hexchange]
    rfl

theorem exchanges_suppliedBatteries (session : Session σ) :
    (transcript (suppliedBatteries station.watched) session).exchanges =
      [.supplies (station.platform.supplies session.host).outcome] :=
  exchanges_ask_silent (fun _ => .pure _) session

/-- Work that does not break down tells the same when it is part of work that may. -/
theorem tells_ofSafely {work : Safely (Watched σ) α} {plain : Safely σ α}
    {told : Session σ → Transcript} (hwork : Tells work plain told) :
    Tells (ofSafely work) (ofSafely plain) told := by
  intro session before
  simp only [ofSafely, hwork session before]
  rfl

theorem watches_snapshot (time : Time.Instant) :
    Watches (snapshot station.watched time) (snapshot station time) := by
  refine (tells_ofSafely (tells_batteries station)).watches.bind ?_
  intro batteries
  refine (unguarded_sensors station).watches.bind ?_
  intro sensors
  exact (unguarded_thermal station).watches.bind (fun _ => (tells_pure _).watches)

end

end Collect

end HostVitals
