import HostVitals.Platform.Scripted
import HostVitals.Proofs.Rounds.Answers

/-!
# The commands of a round on a Mac

On a Mac almost every exchange is a command that is run.  Each exchange stands for the calls that
its probe records, so what a round runs is read off its transcript.

Main results:

- `records_snapshot`: the calls of a round are those that stand behind its exchanges.
- `snapshot_commands`: the commands of a round on a Mac, in their order and with their limits.
-/

namespace HostVitals

variable {σ α β : Type}

namespace Collect

/-! ## Calls behind exchanges -/

/-- Work on a host records the calls that stand behind the exchanges of the work on the watched
host. -/
structure Records (calls : Exchange → List Call)
    (work : Session (Watched σ) → α × Session (Watched σ))
    (plain : Session σ → α × Session σ) : Prop where
  watches : Watches work plain
  calls_eq : ∀ session, callsOf (plain session).2.events =
    callsOf session.events ++ (transcript work session).exchanges.flatMap calls

/-- The probes of a station record the calls that stand behind the exchanges with them, and looking
at the clock is no call. -/
structure RecordsAll (calls : Exchange → List Call) (station : Station σ) : Prop where
  clock : ∀ now, calls (.clock now) = []
  report : ∀ host, callsOf (station.platform.report host).events =
    calls (.report (station.platform.report host).outcome)
  profile : ∀ host, callsOf (station.platform.profile host).events =
    calls (.profile (station.platform.profile host).outcome)
  temperature : ∀ host, callsOf (station.platform.temperature host).events =
    calls (.temperature (station.platform.temperature host).outcome)
  thermalLevel : ∀ host, callsOf (station.platform.thermalLevel host).events =
    calls (.thermalLevel (station.platform.thermalLevel host).outcome)
  supplies : ∀ host, callsOf (station.platform.supplies host).events =
    calls (.supplies (station.platform.supplies host).outcome)
  sensors : ∀ host, callsOf (station.sensors host).events =
    calls (.sensors (station.sensors host).outcome)

/-- Notes are no calls. -/
@[simp] theorem callsOf_map_note (notes : List LogRecord) : callsOf (notes.map .note) = [] := by
  induction notes with
  | nil => rfl
  | cons first notes ih => exact ih

section

variable {calls : Exchange → List Call}

theorem Records.pure (a : α) :
    Records calls (pure a : Collect (Watched σ) α) (pure a : Collect σ α) where
  watches := (tells_pure a).watches
  calls_eq := by
    intro session
    simp [(tells_pure a).transcript session, Transcript.empty, run_pure]

theorem Records.note (level : Level) (message : String) :
    Records calls (note level message : Collect (Watched σ) Unit)
      (note level message : Collect σ Unit) where
  watches := (tells_note level message).watches
  calls_eq := by
    intro session
    simp [(tells_note level message).transcript session, run_note, callsOf]

theorem Records.ask {entry : Except Breakdown α → Exchange} {probe : Probe σ α}
    (hprobe : ∀ host, callsOf (probe host).events = calls (entry (probe host).outcome)) :
    Records calls (ask (Probe.watched entry probe)) (ask probe) where
  watches := (tells_ask entry probe).watches
  calls_eq := by
    intro session
    simp [(tells_ask entry probe).transcript session, run_ask, hprobe]

/-- Work that goes on records the calls of both parts. -/
theorem Records.bind {work : Collect (Watched σ) α} {plain : Collect σ α}
    {next : α → Collect (Watched σ) β} {plainNext : α → Collect σ β}
    (hwork : Records calls work plain) (hnext : ∀ a, Records calls (next a) (plainNext a)) :
    Records calls (work >>= next) (plain >>= plainNext) where
  watches := hwork.watches.bind (fun a => (hnext a).watches)
  calls_eq := by
    intro session
    have hfirst := hwork.calls_eq session
    rcases h : plain session with ⟨breakdown | a, after⟩
    · rw [h] at hfirst
      rw [run_bind_error h, hwork.watches.transcript_bind_error h, hfirst]
    · rw [h] at hfirst
      rw [run_bind_ok h, hwork.watches.transcript_bind_ok h (hnext a).watches,
        (hnext a).calls_eq after, hfirst, Transcript.exchanges_append, List.flatMap_append,
        List.append_assoc]

end

section

variable {calls : Exchange → List Call} {station : Station σ}

theorem records_powerText (h : RecordsAll calls station) :
    Records calls (powerText station.watched) (powerText station) where
  watches := (tells_powerText station).watches
  calls_eq := by
    intro session
    rw [(tells_powerText station).transcript session]
    have hlook := look_powerText station session
    generalize (powerText station session).1 = outcome at hlook
    generalize (powerText station session).2 = after at hlook ⊢
    generalize lookTold station session = told at hlook ⊢
    cases hlook with
    | missing => simp [Transcript.empty]
    | fresh => simp [h.clock]
    | stale _ _ hrun =>
        have hprofile := h.profile (station.clock session.host).2
        rw [hrun] at hprofile
        simp [h.clock, hprofile]

theorem records_noteIfNone (found : List Battery) :
    Records calls (noteIfNone found : Collect (Watched σ) _) (noteIfNone found : Collect σ _) := by
  unfold noteIfNone
  dsimp only
  split
  · exact (Records.note _ _).bind (fun _ => .pure _)
  · exact .pure _

theorem records_readReport (h : RecordsAll calls station) (report : String) :
    Records calls (readReport station.watched report) (readReport station report) :=
  ((records_powerText h).bind (fun _ => .pure _)).bind (fun _ => records_noteIfNone _)

theorem records_findBatteries (h : RecordsAll calls station) :
    Records calls (findBatteries station.watched) (findBatteries station) := by
  have hreported :
      Records calls (reportedBatteries station.watched) (reportedBatteries station) := by
    refine (Records.ask h.report).bind ?_
    intro answer
    cases answer with
    | ok report => exact records_readReport h report
    | error failure => exact (Records.note _ _).bind (fun _ => .pure _)
  refine hreported.bind ?_
  intro reported
  split
  · exact (Records.ask h.supplies).bind (fun _ => .pure _)
  · exact .pure _

/-- The guard around the batteries makes a note at most, and that is no call. -/
theorem records_batteries (h : RecordsAll calls station) :
    Records calls (batteries station.watched) (batteries station) where
  watches := (tells_batteries station).watches
  calls_eq := by
    intro session
    have hfind := (records_findBatteries h).calls_eq session
    rw [exchanges_batteries]
    rcases hfound : findBatteries station session with ⟨breakdown | found, after⟩
    · rw [hfound] at hfind
      rw [run_batteries_error hfound, callsOf_append, hfind]
      simp [callsOf]
    · rw [hfound] at hfind
      rw [run_batteries_ok hfound, hfind]

theorem records_ofSafely {work : Safely (Watched σ) α} {plain : Safely σ α}
    (hwork : Records calls work plain) : Records calls (ofSafely work) (ofSafely plain) where
  watches := (tells_ofSafely hwork.watches).watches
  calls_eq := by
    intro session
    rw [(tells_ofSafely hwork.watches).transcript session]
    exact hwork.calls_eq session

theorem records_askAndRead {entry : Except Breakdown (Answer String) → Exchange}
    {probe : Probe σ (Answer String)}
    (hprobe : ∀ host, callsOf (probe host).events = calls (entry (probe host).outcome))
    (complaint : String) (read : String → Option α) :
    Records calls (askAndRead (Probe.watched entry probe) complaint read)
      (askAndRead probe complaint read) := by
  refine (Records.ask hprobe).bind ?_
  intro answer
  cases answer with
  | ok text => exact .pure _
  | error failure => exact (Records.note _ _).bind (fun _ => .pure _)

theorem records_thermal (h : RecordsAll calls station) :
    Records calls (thermal station.watched) (thermal station) := by
  refine (records_powerText h).bind ?_
  intro profile
  refine (records_askAndRead h.temperature _ _).bind ?_
  intro measured
  split
  · exact .pure _
  · exact (records_askAndRead h.thermalLevel _ _).bind (fun _ => .pure _)

/-- The calls of a round are those that stand behind its exchanges. -/
theorem records_snapshot (h : RecordsAll calls station) (time : Time.Instant) :
    Records calls (snapshot station.watched time) (snapshot station time) := by
  refine (records_ofSafely (records_batteries h)).bind ?_
  intro batteries
  refine ((Records.ask h.sensors).bind (fun _ => .pure _)).bind ?_
  intro sensors
  exact (records_thermal h).bind (fun _ => .pure _)

end

/-! ## The calls of a Mac -/

/-- The probe, with one call recorded each time in place of what it records by itself. -/
def loggedAs (call : Call) (probe : Probe σ α) : Probe σ α := fun host =>
  { probe host with events := [.call call] }

/-- A station that watches a Mac, with a log of the commands that are run and of the sensors. -/
def loggedMac (runner : Platform.Runner σ) (sensors : Probe σ (Answer (List RawTemperature)))
    (clock : σ → Nat × σ) (timeToLive : Nat) (hasPmset : Bool) (config : Config) : Station σ where
  platform := Platform.mac (fun command => loggedAs (.command command) (runner command)) hasPmset
    config
  sensors := loggedAs (.capability .sensors) sensors
  clock
  timeToLive

/-- The calls behind an exchange with a Mac. -/
def macCalls (hasPmset : Bool) (config : Config) : Exchange → List Call
  | .clock _ | .supplies _ => []
  | .report _ => if hasPmset then [.command Platform.batteryCommand] else []
  | .profile _ => [.command (Platform.profileCommand config)]
  | .temperature _ => [.command (Platform.temperatureCommand config)]
  | .thermalLevel _ => [.command (Platform.levelCommand config)]
  | .sensors _ => [.capability .sensors]

section

variable (runner : Platform.Runner σ) (sensors : Probe σ (Answer (List RawTemperature)))
  (clock : σ → Nat × σ) (timeToLive : Nat) (hasPmset : Bool) (config : Config)

/-- On a Mac every probe but the list of power supplies is one call. -/
theorem recordsAll_mac : RecordsAll (macCalls hasPmset config)
    (loggedMac runner sensors clock timeToLive hasPmset config) where
  clock := fun _ => rfl
  report := by
    intro host
    cases hasPmset <;> rfl
  profile := fun _ => rfl
  temperature := fun _ => rfl
  thermalLevel := fun _ => rfl
  supplies := fun _ => rfl
  sensors := fun _ => rfl

/-- Only queries stand for calls. -/
theorem flatMap_filter_isQuery (exchanges : List Exchange) :
    (exchanges.filter isQuery).flatMap (macCalls hasPmset config) =
      exchanges.flatMap (macCalls hasPmset config) := by
  induction exchanges with
  | nil => rfl
  | cons exchange exchanges ih => cases exchange <;> simp [isQuery, macCalls, ih, List.filter_cons]

theorem flatMap_profilesOf (answers : List (Answer String)) :
    (profilesOf answers).flatMap (macCalls hasPmset config) =
      answers.map (fun _ => .command (Platform.profileCommand config)) := by
  induction answers with
  | nil => rfl
  | cons answer answers ih => exact congrArg _ ih

/-- The calls behind the answers of a round. -/
theorem calls_answers (answers : Answers) :
    answers.exchanges.flatMap (macCalls hasPmset config) =
      (if hasPmset then [.command Platform.batteryCommand] else []) ++
        answers.firstProfile.map (fun _ => .command (Platform.profileCommand config)) ++
        .capability .sensors ::
          answers.secondProfile.map (fun _ => .command (Platform.profileCommand config)) ++
        .command (Platform.temperatureCommand config) ::
          answers.levels.map (fun _ => .command (Platform.levelCommand config)) := by
  have hlevels : (answers.levels.map (fun level => Exchange.thermalLevel (.ok level))).flatMap
      (macCalls hasPmset config) =
        answers.levels.map (fun _ => .command (Platform.levelCommand config)) := by
    induction answers.levels with
    | nil => rfl
    | cons level levels ih => exact congrArg _ ih
  simp [Answers.exchanges, flatMap_profilesOf, hlevels, macCalls]

end

/-- The commands of a round on a Mac, for every runner, cache and configuration, when nothing breaks
down and the clock stands still.  In this order and with these limits there are: `pmset` when there
is one; `system_profiler` exactly when `pmset` gave a report and the cache has no fresh text; the
sensors; `system_profiler` exactly when the cache has none then; `sh`; and `sysctl` exactly when
`sh` gave no whole number above zero.  So `system_profiler` runs twice at most, and twice only when
its first answer was a failure or empty, or the time to live is zero.  When it does not run twice
and the report tells of a battery, condition and cycle count of all batteries and the fan speed
come from one text, which was kept before or was the first answer. -/
theorem snapshot_commands (runner : Platform.Runner σ)
    (sensors : Probe σ (Answer (List RawTemperature))) (clock : σ → Nat × σ) (timeToLive : Nat)
    (hasPmset : Bool) (config : Config) (time : Time.Instant) (session : Session σ) (now : Nat)
    (hsound : (transcript (snapshot
      (loggedMac runner sensors clock timeToLive hasPmset config).watched time) session).Sound)
    (hstill : ∀ reading ∈ readingsIn (transcript (snapshot
      (loggedMac runner sensors clock timeToLive hasPmset config).watched time) session).exchanges,
      reading = now) :
    let station := loggedMac runner sensors clock timeToLive hasPmset config
    let kept := (batteries station session).2.cache
    let profileCall := Call.command
      ⟨"system_profiler", ["SPPowerDataType"], some config.slowMillis⟩
    ∃ (answers : Answers) (snap : Snapshot), (snapshot station time session).1 = .ok snap ∧
      (transcript (snapshot station.watched time) session).exchanges.filter isQuery =
        answers.exchanges ∧
      callsOf (snapshot station time session).2.events = callsOf session.events ++
        ((if hasPmset then [.command ⟨"pmset", ["-g", "batt"], none⟩] else []) ++
          answers.firstProfile.map (fun _ => profileCall) ++
          .capability .sensors :: answers.secondProfile.map (fun _ => profileCall) ++
          .command ⟨"sh", ["-c", Platform.temperatureScript], some config.fastMillis⟩ ::
            answers.levels.map (fun _ => .command
              ⟨"sysctl", ["-n", "machdep.xcpm.cpu_thermal_level"], some config.fastMillis⟩)) ∧
      (hasPmset = false → answers.report = .error (.unsupported "pmset not found")) ∧
      answers.firstProfile.length ≤ 1 ∧ answers.secondProfile.length ≤ 1 ∧
      answers.levels.length ≤ 1 ∧
      (answers.firstProfile ≠ [] ↔ (∃ text, answers.report = .ok text) ∧
        session.cache.isFresh timeToLive now = false) ∧
      (answers.secondProfile ≠ [] ↔ kept.isFresh timeToLive now = false) ∧
      (answers.levels ≠ [] ↔ ¬∃ n, Reads answers.temperature n ∧ 0 < n) ∧
      (answers.firstProfile ≠ [] → answers.secondProfile ≠ [] → timeToLive = 0 ∨
        ∀ first ∈ answers.firstProfile, first = .ok "" ∨ ∃ failure, first = .error failure) ∧
      ((answers.firstProfile = [] ∨ answers.secondProfile = []) →
        ∀ text, answers.report = .ok text → TellsOfBattery text →
          ∃ profile : Kept,
            (session.cache = some profile ∨ .ok profile.text ∈ answers.firstProfile) ∧
            snap.batteries ≠ [] ∧
            (∀ battery ∈ snap.batteries,
              battery.health = (Report.powerData profile.text).health ∧
              battery.cycleCount = (Report.powerData profile.text).cycles) ∧
            snap.thermal.fanSpeed = (Report.fanSpeed profile.text).getD 0) := by
  intro station kept profileCall
  obtain ⟨answers, snap, hsnap, hquery, hreport, hfollows⟩ := follows_snapshot rfl hsound hstill
  have hcalls := (records_snapshot (recordsAll_mac runner sensors clock timeToLive hasPmset config)
    time).calls_eq session
  rw [← flatMap_filter_isQuery, hquery, calls_answers] at hcalls
  refine ⟨answers, snap, hsnap, hquery, hcalls, ?_, hfollows.length_firstProfile,
    hfollows.length_secondProfile, hfollows.length_levels, hfollows.firstProfile_iff,
    hfollows.secondProfile_iff, hfollows.levels_iff, hfollows.twice, ?_⟩
  · rintro rfl
    exact (Except.ok.inj hreport).symm
  · intro honce text htext htells
    obtain ⟨profile, horigin, hbatteries, hfan⟩ := hfollows.shared honce htext htells
    refine ⟨profile, horigin, ?_, ?_, hfan⟩
    · rw [hbatteries, Ne, batteries_eq_nil_iff, not_not]
      exact htells
    · intro battery hbattery
      rw [hbatteries] at hbattery
      exact (Report.batteries_shared hbattery).2

/-- A prepared Mac that stands still.  Its power profile fails at first, and there is no temperature
next to the battery. -/
def slowMac : Prepared where
  clock := 100
  drift := 0
  files := Files.emptyDirectory
  texts :=
    [("pmset", [.ok (.ok " -InternalBattery-0 (id=1)\t77%; discharging")]),
     ("system_profiler", [.ok (.error (.commandFailed "system_profiler" "busy")),
       .ok (.ok "Condition: Normal\nFan Speed: 1200")]),
     ("sh", [.ok (.ok "0")]), ("sysctl", [.ok (.ok "7")])]
  supplies := []
  temperatures := [.ok (.ok [])]

/-- A prepared Mac that gives its power profile at once. -/
def quickMac : Prepared :=
  { slowMac with
    texts :=
      [("pmset", [.ok (.ok " -InternalBattery-0 (id=1)\t77%; discharging")]),
       ("system_profiler", [.ok (.ok "Cycle Count: 312\nCondition: Normal\nFan Speed: 1200")]),
       ("sh", [.ok (.ok "3100")])] }

/-- The text that was given in an exchange. -/
def textIn : Exchange → Option String
  | .report (.ok answer) | .profile (.ok answer) | .temperature (.ok answer)
  | .thermalLevel (.ok answer) => answer.toOption
  | _ => none

theorem eq_ok_of_toOption {answer : Answer String} {text : String}
    (h : answer.toOption = some text) : answer = .ok text := by
  cases answer with
  | error failure => cases h
  | ok given => rw [Option.some.inj h]

/-- The first text of a round is the report. -/
theorem report_of_texts {answers : Answers} {report : String} {rest : List (Option String)}
    (h : answers.exchanges.map textIn = some report :: rest) : answers.report = .ok report :=
  eq_ok_of_toOption (List.cons.inj h).1

/-- The second one is the power profile, if that is asked for once at first. -/
theorem firstProfile_of_texts {answers : Answers} {profile : String} {first : Option String}
    {rest : List (Option String)} (hasked : answers.firstProfile ≠ [])
    (hlength : answers.firstProfile.length ≤ 1)
    (h : answers.exchanges.map textIn = first :: some profile :: rest) :
    answers.firstProfile = [.ok profile] := by
  obtain ⟨answer, hanswer⟩ : ∃ answer, answers.firstProfile = [answer] :=
    List.length_eq_one_iff.1 (Nat.le_antisymm hlength (List.length_pos_iff.2 hasked))
  simp only [Answers.exchanges, hanswer, profilesOf, List.map_cons, List.cons_append, textIn,
    List.cons.injEq] at h
  rw [hanswer, eq_ok_of_toOption h.2.1]

/-- On the slow Mac `system_profiler` runs twice, since its first answer was a failure.  On the
quick one it runs once, and condition, cycle count and fan speed come from its one text. -/
theorem snapshot_commands_slow_quick :
    let station := loggedMac Prepared.runner Prepared.sensorsProbe Prepared.readClock
      30000000000 true Config.standard
    let slow := Session.start slowMac
    let quick := Session.start quickMac
    let round := fun session => transcript (snapshot station.watched ⟨0, 0⟩) session
    (∀ session ∈ [slow, quick], (round session).Sound ∧
      ∀ reading ∈ readingsIn (round session).exchanges, reading = 100) ∧
      (∃ answers : Answers, (round slow).exchanges.filter isQuery = answers.exchanges ∧
        answers.secondProfile ≠ [] ∧ answers.firstProfile ≠ [] ∧
        ∀ first ∈ answers.firstProfile, first = .ok "" ∨ ∃ failure, first = .error failure) ∧
      ∃ (answers : Answers) (snap : Snapshot),
        (round quick).exchanges.filter isQuery = answers.exchanges ∧
        answers.firstProfile.length = 1 ∧ answers.secondProfile = [] ∧
        (snapshot station ⟨0, 0⟩ quick).1 = .ok snap ∧ snap.batteries ≠ [] ∧
        (∀ battery ∈ snap.batteries, battery.health = some "Normal" ∧ battery.cycleCount = 312) ∧
        snap.thermal.fanSpeed = 1200 := by
  intro station slow quick round
  have hcalm : ∀ session ∈ [slow, quick], (round session).Sound ∧
      ∀ reading ∈ readingsIn (round session).exchanges, reading = 100 := by
    simp only [List.forall_mem_cons]
    exact ⟨by decide +kernel, by decide +kernel, by simp⟩
  refine ⟨hcalm, ?slow, ?quick⟩
  case slow =>
    obtain ⟨hsound, hstill⟩ := hcalm slow (by simp)
    obtain ⟨answers, snap, -, hquery, hcalls, -, -, -, -, -, hsecond, -, htwice, -⟩ :=
      snapshot_commands Prepared.runner Prepared.sensorsProbe Prepared.readClock 30000000000 true
        Config.standard ⟨0, 0⟩ slow 100 hsound hstill
    have hstale : (batteries station slow).2.cache.isFresh 30000000000 100 = false := by
      decide +kernel
    have hprofile : (callsOf (snapshot station ⟨0, 0⟩ slow).2.events)[1]? =
        some (.command (Platform.profileCommand .standard)) := by
      decide +kernel
    have hfirst : answers.firstProfile ≠ [] := by
      intro hnone
      rw [hcalls, hnone] at hprofile
      cases hprofile
    exact ⟨answers, hquery, hsecond.2 hstale, hfirst,
      (htwice hfirst (hsecond.2 hstale)).resolve_left (by decide)⟩
  case quick =>
    obtain ⟨hsound, hstill⟩ := hcalm quick (by simp)
    obtain ⟨answers, snap, hsnap, hquery, -, -, hlength, -, -, hfirst, hsecond, -, -, hshared⟩ :=
      snapshot_commands Prepared.runner Prepared.sensorsProbe Prepared.readClock 30000000000 true
        Config.standard ⟨0, 0⟩ quick 100 hsound hstill
    have hfresh : (batteries station quick).2.cache.isFresh 30000000000 100 = true := by
      decide +kernel
    have honce : answers.secondProfile = [] := Classical.byContradiction fun hagain =>
      Bool.false_ne_true ((hsecond.1 hagain).symm.trans hfresh)
    have htexts : answers.exchanges.map textIn =
        [some " -InternalBattery-0 (id=1)\t77%; discharging",
          some "Cycle Count: 312\nCondition: Normal\nFan Speed: 1200", none, some "3100"] := by
      rw [← hquery]
      decide +kernel
    have hreport := report_of_texts htexts
    have hgiven := firstProfile_of_texts (hfirst.2 ⟨⟨_, hreport⟩, rfl⟩) hlength htexts
    obtain ⟨profile, horigin, hbatteries, hshown, hfan⟩ :=
      hshared (.inr honce) _ hreport ⟨_, List.mem_cons_self, by decide +kernel⟩
    have htext : profile.text = "Cycle Count: 312\nCondition: Normal\nFan Speed: 1200" := by
      rw [hgiven, List.mem_singleton] at horigin
      exact Except.ok.inj (horigin.resolve_left (by simp [quick, Session.start]))
    rw [htext] at hshown hfan
    refine ⟨answers, snap, hquery, by rw [hgiven]; rfl, honce, hsnap, hbatteries, ?_, ?_⟩
    · intro battery hbattery
      obtain ⟨hhealth, hcycles⟩ := hshown battery hbattery
      rw [hhealth, hcycles]
      decide +kernel
    · rw [hfan]
      decide +kernel

end Collect

end HostVitals
