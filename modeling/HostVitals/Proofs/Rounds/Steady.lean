import HostVitals.Collect.Snapshot
import HostVitals.Platform.Scripted

/-!
# Work on a steady host

On a steady host every probe does the same whenever it is run, and the clock stands still.  The
only thing there that work may find changed is what is kept of the power profile, and one look
through the cache changes it for good.  So there are two caches to tell apart: the one at the start
and the one after a look; and work comes to the same with both of them.

Main results:

- `access_settled`: a second look through the cache finds and leaves what the first one did.
- `Settled.bind`: work made of settled work is settled.
- `settled_powerText`, `settled_batteries`, `settled_thermal`, `settled_sensors`: all collectors
  are settled.
- `prepared_steady`: a prepared host with one reply for each probe is steady.
-/

namespace HostVitals.Collect

open HostVitals.Cache

variable {σ α β : Type}

/-! ## Steady hosts -/

/-- What each probe of a host does. -/
structure Replies where
  report : Except Breakdown (Answer String)
  profile : Except Breakdown (Answer String)
  temperature : Except Breakdown (Answer String)
  thermalLevel : Except Breakdown (Answer String)
  supplies : Except Breakdown (List Report.Supply)
  sensors : Except Breakdown (Answer (List RawTemperature))

/-- A probe always does the same on the hosts of a class, and leads to a host of the class. -/
def Gives (hosts : σ → Prop) (probe : Probe σ α) (outcome : Except Breakdown α) : Prop :=
  ∀ host, hosts host → (probe host).outcome = outcome ∧ hosts (probe host).host

/-- On the hosts of a class the clock stands still and each probe always does the same; neither
leads out of the class. -/
structure Steady (station : Station σ) (hosts : σ → Prop) (now : Nat) (replies : Replies) :
    Prop where
  clock : ∀ host, hosts host → (station.clock host).1 = now ∧ hosts (station.clock host).2
  report : Gives hosts station.platform.report replies.report
  profile : Gives hosts station.platform.profile replies.profile
  temperature : Gives hosts station.platform.temperature replies.temperature
  thermalLevel : Gives hosts station.platform.thermalLevel replies.thermalLevel
  supplies : Gives hosts station.platform.supplies replies.supplies
  sensors : Gives hosts station.sensors replies.sensors

/-! ## Two looks through the cache -/

/-- A look through the cache comes to the same before and after another look, and what it leaves
is the same too. -/
theorem access_settled {timeToLive now : Nat} {old cache : Cache}
    {answer : Except Breakdown (Answer String)}
    (hcache : cache = old ∨ cache = (old.access timeToLive now answer).cache) :
    (cache.access timeToLive now answer).outcome =
        (old.access timeToLive now answer).outcome ∧
      (cache.access timeToLive now answer).cache = (old.access timeToLive now answer).cache := by
  rcases hcache with rfl | rfl
  · exact ⟨rfl, rfl⟩
  cases hold : old.isFresh timeToLive now with
  | true => simp only [access_fresh hold, and_self]
  | false =>
      rw [access_stale hold, refresh_cache, refresh_outcome]
      cases hnew : isFresh timeToLive now ((news now answer).or old) with
      | true =>
          -- what is fresh now was brought by the first look, which has not broken down
          have hbrought : ∃ kept, news now answer = some kept := by
            rw [← Option.ne_none_iff_exists']
            intro hnone
            rw [hnone, Option.none_or, hold] at hnew
            cases hnew
          rcases hbrought with ⟨kept, hkept⟩
          rw [access_fresh hnew, ok_of_news hkept]
          exact ⟨rfl, rfl⟩
      | false =>
          rw [access_stale hnew, refresh_cache, refresh_outcome, ← Option.or_assoc,
            Option.or_self]
          exact ⟨rfl, rfl⟩

/-- Getting the text through the cache is a look through it, which runs the probe or leaves the
host alone. -/
theorem keptText_access (timeToLive now : Nat) (probe : Probe σ (Answer String))
    (session : Session σ) :
    let access := session.cache.access timeToLive now (probe session.host).outcome
    (keptText timeToLive now probe session).1 = access.outcome ∧
      ((keptText timeToLive now probe session).2.host = session.host ∨
        (keptText timeToLive now probe session).2.host = (probe session.host).host) ∧
      (keptText timeToLive now probe session).2.cache = access.cache := by
  cases h : session.cache.isFresh timeToLive now with
  | true =>
      simp only [run_keptText_fresh h, access_fresh h]
      exact ⟨trivial, .inl trivial, trivial⟩
  | false =>
      simp only [run_keptText_stale h, access_stale h]
      exact ⟨trivial, .inr trivial, trivial⟩

/-! ## Settled work -/

/-- The sessions that work may find on a steady host. -/
structure Calm (hosts : σ → Prop) (old new : Cache) (session : Session σ) : Prop where
  host : hosts session.host
  cache : session.cache = old ∨ session.cache = new

/-- Work that comes to the same in all calm sessions, and either looks through the cache in all of
them or in none. -/
def Settled (hosts : σ → Prop) (old new : Cache) (work : Session σ → α × Session σ) : Prop :=
  ∃ outcome, ∃ looks : Bool, ∀ session, Calm hosts old new session →
    (work session).1 = outcome ∧ hosts (work session).2.host ∧
      (work session).2.cache = if looks then new else session.cache

section

variable {hosts : σ → Prop} {old new : Cache}

/-- Work leaves a calm session when it looked through the cache or left it alone. -/
theorem Calm.after {session after : Session σ} (hcalm : Calm hosts old new session)
    (hhost : hosts after.host) {looks : Bool}
    (hcache : after.cache = if looks then new else session.cache) :
    Calm hosts old new after := by
  refine ⟨hhost, ?_⟩
  cases looks with
  | true => exact .inr hcache
  | false =>
      rw [hcache]
      exact hcalm.cache

/-- Giving something is settled. -/
theorem Settled.pure (a : α) : Settled hosts old new (pure a : Collect σ α) :=
  ⟨.ok a, false, fun _ hcalm => ⟨rfl, hcalm.host, rfl⟩⟩

/-- Making a note is settled. -/
theorem Settled.note (level : Level) (message : String) :
    Settled hosts old new (note level message : Collect σ Unit) :=
  ⟨.ok (), false, fun _ hcalm => ⟨rfl, hcalm.host, rfl⟩⟩

/-- Asking a probe that always does the same is settled. -/
theorem Settled.ask {probe : Probe σ α} {outcome : Except Breakdown α}
    (hprobe : Gives hosts probe outcome) : Settled hosts old new (ask probe) := by
  refine ⟨outcome, false, ?_⟩
  intro session hcalm
  rcases hprobe session.host hcalm.host with ⟨houtcome, hhost⟩
  exact ⟨houtcome, hhost, rfl⟩

/-- Settled work that goes on with settled work is settled. -/
theorem Settled.bind {work : Collect σ α} {next : α → Collect σ β}
    (hwork : Settled hosts old new work) (hnext : ∀ a, Settled hosts old new (next a)) :
    Settled hosts old new (work >>= next) := by
  rcases hwork with ⟨outcome, looks, hrun⟩
  cases outcome with
  | error breakdown =>
      refine ⟨.error breakdown, looks, ?_⟩
      intro session hcalm
      rcases hrun session hcalm with ⟨houtcome, hhost, hcache⟩
      rw [run_bind_error (Prod.ext houtcome rfl) next]
      exact ⟨rfl, hhost, hcache⟩
  | ok a =>
      rcases hnext a with ⟨outcome, looksNext, hrunNext⟩
      refine ⟨outcome, looksNext || looks, ?_⟩
      intro session hcalm
      rcases hrun session hcalm with ⟨houtcome, hhost, hcache⟩
      rcases hrunNext (work session).2 (hcalm.after hhost hcache) with
        ⟨houtcomeNext, hhostNext, hcacheNext⟩
      rw [run_bind_ok (Prod.ext houtcome rfl) next]
      refine ⟨houtcomeNext, hhostNext, ?_⟩
      rw [hcacheNext, hcache]
      cases looksNext <;> rfl

end

/-! ## The collectors -/

section

variable {station : Station σ} {hosts : σ → Prop} {now : Nat} {replies : Replies} {old : Cache}

/-- What is kept after a look through the cache. -/
def keptAfter (station : Station σ) (now : Nat) (replies : Replies) (old : Cache) : Cache :=
  (old.access station.timeToLive now replies.profile).cache

/-- Getting the text of the power profile is settled. -/
theorem settled_powerText (hsteady : Steady station hosts now replies) :
    Settled hosts old (keptAfter station now replies old) (powerText station) := by
  cases hprofile : station.platform.hasProfile with
  | false =>
      refine ⟨.ok "", false, ?_⟩
      intro session hcalm
      rw [run_powerText_missing hprofile]
      exact ⟨rfl, hcalm.host, rfl⟩
  | true =>
      refine ⟨(old.access station.timeToLive now replies.profile).outcome, true, ?_⟩
      intro session hcalm
      rcases hsteady.clock session.host hcalm.host with ⟨hclock, hhost⟩
      rcases hsteady.profile _ hhost with ⟨hanswer, hafter⟩
      obtain ⟨houtcome, hhosts, hcache⟩ := keptText_access station.timeToLive now
        station.platform.profile { session with host := (station.clock session.host).2 }
      rcases access_settled hcalm.cache with ⟨hsame, hkept⟩
      rw [hanswer] at houtcome hcache
      rw [run_powerText hprofile, hclock]
      refine ⟨houtcome.trans hsame, ?_, hcache.trans hkept⟩
      rcases hhosts with hhosts | hhosts
      · rw [hhosts]
        exact hhost
      · rw [hhosts]
        exact hafter

/-- What the power profile tells of the batteries is settled. -/
theorem settled_powerData (hsteady : Steady station hosts now replies) :
    Settled hosts old (keptAfter station now replies old) (powerData station) :=
  (settled_powerText hsteady).bind (fun _ => .pure _)

/-- The batteries of the fast report are settled. -/
theorem settled_reportedBatteries (hsteady : Steady station hosts now replies) :
    Settled hosts old (keptAfter station now replies old) (reportedBatteries station) := by
  refine (Settled.ask hsteady.report).bind ?_
  intro answer
  cases answer with
  | ok report =>
      refine (settled_powerData hsteady).bind ?_
      intro data
      dsimp only
      split
      · exact (Settled.note _ _).bind (fun _ => .pure _)
      · exact .pure _
  | error failure => exact (Settled.note _ _).bind (fun _ => .pure _)

/-- The batteries of the report or of the power supplies are settled. -/
theorem settled_findBatteries (hsteady : Steady station hosts now replies) :
    Settled hosts old (keptAfter station now replies old) (findBatteries station) := by
  refine (settled_reportedBatteries hsteady).bind ?_
  intro reported
  split
  · exact (Settled.ask hsteady.supplies).bind (fun _ => .pure _)
  · exact .pure _

/-- Collecting the batteries is settled, also when a probe breaks down. -/
theorem settled_batteries (hsteady : Steady station hosts now replies) :
    Settled hosts old (keptAfter station now replies old) (batteries station) := by
  obtain ⟨outcome, looks, hrun⟩ : Settled hosts old (keptAfter station now replies old)
      (findBatteries station) := settled_findBatteries hsteady
  cases outcome with
  | ok found =>
      refine ⟨batteryAnswer found, looks, ?_⟩
      intro session hcalm
      rcases hrun session hcalm with ⟨houtcome, hhost, hcache⟩
      have hfound : findBatteries station session =
          (.ok found, (findBatteries station session).2) := Prod.ext houtcome rfl
      rw [run_batteries_ok hfound]
      exact ⟨rfl, hhost, hcache⟩
  | error breakdown =>
      refine ⟨.error (.batteryCollection breakdown.reason), looks, ?_⟩
      intro session hcalm
      rcases hrun session hcalm with ⟨houtcome, hhost, hcache⟩
      have hbroken : findBatteries station session =
          (.error breakdown, (findBatteries station session).2) := Prod.ext houtcome rfl
      rw [run_batteries_error hbroken]
      exact ⟨rfl, hhost, hcache⟩

/-- The temperature next to the battery is settled. -/
theorem settled_measuredTemperature (hsteady : Steady station hosts now replies) :
    Settled hosts old (keptAfter station now replies old) (measuredTemperature station) := by
  refine (Settled.ask hsteady.temperature).bind ?_
  intro answer
  cases answer with
  | ok text => exact .pure _
  | error failure => exact (Settled.note _ _).bind (fun _ => .pure _)

/-- The temperature that the thermal level suggests is settled. -/
theorem settled_estimatedTemperature (hsteady : Steady station hosts now replies) :
    Settled hosts old (keptAfter station now replies old) (estimatedTemperature station) := by
  refine (Settled.ask hsteady.thermalLevel).bind ?_
  intro answer
  cases answer with
  | ok text => exact .pure _
  | error failure => exact (Settled.note _ _).bind (fun _ => .pure _)

/-- Collecting fan and temperature is settled. -/
theorem settled_thermal (hsteady : Steady station hosts now replies) :
    Settled hosts old (keptAfter station now replies old) (thermal station) := by
  refine (settled_powerText hsteady).bind ?_
  intro text
  refine (settled_measuredTemperature hsteady).bind ?_
  intro measured
  split
  · exact .pure _
  · exact (settled_estimatedTemperature hsteady).bind (fun _ => .pure _)

/-- Collecting the sensor readings is settled. -/
theorem settled_sensors (hsteady : Steady station hosts now replies) :
    Settled hosts old (keptAfter station now replies old) (sensors station) :=
  (Settled.ask hsteady.sensors).bind (fun _ => .pure _)

end

/-! ## Prepared hosts -/

/-- The replies of a prepared host are those of another one, and its clock is the same and stands
still. -/
structure SameReplies (start host : Prepared) : Prop where
  clock : host.clock = start.clock
  drift : host.drift = 0
  texts : ∀ name, host.repliesOf name = start.repliesOf name
  supplies : host.supplies = start.supplies
  temperatures : host.temperatures = start.temperatures

/-- What the probes of a prepared host do at the start. -/
def preparedReplies (name : String) (hasProfile : Bool) (start : Prepared) : Replies where
  report := ((Prepared.platform name hasProfile).report start).outcome
  profile := ((Prepared.platform name hasProfile).profile start).outcome
  temperature := ((Prepared.platform name hasProfile).temperature start).outcome
  thermalLevel := ((Prepared.platform name hasProfile).thermalLevel start).outcome
  supplies := ((Prepared.platform name hasProfile).supplies start).outcome
  sensors := (Prepared.sensorsProbe start).outcome

/-- A recorded probe does the same as the probe. -/
theorem Gives.recording {hosts : σ → Prop} {probe : Probe σ α} {outcome : Except Breakdown α}
    (hprobe : Gives hosts probe outcome) (call : Call) :
    Gives hosts (probe.recording call) outcome :=
  fun host hhost => hprobe host hhost

/-- A text that is prepared once is given again and again. -/
theorem gives_textProbe {start : Prepared} (name : String)
    (hone : (start.repliesOf name).length ≤ 1) (missing : Failure) :
    Gives (SameReplies start) (Prepared.textProbe name missing)
      (Prepared.textProbe name missing start).outcome := by
  intro host hhost
  constructor
  · simp only [Prepared.textProbe, hhost.texts]
  · refine ⟨hhost.clock, hhost.drift, ?_, hhost.supplies, hhost.temperatures⟩
    intro other
    simp only [Prepared.textProbe, hhost.texts, nextReply_rest hone,
      Prepared.repliesOf_setReplies]
    split
    · next h => rw [h]
    · rfl

/-- Supplies that are prepared once are given again and again. -/
theorem gives_suppliesProbe {start : Prepared} (hone : start.supplies.length ≤ 1) :
    Gives (SameReplies start) Prepared.suppliesProbe (Prepared.suppliesProbe start).outcome := by
  intro host hhost
  constructor
  · simp only [Prepared.suppliesProbe, hhost.supplies]
  · refine ⟨hhost.clock, hhost.drift, hhost.texts, ?_, hhost.temperatures⟩
    simp only [Prepared.suppliesProbe, hhost.supplies, nextReply_rest hone]

/-- Temperatures that are prepared once are given again and again. -/
theorem gives_sensorsProbe {start : Prepared} (hone : start.temperatures.length ≤ 1) :
    Gives (SameReplies start) Prepared.sensorsProbe (Prepared.sensorsProbe start).outcome := by
  intro host hhost
  have hrest := nextReply_rest hone
  unfold Prepared.sensorsProbe
  rw [hhost.temperatures]
  cases hnext : nextReply start.temperatures with
  | mk reply rest =>
      rw [hnext] at hrest
      cases reply with
      | none => exact ⟨rfl, hhost⟩
      | some reply =>
          exact ⟨rfl, hhost.clock, hhost.drift, hhost.texts, hhost.supplies, hrest⟩

/-- A prepared host with one reply at most for each probe, on a clock that stands still, is
steady. -/
theorem prepared_steady (name : String) (hasProfile : Bool) (timeToLive : Nat) {start : Prepared}
    (htexts : ∀ entry ∈ start.texts, entry.2.length ≤ 1)
    (hsupplies : start.supplies.length ≤ 1) (htemperatures : start.temperatures.length ≤ 1) :
    Steady (Prepared.station (Prepared.platform name hasProfile) timeToLive) (SameReplies start)
      start.clock (preparedReplies name hasProfile start) where
  clock := by
    intro host hhost
    refine ⟨hhost.clock, ?_, hhost.drift, hhost.texts, hhost.supplies, hhost.temperatures⟩
    change host.clock + host.drift = start.clock
    rw [hhost.drift, Nat.add_zero, hhost.clock]
  report := (gives_textProbe "report" (start.length_repliesOf htexts _) _).recording _
  profile := (gives_textProbe "profile" (start.length_repliesOf htexts _) _).recording _
  temperature := (gives_textProbe "temp" (start.length_repliesOf htexts _) _).recording _
  thermalLevel := (gives_textProbe "level" (start.length_repliesOf htexts _) _).recording _
  supplies := (gives_suppliesProbe hsupplies).recording _
  sensors := gives_sensorsProbe htemperatures

end HostVitals.Collect
