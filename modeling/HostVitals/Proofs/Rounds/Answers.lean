import HostVitals.Proofs.Rounds.Snapshot
import HostVitals.Proofs.Rounds.Temperature

/-!
# The answers of a round

Which probes a round asks depends on what was answered before.  The power profile stands behind two
looks through the cache, one with the batteries and one with the fan, and the thermal level behind
the sensor next to the battery.  When nothing breaks down, the answers alone decide what is asked,
and where the batteries and the fan speed of the snapshot come from.

Main results:

- `consulted_powerText`: a look at the power profile consults the cache.
- `Consulted.twice`, `Consulted.shared`: two looks at one clock reading.
- `follows_snapshot`: a round goes by what is answered.
-/

namespace HostVitals.Collect

variable {σ : Type}

/-! ## Looks through the cache -/

/-- The ways in which a cache is consulted at a clock reading when nothing breaks down: what is
asked, and what is kept afterwards. -/
inductive Consulted (timeToLive now : Nat) (before : Cache) : List (Answer String) → Cache → Prop
  | fresh (hfresh : before.isFresh timeToLive now = true) :
      Consulted timeToLive now before [] before
  | stale (hstale : before.isFresh timeToLive now = false) (answer : Answer String) :
      Consulted timeToLive now before [answer] ((Cache.news now (.ok answer)).or before)

section

variable {timeToLive now : Nat} {before kept after : Cache} {asked firsts seconds :
  List (Answer String)}

theorem Consulted.length_le (h : Consulted timeToLive now before asked after) :
    asked.length ≤ 1 := by
  cases h <;> simp

/-- The power profile is asked for exactly when none is fresh. -/
theorem Consulted.asked_iff (h : Consulted timeToLive now before asked after) :
    asked ≠ [] ↔ before.isFresh timeToLive now = false := by
  cases h with
  | fresh hfresh => simp [hfresh]
  | stale hstale => simp [hstale]

/-- When both of two looks ask, the first answer brought nothing, or what it brought was not fresh
even at the clock reading it was asked for at. -/
theorem Consulted.twice (hfirst : Consulted timeToLive now before firsts kept)
    (hsecond : Consulted timeToLive now kept seconds after) (hfirsts : firsts ≠ [])
    (hseconds : seconds ≠ []) :
    timeToLive = 0 ∨
      ∀ first ∈ firsts, first = .ok "" ∨ ∃ failure, first = .error failure := by
  have hstale := hsecond.asked_iff.1 hseconds
  cases hfirst with
  | fresh => exact absurd rfl hfirsts
  | stale _ answer =>
      rcases answer with failure | text
      · exact .inr (by simp)
      · by_cases hempty : text = ""
        · exact .inr (by simp [hempty])
        · have hnews : Cache.news now (.ok (.ok text)) = some ⟨text, now⟩ := by
            simp [Cache.news, hempty]
          rw [hnews, Option.some_or] at hstale
          have hage : timeToLive ≤ now - now := Cache.isFresh_eq_false_iff.1 hstale _ rfl
          exact .inl (by omega)

/-- What is kept was kept before, or was asked for. -/
theorem Consulted.origin {kept : Kept} (h : Consulted timeToLive now before asked after)
    (hkept : after = some kept) : before = some kept ∨ .ok kept.text ∈ asked := by
  cases h with
  | fresh => exact .inl hkept
  | stale _ answer =>
      rcases Option.or_eq_some_iff.1 hkept with hnews | ⟨-, hbefore⟩
      · have hanswer := Except.ok.inj (Cache.ok_of_news hnews)
        exact .inr (by simp [hanswer])
      · exact .inl hbefore

/-- When one of two looks does not ask, both come to the same text that is kept. -/
theorem Consulted.shared (hfirst : Consulted timeToLive now before firsts kept)
    (hsecond : Consulted timeToLive now kept seconds after)
    (honce : firsts = [] ∨ seconds = []) : after = kept ∧ ∃ text, kept = some text := by
  have hfresh : kept.isFresh timeToLive now = true := by
    rcases honce with rfl | rfl
    · cases hfirst with
      | fresh hfresh => exact hfresh
    · cases hsecond with
      | fresh hfresh => exact hfresh
  obtain ⟨text, htext, -⟩ := Cache.isFresh_iff.1 hfresh
  refine ⟨?_, text, htext⟩
  cases hsecond with
  | fresh => rfl
  | stale hstale =>
      rw [hstale] at hfresh
      cases hfresh

end

/-- The power profile was asked for, and answered each time. -/
def profilesOf (answers : List (Answer String)) : List Exchange :=
  answers.map (fun answer => .profile (.ok answer))

/-- A look at the power profile that gives something consults the cache, and gives the text that is
kept then. -/
theorem consulted_powerText {station : Station σ} {session after : Session σ} {profile : String}
    (hprofile : station.platform.hasProfile = true)
    (hlook : powerText station session = (.ok profile, after)) :
    ∃ asked : List (Answer String),
      (lookTold station session).exchanges =
        .clock (station.clock session.host).1 :: profilesOf asked ∧
      Consulted station.timeToLive (station.clock session.host).1 session.cache asked after.cache ∧
      profile = after.cache.text := by
  have hways := look_powerText station session
  rw [hlook] at hways
  generalize lookTold station session = told at hways ⊢
  generalize hgiven : (Except.ok profile : Except Breakdown String) = outcome at hways
  cases hways with
  | missing hmissing => simp [hprofile] at hmissing
  | fresh _ hfresh => exact ⟨[], rfl, .fresh hfresh, Except.ok.inj hgiven⟩
  | @stale run _ _ hstale _ haccess =>
      subst haccess
      replace hgiven := hgiven.trans (Cache.refresh_outcome _ _ _)
      rcases hrun : run.outcome with breakdown | answer
      · rw [hrun] at hgiven
        cases hgiven
      · rw [hrun] at hgiven
        simp only [Cache.refresh_cache]
        exact ⟨[answer], rfl, .stale hstale answer, Except.ok.inj hgiven⟩

/-! ## What a round asks -/

/-- The clock readings among exchanges. -/
def readingsIn (exchanges : List Exchange) : List Nat :=
  exchanges.filterMap (fun exchange => match exchange with
    | .clock now => some now
    | _ => none)

@[simp] theorem readingsIn_append (first second : List Exchange) :
    readingsIn (first ++ second) = readingsIn first ++ readingsIn second :=
  List.filterMap_append

theorem mem_readingsIn {now : Nat} {exchanges : List Exchange} (h : .clock now ∈ exchanges) :
    now ∈ readingsIn exchanges :=
  List.mem_filterMap.2 ⟨_, h, rfl⟩

/-- Whether an exchange is more than a look at the clock or at the list of power supplies. -/
def isQuery : Exchange → Bool
  | .clock _ | .supplies _ => false
  | .report _ | .profile _ | .temperature _ | .thermalLevel _ | .sensors _ => true

@[simp] theorem filter_profilesOf (answers : List (Answer String)) :
    (profilesOf answers).filter isQuery = profilesOf answers := by
  simp [profilesOf, isQuery]

/-- What was answered during a round.  The power profile may be asked for at two places. -/
structure Answers where
  report : Answer String
  firstProfile : List (Answer String)
  sensors : Answer (List RawTemperature)
  secondProfile : List (Answer String)
  temperature : Answer String
  levels : List (Answer String)

/-- The exchanges in which answers were given. -/
def Answers.exchanges (answers : Answers) : List Exchange :=
  .report (.ok answers.report) :: profilesOf answers.firstProfile ++
    .sensors (.ok answers.sensors) :: profilesOf answers.secondProfile ++
    .temperature (.ok answers.temperature) ::
      answers.levels.map (fun level => .thermalLevel (.ok level))

section

variable {station : Station σ} {session : Session σ} {now : Nat}

/-- A first stage that comes to its end asks for the report, and consults the cache when there is
one. -/
theorem Reported.consulted {found : List Battery} {kept : Cache} {exchanges : List Exchange}
    (hprofile : station.platform.hasProfile = true)
    (h : Reported station session (.ok found) kept exchanges)
    (hstill : ∀ reading ∈ readingsIn exchanges, reading = now) :
    ∃ (report : Answer String) (asked : List (Answer String)),
      (station.platform.report session.host).outcome = .ok report ∧
      exchanges.filter isQuery = .report (.ok report) :: profilesOf asked ∧
      (∀ failure, report = .error failure → asked = [] ∧ kept = session.cache) ∧
      ∀ text, report = .ok text →
        Consulted station.timeToLive now session.cache asked kept ∧
          found = Report.batteries text (Report.powerData kept.text) := by
  cases h with
  | @failed failure hreport =>
      exact ⟨.error failure, [], hreport, rfl, fun _ _ => ⟨rfl, rfl⟩, by simp⟩
  | @answered report look after _ hreport hlook hresult =>
      rcases look with breakdown | profile
      · cases hresult
      · obtain ⟨asked, hexchanges, hconsulted, rfl⟩ := consulted_powerText hprofile hlook
        cases hresult
        rw [hexchanges] at hstill ⊢
        have hnow := hstill _ (mem_readingsIn (List.mem_cons_of_mem _ List.mem_cons_self))
        rw [hnow] at hconsulted
        refine ⟨.ok report, asked, hreport, congrArg _ (filter_profilesOf asked), by simp, ?_⟩
        rintro _ ⟨rfl⟩
        exact ⟨hconsulted, rfl⟩

/-- The search consults the cache as its first stage does, and gives the batteries of a report that
tells of one. -/
theorem Searched.consulted {found : List Battery} {kept : Cache} {exchanges : List Exchange}
    (hprofile : station.platform.hasProfile = true)
    (h : Searched station session (.ok found) kept exchanges)
    (hstill : ∀ reading ∈ readingsIn exchanges, reading = now) :
    ∃ (report : Answer String) (asked : List (Answer String)),
      (station.platform.report session.host).outcome = .ok report ∧
      exchanges.filter isQuery = .report (.ok report) :: profilesOf asked ∧
      (∀ failure, report = .error failure → asked = [] ∧ kept = session.cache) ∧
      ∀ text, report = .ok text →
        Consulted station.timeToLive now session.cache asked kept ∧
          (TellsOfBattery text → found = Report.batteries text (Report.powerData kept.text)) := by
  cases h with
  | reported hreported =>
      obtain ⟨report, asked, hreport, hasked, hfailed, hgiven⟩ :=
        hreported.consulted hprofile hstill
      refine ⟨report, asked, hreport, hasked, hfailed, ?_⟩
      intro text htext
      exact ⟨(hgiven text htext).1, fun _ => (hgiven text htext).2⟩
  | @listed _ looked supplies _ hreported =>
      rw [readingsIn_append] at hstill
      obtain ⟨report, asked, hreport, hasked, hfailed, hgiven⟩ :=
        hreported.consulted hprofile (fun reading hreading =>
          hstill reading (List.mem_append_left _ hreading))
      refine ⟨report, asked, hreport, ?_, hfailed, ?_⟩
      · rw [List.filter_append, hasked]
        exact List.append_nil _
      · intro text htext
        obtain ⟨hconsulted, hnone⟩ := hgiven text htext
        exact ⟨hconsulted, fun htells =>
          absurd htells ((batteries_eq_nil_iff text _).1 hnone.symm)⟩

/-- Reading the sensors is one question, which does not touch the cache. -/
theorem sensors_ok {read : Answer (List Reading)} {after : Session σ}
    (h : sensors station session = (.ok read, after)) :
    ∃ answer : Answer (List RawTemperature),
      (transcript (sensors station.watched) session).exchanges = [.sensors (.ok answer)] ∧
      after.cache = session.cache := by
  have hexchanges : (transcript (sensors station.watched) session).exchanges =
      [.sensors (station.sensors session.host).outcome] :=
    exchanges_ask_silent (fun _ => .pure _) session
  obtain ⟨answer, before, hasked, hlast⟩ := parts_of_bind_ok h
  cases hlast
  rw [run_ask] at hasked
  obtain ⟨houtcome, hafter⟩ := Prod.mk.inj hasked
  refine ⟨answer, ?_, ?_⟩
  · rw [hexchanges, houtcome]
  · rw [← hafter]

/-- A round of fan and temperature consults the cache for the fan, and then asks for the
temperature and perhaps for the thermal level. -/
theorem consulted_thermal (hprofile : station.platform.hasProfile = true)
    (hsound : (transcript (thermal station.watched) session).Sound)
    (hstill : ∀ reading ∈ readingsIn (transcript (thermal station.watched) session).exchanges,
      reading = now) :
    ∃ (asked : List (Answer String)) (temperature : Answer String) (levels : List (Answer String))
      (last : Cache) (status : Thermal),
      (thermal station session).1 = .ok status ∧
      (transcript (thermal station.watched) session).exchanges.filter isQuery =
        profilesOf asked ++ .temperature (.ok temperature) ::
          levels.map (fun level => .thermalLevel (.ok level)) ∧
      Consulted station.timeToLive now session.cache asked last ∧
      status.fanSpeed = (Report.fanSpeed last.text).getD 0 ∧
      levels.length ≤ 1 ∧ (levels ≠ [] ↔ ¬∃ n, Reads temperature n ∧ 0 < n) := by
  obtain ⟨profile, later, status, hlook, hstatus, hexchanges, hwarmed⟩ := warmed_thermal hsound
  obtain ⟨temperature, levels, rfl, hfew, hlevels, -⟩ := hwarmed.layers
  obtain ⟨asked, hlooked, hconsulted, rfl⟩ :=
    consulted_powerText hprofile (Prod.ext hlook rfl)
  rw [hexchanges, hlooked] at hstill ⊢
  have hnow := hstill _ (mem_readingsIn List.mem_cons_self)
  rw [hnow] at hconsulted
  refine ⟨asked, temperature, levels, _, status, hstatus, ?_, hconsulted, hwarmed.fanSpeed_eq,
    hfew, hlevels⟩
  simp [isQuery]

/-- The rest of a round asks the sensors, consults the cache for the fan and asks for the
temperature. -/
theorem consulted_afterBatteries {time : Time.Instant} {found : Answer (List Battery)}
    (hprofile : station.platform.hasProfile = true)
    (hsound : (transcript (afterBatteries station.watched time found) session).Sound)
    (hstill : ∀ reading ∈
      readingsIn (transcript (afterBatteries station.watched time found) session).exchanges,
      reading = now) :
    ∃ (sensed : Answer (List RawTemperature)) (asked : List (Answer String))
      (temperature : Answer String) (levels : List (Answer String)) (last : Cache)
      (read : Answer (List Reading)) (status : Thermal),
      (afterBatteries station time found session).1 =
        .ok (assemble station time found read status) ∧
      (transcript (afterBatteries station.watched time found) session).exchanges.filter isQuery =
        .sensors (.ok sensed) :: profilesOf asked ++ .temperature (.ok temperature) ::
          levels.map (fun level => .thermalLevel (.ok level)) ∧
      Consulted station.timeToLive now session.cache asked last ∧
      status.fanSpeed = (Report.fanSpeed last.text).getD 0 ∧
      levels.length ≤ 1 ∧ (levels ≠ [] ↔ ¬∃ n, Reads temperature n ∧ 0 < n) := by
  obtain ⟨read, middle, hread, hrest, htold⟩ := (unguarded_sensors station).sound_bind
    (fun read => (unguarded_afterSensors station time found read).watches) hsound
  obtain ⟨sensed, hsensed, hcache⟩ := sensors_ok hread
  -- putting the snapshot together is silent
  have hthermal : (transcript (afterSensors station.watched time found read) middle).exchanges =
      (transcript (thermal station.watched) middle).exchanges :=
    (unguarded_thermal station).watches.exchanges_bind_silent (fun _ => .pure _) middle
  have hexchanges : (transcript (afterBatteries station.watched time found) session).exchanges =
      .sensors (.ok sensed) :: (transcript (thermal station.watched) middle).exchanges := by
    rw [afterBatteries, htold, Transcript.exchanges_append, hsensed, hthermal]
    rfl
  rw [Transcript.Sound, hthermal] at hrest
  rw [hexchanges] at hstill ⊢
  obtain ⟨asked, temperature, levels, last, status, hstatus, hquery, hconsulted, hfan, hfew,
    hlevels⟩ := consulted_thermal hprofile hrest hstill
  rw [hcache] at hconsulted
  refine ⟨sensed, asked, temperature, levels, last, read, status, ?_, congrArg _ hquery,
    hconsulted, hfan, hfew, hlevels⟩
  have hlast : thermal station middle = (.ok status, (thermal station middle).2) :=
    Prod.ext hstatus rfl
  rw [afterBatteries, run_bind_ok hread, afterSensors, run_bind_ok hlast]
  rfl

/-- How a round goes, by what is answered: what is asked at all, and where batteries and fan speed
come from.  Between the batteries and the fan `kept` is in the cache. -/
structure Follows (timeToLive now : Nat) (before kept : Cache) (answers : Answers)
    (snap : Snapshot) : Prop where
  failed : ∀ failure, answers.report = .error failure →
    answers.firstProfile = [] ∧ kept = before
  given : ∀ text, answers.report = .ok text →
    Consulted timeToLive now before answers.firstProfile kept ∧
      (TellsOfBattery text →
        snap.batteries = Report.batteries text (Report.powerData kept.text))
  looked : ∃ last, Consulted timeToLive now kept answers.secondProfile last ∧
    snap.thermal.fanSpeed = (Report.fanSpeed last.text).getD 0
  length_levels : answers.levels.length ≤ 1
  levels_iff : answers.levels ≠ [] ↔ ¬∃ n, Reads answers.temperature n ∧ 0 < n

theorem listOf_batteryAnswer (found : List Battery) : listOf (batteryAnswer found) = found := by
  cases found <;> rfl

/-- A round in which nothing breaks down and the clock stands still comes to a snapshot, and goes by
what is answered. -/
theorem follows_snapshot {time : Time.Instant} (hprofile : station.platform.hasProfile = true)
    (hsound : (transcript (snapshot station.watched time) session).Sound)
    (hstill : ∀ reading ∈ readingsIn (transcript (snapshot station.watched time) session).exchanges,
      reading = now) :
    ∃ (answers : Answers) (snap : Snapshot),
      (snapshot station time session).1 = .ok snap ∧
      (transcript (snapshot station.watched time) session).exchanges.filter isQuery =
        answers.exchanges ∧
      (station.platform.report session.host).outcome = .ok answers.report ∧
      Follows station.timeToLive now session.cache (batteries station session).2.cache answers
        snap := by
  rw [transcript_snapshot] at hsound hstill ⊢
  rw [Transcript.exchanges_append, readingsIn_append] at hstill
  obtain ⟨hbatteries, hafter⟩ := Transcript.sound_append.1 hsound
  -- the batteries, with the first look
  obtain ⟨found, hfound, hanswer⟩ := answer_of_sound hbatteries
  have hsearched := searched_batteries station session
  rw [hfound] at hsearched
  obtain ⟨report, firstProfile, hreport, hfirst, hfailed, hgiven⟩ :=
    hsearched.consulted hprofile (fun reading hreading =>
      hstill reading (List.mem_append_left _ hreading))
  -- the rest, with the second look
  obtain ⟨sensed, secondProfile, temperature, levels, last, read, status, hsnap, hsecond, hlooked,
    hfan, hfew, hlevels⟩ := consulted_afterBatteries hprofile hafter (fun reading hreading =>
      hstill reading (List.mem_append_right _ hreading))
  rw [run_snapshot]
  refine ⟨⟨report, firstProfile, sensed, secondProfile, temperature, levels⟩, _, hsnap, ?_,
    hreport, ⟨hfailed, ?_, ⟨last, hlooked, hfan⟩, hfew, hlevels⟩⟩
  · rw [Transcript.exchanges_append, List.filter_append, hfirst, hsecond]
    simp [Answers.exchanges]
  · intro text htext
    obtain ⟨hconsulted, hfinds⟩ := hgiven text htext
    refine ⟨hconsulted, fun htells => ?_⟩
    rw [← hfinds htells]
    simp only [assemble, hanswer, listOf_batteryAnswer]

end

section

variable {timeToLive now : Nat} {before kept : Cache} {answers : Answers} {snap : Snapshot}

theorem Follows.length_firstProfile (h : Follows timeToLive now before kept answers snap) :
    answers.firstProfile.length ≤ 1 := by
  cases hreport : answers.report with
  | error failure => simp [(h.failed failure hreport).1]
  | ok text => exact (h.given text hreport).1.length_le

theorem Follows.length_secondProfile (h : Follows timeToLive now before kept answers snap) :
    answers.secondProfile.length ≤ 1 := by
  obtain ⟨last, hlooked, -⟩ := h.looked
  exact hlooked.length_le

/-- The power profile is asked for with the batteries exactly when there is a report and none is
fresh. -/
theorem Follows.firstProfile_iff (h : Follows timeToLive now before kept answers snap) :
    answers.firstProfile ≠ [] ↔
      (∃ text, answers.report = .ok text) ∧ before.isFresh timeToLive now = false := by
  cases hreport : answers.report with
  | error failure => simp [(h.failed failure hreport).1]
  | ok text => simpa using (h.given text hreport).1.asked_iff

/-- The power profile is asked for with the fan exactly when none is fresh after the batteries. -/
theorem Follows.secondProfile_iff (h : Follows timeToLive now before kept answers snap) :
    answers.secondProfile ≠ [] ↔ kept.isFresh timeToLive now = false := by
  obtain ⟨last, hlooked, -⟩ := h.looked
  exact hlooked.asked_iff

/-- The power profile is asked for twice only when the first answer brought nothing or nothing is
ever fresh. -/
theorem Follows.twice (h : Follows timeToLive now before kept answers snap)
    (hfirst : answers.firstProfile ≠ []) (hsecond : answers.secondProfile ≠ []) :
    timeToLive = 0 ∨
      ∀ first ∈ answers.firstProfile, first = .ok "" ∨ ∃ failure, first = .error failure := by
  obtain ⟨⟨text, htext⟩, -⟩ := h.firstProfile_iff.1 hfirst
  obtain ⟨last, hlooked, -⟩ := h.looked
  exact (h.given text htext).1.twice hlooked hfirst hsecond

/-- When the power profile is not asked for twice, batteries and fan speed come from one text. -/
theorem Follows.shared (h : Follows timeToLive now before kept answers snap)
    (honce : answers.firstProfile = [] ∨ answers.secondProfile = []) {text : String}
    (htext : answers.report = .ok text) (htells : TellsOfBattery text) :
    ∃ profile : Kept, (before = some profile ∨ .ok profile.text ∈ answers.firstProfile) ∧
      snap.batteries = Report.batteries text (Report.powerData profile.text) ∧
      snap.thermal.fanSpeed = (Report.fanSpeed profile.text).getD 0 := by
  obtain ⟨hconsulted, hbatteries⟩ := h.given text htext
  obtain ⟨last, hlooked, hfan⟩ := h.looked
  obtain ⟨rfl, profile, rfl⟩ := hconsulted.shared hlooked honce
  exact ⟨profile, hconsulted.origin rfl, hbatteries htells, hfan⟩

end

end HostVitals.Collect
