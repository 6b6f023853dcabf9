import HostVitals.Platform.Scripted
import HostVitals.Proofs.Number.Rounding
import HostVitals.Proofs.Rounds.Unguarded

/-!
# A round of fan and temperature

The sensor next to the battery is asked first, and the thermal level only when the sensor gives no
temperature above zero.  What is told is a measurement, an estimate or nothing, and a temperature is
told exactly when there is a source for it: over the whole range of the answers no temperature is
rounded to zero, and none to infinity.

Main results:

- `isPositive_batteryTemperature`, `isPositive_estimatedTemperature`: no temperature is rounded to
  zero or to infinity.
- `warmed_thermal`: the ways in which a temperature is got.
- `thermal_layers`: what is asked and what is told, in every case.
-/

namespace HostVitals.Collect

open HostVitals.Number

/-! ## Temperatures -/

/-- An answer is a text that is a whole number, with blanks around it. -/
def Reads (answer : Answer String) (n : Int) : Prop :=
  ∃ text, answer = .ok text ∧ Report.readAnswer text = some n

theorem Reads.lt {answer : Answer String} {n : Int} (h : Reads answer n) : n < 2 ^ 63 := by
  obtain ⟨text, -, hread⟩ := h
  have hgreatest := (readSigned_bounds hread).2
  omega

/-- An answer is one whole number at most. -/
theorem Reads.unique {answer : Answer String} {m n : Int} (hm : Reads answer m)
    (hn : Reads answer n) : m = n := by
  obtain ⟨text, rfl, hm⟩ := hm
  obtain ⟨_, ⟨rfl⟩, hn⟩ := hn
  exact Option.some.inj (hm.symm.trans hn)

/-- The temperature next to the battery that an answer gives. -/
theorem batteryTemperature_eq_some_iff {answer : Answer String} {degrees : Binary64} :
    answer.toOption.bind Report.batteryTemperature = some degrees ↔
      ∃ n, Reads answer n ∧ 0 < n ∧ (Binary64.ofInt n).div (.ofInt 100) = degrees := by
  cases answer with
  | error failure => simp [Except.toOption, Reads]
  | ok text =>
      simp [Except.toOption, Reads, Report.batteryTemperature, and_assoc]

/-- The estimate that an answer leads to. -/
theorem estimatedTemperature_eq_some_iff {answer : Answer String} {degrees : Binary64} :
    answer.toOption.bind (fun text =>
        (Report.thermalLevel text).map Report.estimatedTemperature) = some degrees ↔
      ∃ n, Reads answer n ∧ 0 ≤ n ∧ Report.estimatedTemperature n = degrees := by
  cases answer with
  | error failure => simp [Except.toOption, Reads]
  | ok text =>
      simp [Except.toOption, Reads, Report.thermalLevel, and_assoc]

/-- A measured temperature is finite and positive, over the whole range of the sensor. -/
theorem isPositive_batteryTemperature {n : Int} (hpos : 0 < n) (hlt : n < 2 ^ 63) :
    ((Binary64.ofInt n).div (.ofInt 100)).IsPositive := by
  have hhundred : Binary64.LiesIn (100 * unitsPerOne) (100 * unitsPerOne) (.ofInt 100) := by
    decide +kernel
  -- in degrees, the quotient lies between two to the power of minus 7 and of 57
  have hlies := (Binary64.liesIn_ofInt hpos hlt).div hhundred (by decide +kernel) 1015 1078
    (by decide) (by decide) (by decide +kernel) (by decide +kernel)
  exact hlies.isPositive (by decide +kernel)

/-- An estimated temperature is finite and positive, over the whole range of the levels. -/
theorem isPositive_estimatedTemperature {n : Int} (hnonneg : 0 ≤ n) (hlt : n < 2 ^ 63) :
    (Report.estimatedTemperature n).IsPositive := by
  have hhalf : Binary64.LiesIn (2 ^ 1073) (2 ^ 1073) Report.halfDegree := by
    decide +kernel
  have hbase : Binary64.LiesIn (45 * unitsPerOne) (45 * unitsPerOne) (.ofInt 45) := by
    decide +kernel
  have hmore := (Binary64.liesIn_ofInt_nonneg hnonneg hlt).mul hhalf 1084 (by decide)
    (by decide +kernel)
  -- in degrees, the sum lies between two to the power of 5 and of 64
  have hlies := hbase.add hmore 1027 1085 (by decide) (by decide) (by decide +kernel)
    (by decide +kernel)
  exact hlies.isPositive (by decide +kernel)

/-! ## Questions -/

section

variable {σ α : Type}

theorem run_askAndRead (probe : Probe σ (Answer String)) (complaint : String)
    (read : String → Option α) (session : Session σ) :
    (askAndRead probe complaint read session).1 =
      (probe session.host).outcome.map (fun answer => answer.toOption.bind read) := by
  rcases h : (probe session.host).outcome with breakdown | failure | text
  · exact congrArg Prod.fst (run_ask_bind_error h _)
  · exact congrArg Prod.fst (run_ask_bind_ok h _)
  · exact congrArg Prod.fst (run_ask_bind_ok h _)

/-- What was read out of a text was read out of the answer to one question. -/
theorem askAndRead_ok (entry : Except Breakdown (Answer String) → Exchange)
    {probe : Probe σ (Answer String)} {complaint : String} {read : String → Option α}
    {session after : Session σ} {found : Option α}
    (h : askAndRead probe complaint read session = (.ok found, after)) :
    ∃ answer : Answer String, answer.toOption.bind read = found ∧
      (transcript (askAndRead (Probe.watched entry probe) complaint read) session).exchanges =
        [entry (.ok answer)] := by
  have hrun := run_askAndRead probe complaint read session
  rw [h] at hrun
  rw [exchanges_askAndRead]
  rcases houtcome : (probe session.host).outcome with breakdown | answer
  · rw [houtcome] at hrun
    cases hrun
  · rw [houtcome] at hrun
    cases hrun
    exact ⟨answer, rfl, rfl⟩

end

/-! ## The round -/

/-- The ways in which a temperature is got once the fan speed is known: what is asked, and what
comes of it. -/
inductive Warmed (fanSpeed : UInt32) : List Exchange → Thermal → Prop
  | measured {answer : Answer String} {n : Int} (hread : Reads answer n) (hpos : 0 < n) :
      Warmed fanSpeed [.temperature (.ok answer)]
        ⟨fanSpeed, (Binary64.ofInt n).div (.ofInt 100), .batterySensor⟩
  | estimated {answer level : Answer String} {n : Int} (hnone : ∀ m, Reads answer m → m ≤ 0)
      (hread : Reads level n) (hnonneg : 0 ≤ n) :
      Warmed fanSpeed [.temperature (.ok answer), .thermalLevel (.ok level)]
        ⟨fanSpeed, Report.estimatedTemperature n, .thermalLevel⟩
  | unknown {answer level : Answer String} (hnone : ∀ m, Reads answer m → m ≤ 0)
      (hlevel : ∀ n, Reads level n → n < 0) :
      Warmed fanSpeed [.temperature (.ok answer), .thermalLevel (.ok level)]
        ⟨fanSpeed, .zero, .none⟩

section

variable {σ : Type} {station : Station σ} {session : Session σ}

/-- Without a measured temperature the thermal level decides. -/
theorem warmed_fallBack {fanSpeed : UInt32} {answer : Answer String}
    (hnone : ∀ m, Reads answer m → m ≤ 0)
    (hsound : (transcript (fallBack station.watched fanSpeed none) session).Sound) :
    ∃ status, (fallBack station fanSpeed none session).1 = .ok status ∧
      Warmed fanSpeed (.temperature (.ok answer) ::
        (transcript (fallBack station.watched fanSpeed none) session).exchanges) status := by
  obtain ⟨estimated, after, hestimated, -⟩ :=
    (unguarded_estimatedTemperature station).sound_bind
      (fun estimated => (tells_pure (thermalStatus fanSpeed none estimated)).watches) hsound
  obtain ⟨level, hlevel, hasked⟩ := askAndRead_ok .thermalLevel hestimated
  have hrun : fallBack station fanSpeed none session =
      (.ok (thermalStatus fanSpeed none estimated), after) := run_bind_ok hestimated _
  have hexchanges : (transcript (fallBack station.watched fanSpeed none) session).exchanges =
      [.thermalLevel (.ok level)] := (exchanges_fallBack_none station fanSpeed session).trans hasked
  rw [hrun, hexchanges]
  refine ⟨thermalStatus fanSpeed none estimated, rfl, ?_⟩
  cases estimated with
  | some degrees =>
      obtain ⟨n, hread, hnonneg, rfl⟩ := estimatedTemperature_eq_some_iff.1 hlevel
      exact .estimated hnone hread hnonneg
  | none =>
      refine .unknown hnone ?_
      intro n hread
      apply Int.not_le.1
      intro hnonneg
      cases hlevel.symm.trans (estimatedTemperature_eq_some_iff.2 ⟨n, hread, hnonneg, rfl⟩)

/-- A temperature is got in one of these ways when no probe breaks down. -/
theorem warmed_warm {fanSpeed : UInt32}
    (hsound : (transcript (warm station.watched fanSpeed) session).Sound) :
    ∃ status, (warm station fanSpeed session).1 = .ok status ∧
      Warmed fanSpeed (transcript (warm station.watched fanSpeed) session).exchanges status := by
  obtain ⟨measured, after, hmeasured, hrest, htold⟩ :=
    (unguarded_measuredTemperature station).sound_bind
      (fun measured => (unguarded_fallBack station fanSpeed measured).watches) hsound
  obtain ⟨answer, hanswer, hasked⟩ := askAndRead_ok .temperature hmeasured
  have hrun : warm station fanSpeed session = fallBack station fanSpeed measured after :=
    run_bind_ok hmeasured _
  have hexchanges : (transcript (warm station.watched fanSpeed) session).exchanges =
      .temperature (.ok answer) ::
        (transcript (fallBack station.watched fanSpeed measured) after).exchanges :=
    (congrArg Transcript.exchanges htold).trans (congrArg (· ++ _) hasked)
  rw [hrun, hexchanges]
  -- what the sensor gave decides whether there is another question
  cases measured with
  | some degrees =>
      obtain ⟨n, hread, hpos, rfl⟩ := batteryTemperature_eq_some_iff.1 hanswer
      exact ⟨_, rfl, .measured hread hpos⟩
  | none =>
      refine warmed_fallBack ?_ hrest
      intro m hread
      apply Int.not_lt.1
      intro hpos
      cases hanswer.symm.trans (batteryTemperature_eq_some_iff.2 ⟨m, hread, hpos, rfl⟩)

/-- A round of fan and temperature looks up the power profile and then gets a temperature. -/
theorem warmed_thermal (hsound : (transcript (thermal station.watched) session).Sound) :
    ∃ profile later status, (powerText station session).1 = .ok profile ∧
      (thermal station session).1 = .ok status ∧
      (transcript (thermal station.watched) session).exchanges =
        (lookTold station session).exchanges ++ later ∧
      Warmed ((Report.fanSpeed profile).getD 0) later status := by
  obtain ⟨profile, after, hlook, hrest, htold⟩ :=
    (unguarded_powerText station).sound_bind
      (fun profile => (unguarded_warm station ((Report.fanSpeed profile).getD 0)).watches) hsound
  obtain ⟨status, hstatus, hwarmed⟩ := warmed_warm hrest
  have hrun : thermal station session = warm station ((Report.fanSpeed profile).getD 0) after :=
    run_bind_ok hlook _
  refine ⟨profile, _, status, congrArg Prod.fst hlook, ?_, ?_, hwarmed⟩
  · rw [hrun, hstatus]
  · refine (congrArg Transcript.exchanges htold).trans ?_
    rw [Transcript.exchanges_append, exchanges_powerText]

/-! ## What is asked and what is told -/

section

variable {fanSpeed : UInt32} {exchanges : List Exchange} {status : Thermal}

theorem Warmed.fanSpeed_eq (h : Warmed fanSpeed exchanges status) : status.fanSpeed = fanSpeed := by
  cases h <;> rfl

theorem Warmed.zero_of_none (h : Warmed fanSpeed exchanges status) (hnone : status.source = .none) :
    status.temperature = .zero := by
  cases h with
  | measured => cases hnone
  | estimated => cases hnone
  | unknown => rfl

/-- A temperature from a source is finite and positive. -/
theorem Warmed.isPositive (h : Warmed fanSpeed exchanges status) (hsource : status.source ≠ .none) :
    status.temperature.IsPositive := by
  cases h with
  | measured hread hpos =>
      dsimp only
      exact isPositive_batteryTemperature hpos hread.lt
  | estimated _ hread hnonneg =>
      dsimp only
      exact isPositive_estimatedTemperature hnonneg hread.lt
  | unknown => exact absurd rfl hsource

/-- A temperature is zero exactly when there is no source for it. -/
theorem Warmed.eq_zero_iff (h : Warmed fanSpeed exchanges status) :
    status.temperature.eq .zero = true ↔ status.source = .none := by
  constructor
  · intro hzero
    by_cases hsource : status.source = .none
    · exact hsource
    · rw [(h.isPositive hsource).eq_zero] at hzero
      cases hzero
  · intro hnone
    rw [h.zero_of_none hnone]
    rfl

/-- The status is empty exactly when there is neither a fan speed nor a source. -/
theorem Warmed.isEmpty_iff (h : Warmed fanSpeed exchanges status) :
    status.isEmpty = true ↔ status.fanSpeed = 0 ∧ status.source = .none := by
  rw [Thermal.isEmpty, Bool.and_eq_true, beq_iff_eq, h.eq_zero_iff]

/-- The sensor is asked once, and the thermal level once when the sensor gave nothing that is above
zero.  The status is told from what they answered. -/
theorem Warmed.layers (h : Warmed fanSpeed exchanges status) :
    ∃ (answer : Answer String) (levels : List (Answer String)),
      exchanges =
        .temperature (.ok answer) :: levels.map (fun level => .thermalLevel (.ok level)) ∧
      levels.length ≤ 1 ∧
      (levels ≠ [] ↔ ¬∃ n, Reads answer n ∧ 0 < n) ∧
      (∀ n, Reads answer n → 0 < n → status.source = .batterySensor ∧
        status.temperature = (Binary64.ofInt n).div (.ofInt 100)) ∧
      (status.source = .thermalLevel ↔ ∃ level ∈ levels, ∃ n, Reads level n ∧ 0 ≤ n) ∧
      (∀ level ∈ levels, ∀ n, Reads level n → 0 ≤ n →
        status.temperature = (Binary64.ofInt 45).add ((Binary64.ofInt n).mul Report.halfDegree)) ∧
      (levels ≠ [] → (∀ level ∈ levels, ∀ n, Reads level n → n < 0) →
        status.source = .none ∧ status.temperature = .zero) := by
  cases h with
  | @measured answer n hread hpos =>
      refine ⟨answer, [], rfl, by simp, ?_, ?_, by simp, by simp, by simp⟩
      · simpa using ⟨n, hread, hpos⟩
      · intro m hm _
        rw [hread.unique hm]
        exact ⟨rfl, rfl⟩
  | @estimated answer level n hnone hread hnonneg =>
      refine ⟨answer, [level], rfl, by simp, ?_, ?_, ?_, ?_, ?_⟩
      · simpa using hnone
      · intro m hm hpos
        exact absurd hpos (Int.not_lt.2 (hnone m hm))
      · simpa using ⟨n, hread, hnonneg⟩
      · intro other hother m hm _
        rw [List.mem_singleton.1 hother] at hm
        rw [hread.unique hm, ← Report.estimatedTemperature]
      · intro _ hlevel
        exact absurd hnonneg (Int.not_le.2 (hlevel level (by simp) n hread))
  | @unknown answer level hnone hlevel =>
      refine ⟨answer, [level], rfl, by simp, ?_, ?_, ?_, ?_, fun _ _ => ⟨rfl, rfl⟩⟩
      · simpa using hnone
      · intro m hm hpos
        exact absurd hpos (Int.not_lt.2 (hnone m hm))
      · simpa using hlevel
      · intro other hother m hm hnonneg
        rw [List.mem_singleton.1 hother] at hm
        exact absurd hnonneg (Int.not_le.2 (hlevel m hm))

end

/-- Fan and temperature are told whatever is kept and whatever the probes answer, as long as none
breaks down.  After the look at the power profile the sensor is asked once, and the thermal level
only when the sensor gave no whole number above zero.  The status tells the measured temperature
in the first case; the estimate exactly when there was a level that is not below zero; and nothing
otherwise.  The fan speed is the one of the power profile.  There is a temperature exactly when
there is a source, and it is finite and positive then, so that the status is empty exactly when
there is neither a fan speed nor a source. -/
theorem thermal_layers (hsound : (transcript (thermal station.watched) session).Sound) :
    ∃ (profile : String) (looks : List Exchange) (answer : Answer String)
      (levels : List (Answer String)) (status : Thermal),
      (powerText station session).1 = .ok profile ∧
      (thermal station session).1 = .ok status ∧
      (∀ exchange ∈ looks, exchange.isLook = true) ∧
      (transcript (thermal station.watched) session).exchanges =
        looks ++ .temperature (.ok answer) ::
          levels.map (fun level => .thermalLevel (.ok level)) ∧
      levels.length ≤ 1 ∧
      (levels ≠ [] ↔ ¬∃ n, Reads answer n ∧ 0 < n) ∧
      (∀ n, Reads answer n → 0 < n → status.source = .batterySensor ∧
        status.temperature = (Binary64.ofInt n).div (.ofInt 100)) ∧
      (status.source = .thermalLevel ↔ ∃ level ∈ levels, ∃ n, Reads level n ∧ 0 ≤ n) ∧
      (∀ level ∈ levels, ∀ n, Reads level n → 0 ≤ n →
        status.temperature = (Binary64.ofInt 45).add ((Binary64.ofInt n).mul Report.halfDegree)) ∧
      (levels ≠ [] → (∀ level ∈ levels, ∀ n, Reads level n → n < 0) →
        status.source = .none ∧ status.temperature = .zero) ∧
      status.fanSpeed = (Report.fanSpeed profile).getD 0 ∧
      (status.temperature.eq .zero = true ↔ status.source = .none) ∧
      (status.source ≠ .none → status.temperature.isFinite = true ∧
        Binary64.zero.lt status.temperature = true) ∧
      (status.isEmpty = true ↔ status.fanSpeed = 0 ∧ status.source = .none) := by
  obtain ⟨profile, later, status, hprofile, hstatus, hexchanges, hwarmed⟩ := warmed_thermal hsound
  obtain ⟨answer, levels, rfl, hlength, hlevels, hmeasured, hsource, hestimated, hunknown⟩ :=
    hwarmed.layers
  have hlooks := (look_powerText station session).isLook
  refine ⟨profile, _, answer, levels, status, hprofile, hstatus, hlooks, hexchanges, hlength,
    hlevels, hmeasured, hsource, hestimated, hunknown, hwarmed.fanSpeed_eq, hwarmed.eq_zero_iff,
    ?_, hwarmed.isEmpty_iff⟩
  intro hsome
  have hpositive := hwarmed.isPositive hsome
  exact ⟨hpositive.isFinite, hpositive.zero_lt⟩

end

/-- A prepared host whose sensor gives zero and whose thermal level is the greatest there is. -/
def hottestHost : Prepared where
  clock := 100
  drift := 7
  files := Files.emptyDirectory
  texts := [("temp", [.ok (.ok "0")]), ("level", [.ok (.ok " 9223372036854775807\n")])]
  supplies := []
  temperatures := []

/-- The greatest level leads to an estimate that is finite and positive. -/
theorem thermal_layers_hottest :
    let station := Prepared.station (Prepared.platform "Trial" true) 30
    let session := Session.start hottestHost
    (transcript (thermal station.watched) session).Sound ∧
      ∃ status, (thermal station session).1 = .ok status ∧ status.source = .thermalLevel ∧
        status.temperature.isFinite = true ∧ Binary64.zero.lt status.temperature = true := by
  intro station session
  have hsound : (transcript (thermal station.watched) session).Sound := by decide +kernel
  obtain ⟨_, _, _, _, status, -, hstatus, -, -, -, -, -, -, -, -, -, -, hwarm, -⟩ :=
    thermal_layers hsound
  have hsource : (thermal station session).1.toOption.map Thermal.source = some .thermalLevel := by
    decide +kernel
  rw [hstatus] at hsource
  have hlevel : status.source = .thermalLevel := Option.some.inj hsource
  refine ⟨hsound, status, hstatus, hlevel, hwarm ?_⟩
  rw [hlevel]
  decide

/-- The level 33 is estimated at 61.5 degrees, and the level 0 at 45. -/
example :
    Report.estimatedTemperature 33 = .ofBits 0x404EC00000000000 ∧
      Report.estimatedTemperature 0 = .ofInt 45 := by
  decide +kernel

end HostVitals.Collect
