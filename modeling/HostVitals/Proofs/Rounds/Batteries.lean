import HostVitals.Proofs.Rounds.Unguarded

/-!
# A round of batteries

The batteries are looked for in the fast report, with the power profile beside it, and then among
the power supplies.  Each of the three probes may answer, fail or break down, and whether the later
ones are asked at all depends on what the earlier ones said.  The search has two stages, and the
ways in which each of them may go are listed once.

Main results:

- `reported_reportedBatteries`, `searched_findBatteries`: the ways of the two stages.
- `batteries_answered`: what is answered, asked, noted and kept, in every case.
-/

namespace HostVitals.Collect

variable {σ : Type} {station : Station σ} {session : Session σ}

/-! ## The fast report -/

/-- A report tells of a battery when one of its lines has a percent sign. -/
def TellsOfBattery (report : String) : Prop :=
  ∃ line ∈ Text.lines report.toList, '%' ∈ line

/-- Batteries are found in a report exactly when it tells of one. -/
theorem batteries_eq_nil_iff (report : String) (power : Report.PowerData) :
    Report.batteries report power = [] ↔ ¬TellsOfBattery report := by
  simp [Report.batteries, TellsOfBattery, Report.hasPercent]

/-- The session after the fast report was asked for. -/
def afterReport (station : Station σ) (session : Session σ) : Session σ :=
  (ask station.platform.report session).2

/-- The ways in which the first stage may go: what it comes to, what is kept, and what is
exchanged. -/
inductive Reported (station : Station σ) (session : Session σ) :
    Except Breakdown (List Battery) → Cache → List Exchange → Prop
  | broken {breakdown : Breakdown}
      (hreport : (station.platform.report session.host).outcome = .error breakdown) :
      Reported station session (.error breakdown) session.cache [.report (.error breakdown)]
  | failed {failure : Failure}
      (hreport : (station.platform.report session.host).outcome = .ok (.error failure)) :
      Reported station session (.ok []) session.cache [.report (.ok (.error failure))]
  | answered {report : String} {look : Except Breakdown String} {after : Session σ}
      {result : Except Breakdown (List Battery)}
      (hreport : (station.platform.report session.host).outcome = .ok (.ok report))
      (hlook : powerText station (afterReport station session) = (look, after))
      (hresult : look.map (fun profile =>
        Report.batteries report (Report.powerData profile)) = result) :
      Reported station session result after.cache
        (.report (.ok (.ok report)) :: (lookTold station (afterReport station session)).exchanges)

theorem run_noteIfNone (found : List Battery) (session : Session σ) :
    (noteIfNone found session).1 = .ok found ∧
      (noteIfNone found session).2.cache = session.cache := by
  unfold noteIfNone
  cases found.isEmpty <;> exact ⟨rfl, rfl⟩

/-- A report is read once the power profile is got. -/
theorem run_readReport {look : Except Breakdown String} {after : Session σ} (report : String)
    (hlook : powerText station session = (look, after)) :
    (readReport station report session).1 =
        look.map (fun profile => Report.batteries report (Report.powerData profile)) ∧
      (readReport station report session).2.cache = after.cache := by
  cases look with
  | error breakdown =>
      have hdata : powerData station session = (.error breakdown, after) :=
        run_bind_error hlook _
      have hrun : readReport station report session = (.error breakdown, after) :=
        run_bind_error hdata _
      rw [hrun]
      exact ⟨rfl, rfl⟩
  | ok profile =>
      have hdata : powerData station session = (.ok (Report.powerData profile), after) :=
        run_bind_ok hlook _
      have hrun : readReport station report session =
          noteIfNone (Report.batteries report (Report.powerData profile)) after :=
        run_bind_ok hdata _
      rw [hrun]
      exact run_noteIfNone _ _

/-- The first stage goes in one of these ways. -/
theorem reported_reportedBatteries (station : Station σ) (session : Session σ) :
    Reported station session (reportedBatteries station session).1
      (reportedBatteries station session).2.cache
      (transcript (reportedBatteries station.watched) session).exchanges := by
  rcases hreport : (station.platform.report session.host).outcome with
    breakdown | failure | report
  · have hrun : reportedBatteries station session =
        (.error breakdown, afterReport station session) := run_ask_bind_error hreport _
    have hexchanges : (transcript (reportedBatteries station.watched) session).exchanges =
        [.report (.error breakdown)] := exchanges_ask_bind_error hreport _
    rw [hrun, hexchanges]
    exact .broken hreport
  · have hrun : reportedBatteries station session = (.ok [], _) := run_ask_bind_ok hreport _
    have hexchanges : (transcript (reportedBatteries station.watched) session).exchanges =
        [.report (.ok (.error failure))] :=
      (exchanges_ask_bind_ok hreport (silent_note_pure _ _ _).watches).trans
        (congrArg _ ((silent_note_pure _ _ _).exchanges _))
    rw [hrun, hexchanges]
    exact .failed hreport
  · have hrun : reportedBatteries station session =
        readReport station report (afterReport station session) := run_ask_bind_ok hreport _
    have hexchanges : (transcript (reportedBatteries station.watched) session).exchanges =
        .report (.ok (.ok report)) :: (lookTold station (afterReport station session)).exchanges :=
      (exchanges_ask_bind_ok hreport (unguarded_readReport station report).watches).trans
        (congrArg _ (exchanges_readReport station report _))
    rcases hlook : powerText station (afterReport station session) with ⟨look, after⟩
    rcases run_readReport report hlook with ⟨hresult, hcache⟩
    rw [hrun, hexchanges, hresult, hcache]
    exact .answered hreport hlook rfl

/-! ## The search -/

/-- The ways in which the search may go.  The power supplies are listed when the first stage came
to nothing. -/
inductive Searched (station : Station σ) (session : Session σ) :
    Except Breakdown (List Battery) → Cache → List Exchange → Prop
  | broken {breakdown : Breakdown} {kept : Cache} {exchanges : List Exchange}
      (hreported : Reported station session (.error breakdown) kept exchanges) :
      Searched station session (.error breakdown) kept exchanges
  | reported {found : List Battery} {kept : Cache} {exchanges : List Exchange}
      (hreported : Reported station session (.ok found) kept exchanges) (hfound : found ≠ []) :
      Searched station session (.ok found) kept exchanges
  | listed {kept : Cache} {exchanges : List Exchange}
      {supplies : Except Breakdown (List Report.Supply)} {result : Except Breakdown (List Battery)}
      (hreported : Reported station session (.ok []) kept exchanges)
      (hresult : supplies.map (List.map Report.Supply.toBattery) = result) :
      Searched station session result kept (exchanges ++ [.supplies supplies])

/-- The list of power supplies is a question of its own, which does not touch the cache. -/
theorem run_suppliedBatteries (station : Station σ) (session : Session σ) :
    (suppliedBatteries station session).1 =
        (station.platform.supplies session.host).outcome.map
          (List.map Report.Supply.toBattery) ∧
      (suppliedBatteries station session).2.cache = session.cache := by
  rcases h : (station.platform.supplies session.host).outcome with breakdown | entries
  · have hrun : suppliedBatteries station session =
        (.error breakdown, (ask station.platform.supplies session).2) := run_ask_bind_error h _
    rw [hrun]
    exact ⟨rfl, rfl⟩
  · have hrun : suppliedBatteries station session =
        (.ok (entries.map Report.Supply.toBattery), (ask station.platform.supplies session).2) :=
      run_ask_bind_ok h _
    rw [hrun]
    exact ⟨rfl, rfl⟩

/-- The search goes in one of these ways. -/
theorem searched_findBatteries (station : Station σ) (session : Session σ) :
    Searched station session (findBatteries station session).1
      (findBatteries station session).2.cache
      (transcript (findBatteries station.watched) session).exchanges := by
  have hreported := reported_reportedBatteries station session
  have hwatches := (unguarded_reportedBatteries station).watches
  rcases hstage : reportedBatteries station session with ⟨breakdown | found, before⟩
  · have hrun : findBatteries station session = (.error breakdown, before) :=
      run_bind_error hstage _
    have htold : transcript (findBatteries station.watched) session =
        transcript (reportedBatteries station.watched) session :=
      hwatches.transcript_bind_error hstage _
    rw [hstage] at hreported
    rw [hrun, htold]
    exact .broken hreported
  · rw [hstage] at hreported
    cases found with
    | nil =>
        have hrun : findBatteries station session = suppliedBatteries station before :=
          run_bind_ok hstage _
        have htold : transcript (findBatteries station.watched) session =
            transcript (reportedBatteries station.watched) session ++
              transcript (suppliedBatteries station.watched) before :=
          hwatches.transcript_bind_ok hstage (unguarded_suppliedBatteries station).watches
        rcases run_suppliedBatteries station before with ⟨hresult, hcache⟩
        rw [hrun, htold, hresult, hcache, Transcript.exchanges_append,
          exchanges_suppliedBatteries]
        exact .listed hreported rfl
    | cons first found =>
        have hrun : findBatteries station session = (.ok (first :: found), before) :=
          run_bind_ok hstage _
        have htold : transcript (findBatteries station.watched) session =
            transcript (reportedBatteries station.watched) session ++
              transcript (pure (first :: found) : Collect (Watched σ) _) before :=
          hwatches.transcript_bind_ok hstage (tells_pure _).watches
        rw [hrun, htold, (tells_pure _).transcript before, Transcript.append_empty]
        exact .reported hreported (by simp)

/-! ## What is exchanged -/

/-- The lists of power supplies among exchanges. -/
def listsIn (exchanges : List Exchange) : List (Except Breakdown (List Report.Supply)) :=
  exchanges.filterMap (fun exchange => match exchange with
    | .supplies outcome => some outcome
    | _ => none)

@[simp] theorem listsIn_append (first second : List Exchange) :
    listsIn (first ++ second) = listsIn first ++ listsIn second :=
  List.filterMap_append

/-- A look at the power profile lists no power supplies. -/
theorem listsIn_of_isLook {exchanges : List Exchange}
    (h : ∀ exchange ∈ exchanges, exchange.isLook = true) : listsIn exchanges = [] := by
  rw [listsIn, List.filterMap_eq_nil_iff]
  intro exchange hexchange
  have hlook := h exchange hexchange
  cases exchange <;> first | rfl | cases hlook

section

variable {result : Except Breakdown (List Battery)} {kept : Cache} {exchanges : List Exchange}

/-- The report is asked for first, and only a report that was given leads to a look at the power
profile. -/
theorem Reported.report_first (h : Reported station session result kept exchanges) :
    ∃ looks, exchanges = .report (station.platform.report session.host).outcome :: looks ∧
      (∀ exchange ∈ looks, exchange.isLook = true) ∧
      (looks ≠ [] →
        ∃ report, (station.platform.report session.host).outcome = .ok (.ok report)) := by
  cases h with
  | broken hreport => exact ⟨[], by rw [hreport], by simp, by simp⟩
  | failed hreport => exact ⟨[], by rw [hreport], by simp, by simp⟩
  | @answered report look after _ hreport hlook =>
      have hlooks := (look_powerText station (afterReport station session)).isLook
      exact ⟨_, by rw [hreport], hlooks, fun _ => ⟨report, hreport⟩⟩

/-- The search asks for the report first, then looks at the power profile if there was a report, and
lists the power supplies last. -/
theorem Searched.shape (h : Searched station session result kept exchanges) :
    ∃ (looks : List Exchange) (lists : List (Except Breakdown (List Report.Supply))), exchanges =
        .report (station.platform.report session.host).outcome :: (looks ++ lists.map .supplies) ∧
      (∀ exchange ∈ looks, exchange.isLook = true) ∧
      (looks ≠ [] →
        ∃ report, (station.platform.report session.host).outcome = .ok (.ok report)) := by
  cases h with
  | broken hreported =>
      obtain ⟨looks, rfl, hlooks⟩ := hreported.report_first
      exact ⟨looks, [], by simp, hlooks⟩
  | reported hreported =>
      obtain ⟨looks, rfl, hlooks⟩ := hreported.report_first
      exact ⟨looks, [], by simp, hlooks⟩
  | @listed _ _ supplies _ hreported =>
      obtain ⟨looks, rfl, hlooks⟩ := hreported.report_first
      exact ⟨looks, [supplies], by simp, hlooks⟩

/-- The report among the exchanges of the search is the one that was given. -/
theorem Searched.mem_report_iff (h : Searched station session result kept exchanges)
    {outcome : Except Breakdown (Answer String)} :
    .report outcome ∈ exchanges ↔ (station.platform.report session.host).outcome = outcome := by
  obtain ⟨looks, lists, rfl, hlooks, -⟩ := h.shape
  simp only [List.mem_cons, Exchange.report.injEq, List.mem_append, List.mem_map]
  constructor
  · rintro (heq | hlook | ⟨_, _, hsupplies⟩)
    · exact heq.symm
    · cases hlooks _ hlook
    · cases hsupplies
  · intro heq
    exact .inl heq.symm

/-- The power profile is asked for only after a report that was given. -/
theorem Searched.report_of_look (h : Searched station session result kept exchanges) :
    ∃ later, exchanges = .report (station.platform.report session.host).outcome :: later ∧
      ((∃ exchange ∈ later, exchange.isLook = true) →
        ∃ report, (station.platform.report session.host).outcome = .ok (.ok report)) := by
  obtain ⟨looks, lists, rfl, -, hlook⟩ := h.shape
  refine ⟨_, rfl, ?_⟩
  rintro ⟨exchange, hexchange, hlooked⟩
  simp only [List.mem_append, List.mem_map] at hexchange
  rcases hexchange with hexchange | ⟨_, _, rfl⟩
  · exact hlook (List.ne_nil_of_mem hexchange)
  · cases hlooked

/-- The first stage lists no power supplies. -/
theorem Reported.listsIn_eq_nil (h : Reported station session result kept exchanges) :
    listsIn exchanges = [] := by
  obtain ⟨looks, rfl, hlooks, -⟩ := h.report_first
  change listsIn looks = []
  exact listsIn_of_isLook hlooks

/-- A report that was given is read with the power profile that the look at it gave. -/
theorem Reported.eq_of_report (h : Reported station session result kept exchanges) {report : String}
    (hreport : (station.platform.report session.host).outcome = .ok (.ok report)) :
    result = (powerText station (afterReport station session)).1.map (fun profile =>
      Report.batteries report (Report.powerData profile)) := by
  cases h with
  | broken hbroken => simp [hreport] at hbroken
  | failed hfailed => simp [hreport] at hfailed
  | answered hanswered hlook hresult =>
      rw [hreport] at hanswered
      cases hanswered
      rw [← hresult, hlook]

/-- Nothing is found at the first stage exactly when there is no report that tells of a battery. -/
theorem Reported.eq_nil_iff {found : List Battery}
    (h : Reported station session (.ok found) kept exchanges) :
    found = [] ↔ ∀ report, (station.platform.report session.host).outcome = .ok (.ok report) →
      ¬TellsOfBattery report := by
  cases h with
  | failed hfailed => simp [hfailed]
  | @answered report look _ _ hreport _ hresult =>
      cases look with
      | error breakdown => cases hresult
      | ok profile =>
          cases hresult
          rw [batteries_eq_nil_iff, hreport]
          simp

/-- With a report that tells of a battery the search stops at the report. -/
theorem Searched.of_tells {found : List Battery}
    (h : Searched station session (.ok found) kept exchanges) {report : String}
    (hreport : (station.platform.report session.host).outcome = .ok (.ok report))
    (htells : TellsOfBattery report) :
    Reported station session (.ok found) kept exchanges ∧ found ≠ [] := by
  cases h with
  | reported hreported hfound => exact ⟨hreported, hfound⟩
  | listed hreported => exact absurd htells (hreported.eq_nil_iff.1 rfl report hreport)

/-- Without a report that tells of a battery the search goes on to list the power supplies. -/
theorem Searched.of_not_tells {found : List Battery}
    (h : Searched station session (.ok found) kept exchanges)
    (htells : ∀ report, (station.platform.report session.host).outcome = .ok (.ok report) →
      ¬TellsOfBattery report) :
    ∃ entries, listsIn exchanges = [.ok entries] ∧ found = entries.map Report.Supply.toBattery := by
  cases h with
  | reported hreported hfound => exact absurd (hreported.eq_nil_iff.2 htells) hfound
  | @listed _ _ supplies _ hreported hresult =>
      cases supplies with
      | error breakdown => cases hresult
      | ok entries =>
          cases hresult
          refine ⟨entries, ?_, rfl⟩
          rw [listsIn_append, hreported.listsIn_eq_nil]
          rfl

/-- When the report or the look at the power profile breaks down, the cache is as it was before. -/
theorem Reported.cache_of_broken (h : Reported station session result kept exchanges)
    {exchange : Exchange} (hexchange : exchange ∈ exchanges) {breakdown : Breakdown}
    (hbroken : exchange.breakdown = some breakdown) : kept = session.cache := by
  cases h with
  | broken => rfl
  | failed => rfl
  | @answered report look after _ hreport hlook hresult =>
      have hlooked := look_powerText station (afterReport station session)
      rw [hlook] at hlooked
      rcases List.mem_cons.1 hexchange with rfl | hexchange
      · cases hbroken
      · exact hlooked.cache_of_broken (hlooked.broken_iff.2 ⟨exchange, hexchange, hbroken⟩)

/-- A breakdown before the power supplies are listed leaves the cache as it was before. -/
theorem Searched.cache_of_broken (h : Searched station session result kept exchanges)
    {exchange : Exchange} (hexchange : exchange ∈ exchanges) {breakdown : Breakdown}
    (hbroken : exchange.breakdown = some breakdown)
    (hlist : ∀ outcome, exchange ≠ .supplies outcome) :
    kept = session.cache := by
  cases h with
  | broken hreported => exact hreported.cache_of_broken hexchange hbroken
  | reported hreported => exact hreported.cache_of_broken hexchange hbroken
  | listed hreported =>
      rcases List.mem_append.1 hexchange with hexchange | hexchange
      · exact hreported.cache_of_broken hexchange hbroken
      · exact absurd (List.mem_singleton.1 hexchange) (hlist _)

end

/-- The power supplies are listed without touching the cache. -/
theorem cache_findBatteries (station : Station σ) (session : Session σ) :
    (findBatteries station session).2.cache = (reportedBatteries station session).2.cache := by
  rcases hstage : reportedBatteries station session with ⟨breakdown | found, before⟩
  · have hrun : findBatteries station session = (.error breakdown, before) :=
      run_bind_error hstage _
    rw [hrun]
  · cases found with
    | nil =>
        have hrun : findBatteries station session = suppliedBatteries station before :=
          run_bind_ok hstage _
        rw [hrun, (run_suppliedBatteries station before).2]
    | cons first found =>
        have hrun : findBatteries station session = (.ok (first :: found), before) :=
          run_bind_ok hstage _
        rw [hrun]

/-! ## Behind the guard -/

/-- What is exchanged behind the guard is what is exchanged during the search. -/
theorem exchanges_batteries (station : Station σ) (session : Session σ) :
    (transcript (batteries station.watched) session).exchanges =
      (transcript (findBatteries station.watched) session).exchanges := by
  rw [(tells_batteries station).transcript session, batteriesTold, Transcript.exchanges_append]
  cases (findBatteries station session).1 <;> exact List.append_nil _

theorem cache_batteries (station : Station σ) (session : Session σ) :
    (batteries station session).2.cache = (findBatteries station session).2.cache := by
  rcases hfound : findBatteries station session with ⟨breakdown | found, after⟩
  · rw [run_batteries_error hfound]
  · rw [run_batteries_ok hfound]

/-- The answer tells of a breakdown exactly when the search broke down, and then by its reason. -/
theorem batteries_broken_iff (station : Station σ) (session : Session σ) (reason : String) :
    (batteries station session).1 = .error (.batteryCollection reason) ↔
      ∃ breakdown, (findBatteries station session).1 = .error breakdown ∧
        breakdown.reason = reason := by
  rcases hfound : findBatteries station session with ⟨breakdown | found, after⟩
  · rw [run_batteries_error hfound]
    simp
  · rw [run_batteries_ok hfound, batteryAnswer]
    cases found.isEmpty <;> simp

/-- A breakdown of a probe that is asked behind the guard is the answer. -/
theorem batteries_of_broken {exchange : Exchange} {breakdown : Breakdown}
    (hexchange : exchange ∈ (transcript (batteries station.watched) session).exchanges)
    (hbroken : exchange.breakdown = some breakdown) :
    (batteries station session).1 = .error (.batteryCollection breakdown.reason) := by
  rw [exchanges_batteries] at hexchange
  rw [batteries_broken_iff]
  exact ⟨breakdown, ((unguarded_findBatteries station).broken_iff session breakdown).2
    ⟨exchange, hexchange, hbroken⟩, rfl⟩

/-- A search that broke down is warned of once. -/
theorem warnings_batteries {breakdown : Breakdown}
    (h : (findBatteries station session).1 = .error breakdown) :
    (transcript (batteries station.watched) session).notes.filter
        (fun record => record.level = .warn) =
      [⟨.warn, "Battery probe panicked: " ++ breakdown.reason⟩] := by
  have hlevel := (unguarded_findBatteries station).level session
  have hquiet : (transcript (findBatteries station.watched) session).notes.filter
      (fun record => record.level = .warn) = [] := by
    rw [List.filter_eq_nil_iff]
    intro record hrecord
    rw [hlevel record hrecord]
    simp
  rw [(tells_batteries station).transcript session, batteriesTold, h, Transcript.notes_append,
    List.filter_append, hquiet]
  rfl

/-- A breakdown gives the message that was left as its reason, and a fixed one when there was
none. -/
theorem reason_eq_iff (breakdown : Breakdown) (reason : String) :
    breakdown.reason = reason ↔
      breakdown = .told reason ∨ reason = "unknown panic" ∧ breakdown = .untold := by
  cases breakdown <;> simp [Breakdown.reason, eq_comm]

theorem searched_batteries (station : Station σ) (session : Session σ) :
    Searched station session (findBatteries station session).1
      (batteries station session).2.cache
      (transcript (batteries station.watched) session).exchanges := by
  rw [exchanges_batteries, cache_batteries]
  exact searched_findBatteries station session

section

variable (hsound : (transcript (batteries station.watched) session).Sound)

include hsound

/-- The search comes to its end when no probe breaks down. -/
theorem answer_of_sound : ∃ found, (findBatteries station session).1 = .ok found ∧
    (batteries station session).1 = batteryAnswer found := by
  rw [Transcript.Sound, exchanges_batteries] at hsound
  obtain ⟨found, after, hfound⟩ := (unguarded_findBatteries station).ok_of_sound hsound
  exact ⟨found, by rw [hfound], congrArg Prod.fst (run_batteries_ok hfound)⟩

/-- A report that tells of a battery decides, with the power profile that is looked up after it. -/
theorem answer_of_report {report : String}
    (hreport : .report (.ok (.ok report)) ∈
      (transcript (batteries station.watched) session).exchanges)
    (htells : TellsOfBattery report) :
    ∃ profile, (powerText station (afterReport station session)).1 = .ok profile ∧
      (batteries station session).1 = .ok (Report.batteries report (Report.powerData profile)) ∧
      listsIn (transcript (batteries station.watched) session).exchanges = [] := by
  have hsearched := searched_batteries station session
  obtain ⟨found, hfound, hanswer⟩ := answer_of_sound hsound
  rw [hfound] at hsearched
  have hgiven := hsearched.mem_report_iff.1 hreport
  obtain ⟨hreported, hne⟩ := hsearched.of_tells hgiven htells
  have hread := hreported.eq_of_report hgiven
  rcases hlook : (powerText station (afterReport station session)).1 with breakdown | profile
  · rw [hlook] at hread
    cases hread
  · rw [hlook] at hread
    cases hread
    refine ⟨profile, rfl, ?_, hreported.listsIn_eq_nil⟩
    rw [hanswer, batteryAnswer, List.isEmpty_eq_false_iff.2 hne]
    rfl

/-- Without such a report the power supplies are listed once, and decide. -/
theorem answer_of_supplies
    (htells : ∀ report, .report (.ok (.ok report)) ∈
      (transcript (batteries station.watched) session).exchanges → ¬TellsOfBattery report) :
    ∃ entries, listsIn (transcript (batteries station.watched) session).exchanges = [.ok entries] ∧
      (entries ≠ [] → (batteries station session).1 = .ok (entries.map Report.Supply.toBattery)) ∧
      ((batteries station session).1 = .error .noBatteryData ↔ entries = []) := by
  have hsearched := searched_batteries station session
  obtain ⟨found, hfound, hanswer⟩ := answer_of_sound hsound
  rw [hfound] at hsearched
  obtain ⟨entries, hlists, rfl⟩ := hsearched.of_not_tells (fun report hgiven =>
    htells report (hsearched.mem_report_iff.2 hgiven))
  refine ⟨entries, hlists, ?_, ?_⟩
  · intro hne
    simp [hanswer, batteryAnswer, hne]
  · rw [hanswer, batteryAnswer]
    cases entries <;> simp

end

/-- The answer tells of a breakdown exactly when a probe that is asked breaks down, and then by the
message that was left. -/
theorem answer_broken_iff (station : Station σ) (session : Session σ) (reason : String) :
    (batteries station session).1 = .error (.batteryCollection reason) ↔
      ∃ exchange ∈ (transcript (batteries station.watched) session).exchanges,
        exchange.breakdown = some (.told reason) ∨
          reason = "unknown panic" ∧ exchange.breakdown = some .untold := by
  have hbroken := (unguarded_findBatteries station).broken_iff session
  rw [← exchanges_batteries] at hbroken
  rw [batteries_broken_iff]
  constructor
  · rintro ⟨breakdown, hfound, hreason⟩
    obtain ⟨exchange, hexchange, hbreaks⟩ := (hbroken breakdown).1 hfound
    refine ⟨exchange, hexchange, ?_⟩
    rcases (reason_eq_iff breakdown reason).1 hreason with rfl | ⟨hunknown, rfl⟩
    · exact .inl hbreaks
    · exact .inr ⟨hunknown, hbreaks⟩
  · rintro ⟨exchange, hexchange, hbreaks | ⟨rfl, hbreaks⟩⟩
    · exact ⟨_, (hbroken _).2 ⟨exchange, hexchange, hbreaks⟩, rfl⟩
    · exact ⟨_, (hbroken _).2 ⟨exchange, hexchange, hbreaks⟩, rfl⟩

/-- Collecting the batteries always gives an answer, and never an empty list.  As long as no probe
that is asked breaks down: a report that tells of a battery decides, with the power profile that is
looked up after it, and the power supplies are not listed; without such a report they are listed
once, and there is one battery for each of them, or no data when there are none.  The power profile
is looked up only after a report that was given.  A breakdown is the answer exactly when a probe
that is asked breaks down; it is told by the message that was left, warned of once, and what is
kept is what was kept before that probe was asked. -/
theorem batteries_answered (station : Station σ) (session : Session σ) :
    let answer := (batteries station session).1
    let kept := (batteries station session).2.cache
    let told := transcript (batteries station.watched) session
    answer ≠ .ok [] ∧
      (told.Sound →
        ∀ report, .report (.ok (.ok report)) ∈ told.exchanges → TellsOfBattery report →
          ∃ profile, (powerText station (afterReport station session)).1 = .ok profile ∧
            answer = .ok (Report.batteries report (Report.powerData profile)) ∧
            listsIn told.exchanges = []) ∧
      (told.Sound →
        (∀ report, .report (.ok (.ok report)) ∈ told.exchanges → ¬TellsOfBattery report) →
          ∃ entries, listsIn told.exchanges = [.ok entries] ∧
            (entries ≠ [] → answer = .ok (entries.map Report.Supply.toBattery)) ∧
            (answer = .error .noBatteryData ↔ entries = [])) ∧
      (∃ outcome later, told.exchanges = .report outcome :: later ∧
        ((∃ exchange ∈ later, exchange.isLook = true) → ∃ report, outcome = .ok (.ok report))) ∧
      (∀ reason, answer = .error (.batteryCollection reason) ↔
        ∃ exchange ∈ told.exchanges, exchange.breakdown = some (.told reason) ∨
          reason = "unknown panic" ∧ exchange.breakdown = some .untold) ∧
      (∀ reason, answer = .error (.batteryCollection reason) →
        told.notes.filter (fun record => record.level = .warn) =
          [⟨.warn, "Battery probe panicked: " ++ reason⟩]) ∧
      (∀ breakdown,
        (.report (.error breakdown) ∈ told.exchanges → kept = session.cache) ∧
        (.profile (.error breakdown) ∈ told.exchanges → kept = session.cache) ∧
        (.supplies (.error breakdown) ∈ told.exchanges →
          kept = (reportedBatteries station session).2.cache)) := by
  intro answer kept told
  have hsearched := searched_batteries station session
  refine ⟨batteries_ne_nil station session, ?_, answer_of_supplies, ?_,
    answer_broken_iff station session, ?_, ?_⟩
  · intro hsound report hreport htells
    exact answer_of_report hsound hreport htells
  · obtain ⟨later, hlater, hlook⟩ := hsearched.report_of_look
    exact ⟨_, later, hlater, hlook⟩
  · intro reason hreason
    obtain ⟨breakdown, hfound, rfl⟩ := (batteries_broken_iff station session reason).1 hreason
    exact warnings_batteries hfound
  · intro breakdown
    refine ⟨?_, ?_, ?_⟩
    · intro hreport
      exact hsearched.cache_of_broken hreport rfl (by simp)
    · intro hprofile
      exact hsearched.cache_of_broken hprofile rfl (by simp)
    · intro _
      exact (cache_batteries station session).trans (cache_findBatteries station session)

end HostVitals.Collect
