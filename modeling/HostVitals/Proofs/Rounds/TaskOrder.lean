import Mathlib.Tactic.Choose
import HostVitals.Proofs.Rounds.Steady

/-!
# The order of tasks

A station is given tasks one after another: to collect batteries, fan and temperature or sensor
readings, or to get the power profile.  Several of them look through the same cache, and each of
them may be the first to do so.  On a steady host that makes no difference.

Main results:

- `settled_run`: every task is settled.
- `findings_settled`: what comes of tasks in a calm session, and what is kept after them.
- `findings_perm`: every task comes to the same in any order, and what is kept in the end is the
  same.
-/

namespace HostVitals.Collect

variable {σ α β : Type}

/-! ## Tasks -/

/-- What a station may be given to do. -/
inductive Task where
  | batteries
  | thermal
  | sensors
  | powerText
  | powerData
  deriving DecidableEq

/-- What came of a task: something given, a failure or a breakdown. -/
inductive Finding where
  | batteries (answer : Answer (List Battery))
  | thermal (outcome : Except Breakdown Thermal)
  | sensors (outcome : Except Breakdown (Answer (List Reading)))
  | powerText (outcome : Except Breakdown String)
  | powerData (outcome : Except Breakdown Report.PowerData)

/-- Work as work on a task. -/
def finding (wrap : α → Finding) (work : Session σ → α × Session σ) (session : Session σ) :
    Finding × Session σ :=
  let (a, session) := work session
  (wrap a, session)

/-- Does a task. -/
def Task.run (station : Station σ) : Task → Session σ → Finding × Session σ
  | .batteries => finding .batteries (Collect.batteries station)
  | .thermal => finding .thermal (Collect.thermal station)
  | .sensors => finding .sensors (Collect.sensors station)
  | .powerText => finding .powerText (Collect.powerText station)
  | .powerData => finding .powerData (Collect.powerData station)

/-- Does tasks one after another.  A task that breaks down does not keep the others from being
done. -/
def findings (station : Station σ) : Session σ → List Task → List Finding × Session σ
  | session, [] => ([], session)
  | session, task :: tasks =>
    let (first, session) := task.run station session
    let (rest, session) := findings station session tasks
    (first :: rest, session)

/-! ## Tasks on a steady host -/

section

variable {station : Station σ} {hosts : σ → Prop} {now : Nat} {replies : Replies}

/-- Settled work is a settled task. -/
theorem Settled.finding {old new : Cache} {work : Session σ → α × Session σ}
    (hwork : Settled hosts old new work) (wrap : α → Finding) :
    Settled hosts old new (finding wrap work) := by
  rcases hwork with ⟨outcome, looks, hrun⟩
  refine ⟨wrap outcome, looks, ?_⟩
  intro session hcalm
  rcases hrun session hcalm with ⟨houtcome, hhost, hcache⟩
  exact ⟨congrArg wrap houtcome, hhost, hcache⟩

/-- Every task is settled. -/
theorem settled_run (hsteady : Steady station hosts now replies) (old : Cache) (task : Task) :
    Settled hosts old (keptAfter station now replies old) (task.run station) := by
  cases task with
  | batteries => exact (settled_batteries hsteady).finding _
  | thermal => exact (settled_thermal hsteady).finding _
  | sensors => exact (settled_sensors hsteady).finding _
  | powerText => exact (settled_powerText hsteady).finding _
  | powerData => exact (settled_powerData hsteady).finding _

/-- Tasks that come to the same in all calm sessions do so one after another, and what is kept in
the end depends only on whether one of them looks through the cache. -/
theorem findings_of_settled {old new : Cache} {outcome : Task → Finding} {looks : Task → Bool}
    (hrun : ∀ task session, Calm hosts old new session →
      (Task.run station task session).1 = outcome task ∧
        hosts (Task.run station task session).2.host ∧
        (Task.run station task session).2.cache = if looks task then new else session.cache)
    (tasks : List Task) {session : Session σ} (hcalm : Calm hosts old new session) :
    (findings station session tasks).1 = tasks.map outcome ∧
      (findings station session tasks).2.cache =
        if tasks.any looks then new else session.cache := by
  induction tasks generalizing session with
  | nil => exact ⟨rfl, rfl⟩
  | cons task tasks ih =>
      rcases hrun task session hcalm with ⟨houtcome, hhost, hcache⟩
      rcases ih (hcalm.after hhost hcache) with ⟨hrest, hkept⟩
      constructor
      · simp only [findings, List.map_cons, houtcome, hrest]
      · simp only [findings, List.any_cons, hkept, hcache]
        by_cases hlooks : looks task = true <;> simp [hlooks]

/-- What comes of tasks on a steady host: each comes to what it would come to alone, and what is
kept in the end depends only on whether one of them looks through the cache. -/
theorem findings_settled (hsteady : Steady station hosts now replies) {session : Session σ}
    (hhost : hosts session.host) :
    ∃ looks : Task → Bool, ∀ tasks,
      (findings station session tasks).1 =
          tasks.map (fun task => (task.run station session).1) ∧
        (findings station session tasks).2.cache =
          if tasks.any looks then keptAfter station now replies session.cache
          else session.cache := by
  have hcalm : Calm hosts session.cache (keptAfter station now replies session.cache) session :=
    ⟨hhost, .inl rfl⟩
  choose outcome looks hrun using settled_run hsteady session.cache
  have halone : (fun task => (Task.run station task session).1) = outcome := by
    funext task
    exact (hrun task session hcalm).1
  refine ⟨looks, ?_⟩
  intro tasks
  rw [halone]
  exact findings_of_settled hrun tasks hcalm

/-- On a steady host, with anything kept at the start and any time to live, tasks come to the same
in any order: each to what it would come to alone, be it something given, a failure or a breakdown.
What is kept in the end, text and clock reading, is the same too. -/
theorem findings_perm (hsteady : Steady station hosts now replies) {session : Session σ}
    (hhost : hosts session.host) {tasks others : List Task} (hperm : tasks.Perm others) :
    (findings station session tasks).1 = tasks.map (fun task => (task.run station session).1) ∧
      (findings station session others).1 =
        others.map (fun task => (task.run station session).1) ∧
      (findings station session tasks).2.cache = (findings station session others).2.cache := by
  rcases findings_settled hsteady hhost with ⟨looks, hfindings⟩
  rcases hfindings tasks with ⟨htasks, hcache⟩
  rcases hfindings others with ⟨hothers, hcacheOthers⟩
  refine ⟨htasks, hothers, ?_⟩
  rw [hcache, hcacheOthers, hperm.any_eq]

end

/-- A prepared host whose sensor next to the battery breaks down and whose other probes give or
fail. -/
def ailingHost : Prepared where
  clock := 100
  drift := 0
  files := Files.emptyDirectory
  texts := [("temp", [.error (.told "sensor gone")]), ("profile", [.ok (.ok "new")])]
  supplies := []
  temperatures := [.ok (.error .noBatteryData)]

/-- Three tasks and a breakdown, with an old text kept at the start. -/
theorem findings_perm_ailing :
    let station := Prepared.station (Prepared.platform "Trial" true) 30
    let session : Session Prepared := ⟨ailingHost, some ⟨"old", 10⟩, []⟩
    let tasks : List Task := [.thermal, .sensors, .powerText]
    let others : List Task := [.powerText, .thermal, .sensors]
    (findings station session tasks).1 = tasks.map (fun task => (task.run station session).1) ∧
      (findings station session others).1 =
        others.map (fun task => (task.run station session).1) ∧
      (findings station session tasks).2.cache = (findings station session others).2.cache ∧
      (findings station session tasks).2.cache = some ⟨"new", 100⟩ := by
  intro station session tasks others
  have hsteady : Steady station (SameReplies ailingHost) 100 _ :=
    prepared_steady "Trial" true 30 (by decide) (by decide) (by decide)
  have hhost : SameReplies ailingHost session.host := ⟨rfl, rfl, fun _ => rfl, rfl, rfl⟩
  obtain ⟨htasks, hothers, hsame⟩ :=
    findings_perm hsteady hhost (List.perm_append_singleton .powerText [.thermal, .sensors])
  exact ⟨htasks, hothers, hsame, by decide +kernel⟩

end HostVitals.Collect
