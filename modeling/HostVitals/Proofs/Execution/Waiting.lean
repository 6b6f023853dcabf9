import HostVitals.Execution.Deadline
import Mathlib.Logic.Basic

/-!
# How long a process is waited for

The looks at a process stop soon after its time is over.  A process that has ended by then is done
with only when its output is closed, and that is up to all that hold it, also to those that it left
behind: no limit is set to that.

Main results:

- `reached_iff`: the states that waiting can reach, each told by the process and its limit alone.
- `answer_eq_some_iff`: what waiting gives is what the run of its steps ends with.
- `deadline_bounds_iff`: the looks are bounded by the limit and one interval, and the whole waiting
  is so exactly when the output of a process that ends in time is closed in time as well.
- `deadline_overrun`: an output that is held open for longer is waited for.
-/

namespace HostVitals.Execution

/-! ## What has happened -/

theorem happened_iff {time : Option Nat} {now : Nat} :
    happened time now = true ↔ ∃ t ∈ time, t ≤ now := by
  cases time <;> simp [happened]

theorem happened_eq_false_iff {time : Option Nat} {now : Nat} :
    happened time now = false ↔ ∀ t ∈ time, now < t := by
  cases time <;> simp [happened]

/-! ## Looks -/

/-- The number of looks before a time. -/
def looksBefore (time : Nat) : Nat :=
  (time + (lookInterval - 1)) / lookInterval

theorem firstLook_eq (time : Nat) : firstLook time = looksBefore time * lookInterval := rfl

/-- A look comes before a time exactly when it is one of the looks before it. -/
theorem lt_looksBefore_iff {look time : Nat} :
    look < looksBefore time ↔ look * lookInterval < time := by
  unfold looksBefore lookInterval
  omega

/-- A time is over at a look exactly when all looks before the time are. -/
theorem looksBefore_le_iff {look time : Nat} :
    looksBefore time ≤ look ↔ time ≤ look * lookInterval := by
  rw [← Nat.not_lt, ← Nat.not_lt, lt_looksBefore_iff]

/-- The first look after a time is over by another one exactly when the time is. -/
theorem firstLook_le_firstLook_iff {time limit : Nat} :
    firstLook time ≤ firstLook limit ↔ time ≤ firstLook limit :=
  calc firstLook time ≤ firstLook limit
    _ ↔ looksBefore time ≤ looksBefore limit :=
      Nat.mul_le_mul_right_iff (by decide : 0 < lookInterval)
    _ ↔ time ≤ firstLook limit := looksBefore_le_iff

/-! ## The states that are reached -/

section

variable {limit : Nat} {course : Course}

/-- The states of waiting by what happens outside: the looks go on until the process has ended or
its time is over, and then the output is waited for until it is closed. -/
inductive Passed (limit : Nat) (course : Course) : Wait → Prop
  | process {looks : Nat} (hlimit : looks ≤ looksBefore limit)
      (hends : ∀ last ∈ course.ends, looks ≤ looksBefore last) :
      Passed limit course (course.state .process (looks * lookInterval))
  | output {last later : Nat} (hends : last ∈ course.ends) (hlast : last ≤ firstLook limit)
      (hlater : firstLook last ≤ later)
      (hopen : ∀ now, firstLook last ≤ now → now < later → happened course.closes now = false) :
      Passed limit course (course.state .output later)
  | givenUp (hends : ∀ last ∈ course.ends, firstLook limit < last) :
      Passed limit course (course.state .done (firstLook limit))
  | closed {last later : Nat} (hends : last ∈ course.ends) (hlast : last ≤ firstLook limit)
      (hlater : firstLook last ≤ later)
      (hopen : ∀ now, firstLook last ≤ now → now < later → happened course.closes now = false)
      (hclosed : happened course.closes later = true) :
      Passed limit course (course.state .done later)

/-- A process that has ended at a look, but at none before, is seen at the first look after its
end. -/
theorem firstLook_of_seen {looks last : Nat} (hends : looks ≤ looksBefore last)
    (hended : last ≤ looks * lookInterval) : firstLook last = looks * lookInterval := by
  rw [firstLook_eq, Nat.le_antisymm (looksBefore_le_iff.2 hended) hends]

/-- Every step leads on to such a state. -/
theorem Passed.step {a b : Wait} (h : Passed limit course a) (hstep : Step limit course a b) :
    Passed limit course b := by
  cases h with
  | @process looks hlimit hends =>
      cases hstep with
      | ended _ hended =>
          obtain ⟨last, hlast, hle⟩ := happened_iff.1 hended
          have hseen := firstLook_of_seen (hends last hlast) hle
          have hintime : last ≤ firstLook limit :=
            Nat.le_trans hle (Nat.mul_le_mul_right lookInterval hlimit)
          refine .output hlast hintime (Nat.le_of_eq hseen) ?_
          intro now hnow hlater
          rw [hseen] at hnow
          exact absurd hlater (Nat.not_lt.2 hnow)
      | givenUp _ hended hover =>
          have hlooks : looks = looksBefore limit :=
            Nat.le_antisymm hlimit (looksBefore_le_iff.2 hover)
          subst hlooks
          exact .givenUp (happened_eq_false_iff.1 hended)
      | again _ hended hintime =>
          have hnext : looks * lookInterval + lookInterval = (looks + 1) * lookInterval :=
            (Nat.succ_mul looks lookInterval).symm
          simp only [Course.state, hnext]
          refine .process (lt_looksBefore_iff.2 hintime) ?_
          intro last hlast
          exact lt_looksBefore_iff.2 (happened_eq_false_iff.1 hended last hlast)
      | held hphase => cases hphase
      | closed hphase => cases hphase
  | @output last time hends hlast htime hopen =>
      cases hstep with
      | ended hphase => cases hphase
      | givenUp hphase => cases hphase
      | again hphase => cases hphase
      | held _ hlater hstill =>
          refine .output hends hlast (Nat.le_trans htime hlater) ?_
          intro now hnow hbefore
          by_cases hearlier : now < time
          · exact hopen now hnow hearlier
          · exact hstill now (Nat.not_lt.1 hearlier) hbefore
      | closed _ hclosed => exact .closed hends hlast htime hopen hclosed
  | givenUp => cases hstep <;> contradiction
  | closed => cases hstep <;> contradiction

/-- The process is looked at until it has ended or its time is over. -/
theorem reached_process {looks : Nat} (hlimit : looks ≤ looksBefore limit)
    (hends : ∀ last ∈ course.ends, looks ≤ looksBefore last) :
    Reached limit course (course.state .process (looks * lookInterval)) := by
  induction looks with
  | zero =>
      rw [Nat.zero_mul]
      exact .start
  | succ looks ih =>
      have hbefore := ih (Nat.le_of_succ_le hlimit)
        (fun last hlast => Nat.le_of_succ_le (hends last hlast))
      have hrunning : happened course.ends (looks * lookInterval) = false :=
        happened_eq_false_iff.2 (fun last hlast => lt_looksBefore_iff.1 (hends last hlast))
      rw [Nat.succ_mul]
      exact hbefore.step (.again rfl hrunning (lt_looksBefore_iff.1 hlimit))

/-- The first look after the end of a process is reached when it comes in time. -/
theorem reached_seen {last : Nat} (hends : last ∈ course.ends) (hlast : last ≤ firstLook limit) :
    Reached limit course (course.state .process (firstLook last)) := by
  refine reached_process (looksBefore_le_iff.2 hlast) ?_
  intro other hother
  cases Option.mem_unique hends hother
  exact Nat.le_refl _

/-- The output is waited for as long as it is open. -/
theorem reached_output {last later : Nat} (hends : last ∈ course.ends)
    (hlast : last ≤ firstLook limit) (hlater : firstLook last ≤ later)
    (hopen : ∀ now, firstLook last ≤ now → now < later → happened course.closes now = false) :
    Reached limit course (course.state .output later) := by
  have hended : happened course.ends (firstLook last) = true :=
    happened_iff.2 ⟨last, hends, le_firstLook last⟩
  have hseen := (reached_seen hends hlast).step (.ended rfl hended)
  exact hseen.step (.held rfl hlater hopen)

/-- The first look after the limit is reached when the process is running at it. -/
theorem reached_over (hends : ∀ last ∈ course.ends, firstLook limit < last) :
    Reached limit course (course.state .process (firstLook limit)) := by
  refine reached_process (Nat.le_refl _) ?_
  intro last hlast
  exact Nat.le_of_lt (lt_looksBefore_iff.2 (hends last hlast))

/-- The states that waiting can reach. -/
theorem reached_iff {wait : Wait} : Reached limit course wait ↔ Passed limit course wait := by
  constructor
  · intro h
    induction h with
    | start =>
        have hstart : Passed limit course (course.state .process (0 * lookInterval)) :=
          .process (Nat.zero_le _) (fun _ _ => Nat.zero_le _)
        rwa [Nat.zero_mul] at hstart
    | step _ hstep ih => exact ih.step hstep
  · intro h
    cases h with
    | process hlimit hends => exact reached_process hlimit hends
    | output hends hlast hlater hopen => exact reached_output hends hlast hlater hopen
    | givenUp hends =>
        have hrunning := happened_eq_false_iff.2 hends
        exact (reached_over hends).step (.givenUp rfl hrunning (le_firstLook limit))
    | closed hends hlast hlater hopen hclosed =>
        exact (reached_output hends hlast hlater hopen).step (.closed rfl hclosed)

/-- A process that is not seen to have ended when its time is over is running then. -/
theorem running_of_over {wait : Wait} (h : Reached limit course wait)
    (hphase : wait.phase = .process) (hended : wait.ended = false) (hlimit : limit ≤ wait.time) :
    ∀ last ∈ course.ends, firstLook limit < last := by
  cases reached_iff.1 h with
  | @process looks hlooks _ =>
      have hlook : looks = looksBefore limit :=
        Nat.le_antisymm hlooks (looksBefore_le_iff.2 hlimit)
      subst hlook
      exact happened_eq_false_iff.1 hended
  | output => cases hphase
  | givenUp => cases hphase
  | closed => cases hphase

/-- The output is waited for once the process is seen to have ended in time. -/
theorem ended_of_output {wait : Wait} (h : Reached limit course wait)
    (hphase : wait.phase = .output) : ∃ last ∈ course.ends, last ≤ firstLook limit := by
  cases reached_iff.1 h with
  | process => cases hphase
  | output hends hlast => exact ⟨_, hends, hlast⟩
  | givenUp => cases hphase
  | closed => cases hphase

/-- What is closed in a state was closed by its time. -/
theorem closes_of_closed {wait : Wait} (h : Reached limit course wait)
    (hclosed : wait.closed = true) : ∃ close ∈ course.closes, close ≤ wait.time := by
  cases reached_iff.1 h <;> exact happened_iff.1 hclosed

/-! ## Bounds -/

/-- The looks stop within one interval after the limit. -/
theorem time_lt_of_process {wait : Wait} (h : Reached limit course wait)
    (hphase : wait.phase = .process) : wait.time < limit + lookInterval := by
  cases reached_iff.1 h with
  | @process looks hlimit _ =>
      calc looks * lookInterval
        _ ≤ firstLook limit := Nat.mul_le_mul_right _ hlimit
        _ < limit + lookInterval := firstLook_lt limit
  | output => cases hphase
  | givenUp => cases hphase
  | closed => cases hphase

theorem firstLook_le_of_seen {last : Nat} (hlast : last ≤ firstLook limit) :
    firstLook last ≤ limit + lookInterval :=
  Nat.le_trans (firstLook_le_firstLook_iff.2 hlast) (Nat.le_of_lt (firstLook_lt limit))

/-- The output of a process that ends in time is closed in time as well: nobody who is left behind
holds it for longer. -/
def Course.Released (course : Course) (limit : Nat) : Prop :=
  ∀ last ∈ course.ends, last ≤ firstLook limit →
    ∃ close ∈ course.closes, close ≤ limit + lookInterval

/-- What is released in time is not waited for any longer. -/
theorem Course.Released.time_le (hreleased : course.Released limit) {wait : Wait}
    (h : Reached limit course wait) (hwaiting : wait.waiting = true) :
    wait.time ≤ limit + lookInterval := by
  cases reached_iff.1 h with
  | process => exact Nat.le_of_lt (time_lt_of_process h rfl)
  | @output last later hends hlast _ hopen =>
      obtain ⟨close, hclose, hle⟩ := hreleased last hends hlast
      have hseen : firstLook last ≤ limit + lookInterval :=
        firstLook_le_of_seen hlast
      change later ≤ limit + lookInterval
      refine Nat.not_lt.1 (fun hlate => ?_)
      exact Nat.not_lt.2 hle (happened_eq_false_iff.1 (hopen _ hseen hlate) close hclose)
  | givenUp => cases hwaiting
  | closed => cases hwaiting

/-- What is not released in time is waited for beyond the limit. -/
theorem exists_overdue (h : ¬course.Released limit) :
    ∃ wait, Reached limit course wait ∧ wait.waiting = true ∧ limit + lookInterval < wait.time := by
  simp only [Course.Released, not_forall, not_exists, not_and, Nat.not_le] at h
  obtain ⟨last, hends, hlast, hheld⟩ := h
  have hseen : firstLook last ≤ limit + lookInterval :=
    firstLook_le_of_seen hlast
  refine ⟨course.state .output (limit + lookInterval + 1), ?_, rfl, Nat.lt_succ_self _⟩
  refine reached_output hends hlast (Nat.le_succ_of_le hseen) ?_
  intro now _ hnow
  exact happened_eq_false_iff.2 (fun close hclose =>
    Nat.lt_of_le_of_lt (Nat.le_of_lt_succ hnow) (hheld close hclose))

end

/-! ## What waiting ends with -/

/-- The limit in nanoseconds. -/
def limitOf (milliseconds : UInt64) : Nat :=
  milliseconds.toNat * Time.nanosPerMilli

/-- The last state before waiting is done, and what is given then. -/
inductive Outcome (timeline : Timeline) (program : String) (milliseconds : UInt64) :
    Wait → Except Failure String → Prop
  | givenUp {wait : Wait} (h : Reached (limitOf milliseconds) timeline.toCourse wait)
      (hphase : wait.phase = .process) (hended : wait.ended = false)
      (hlimit : limitOf milliseconds ≤ wait.time) :
      Outcome timeline program milliseconds wait (.error (.commandTimeout program milliseconds))
  | closed {wait : Wait} (h : Reached (limitOf milliseconds) timeline.toCourse wait)
      (hphase : wait.phase = .output) (hclosed : wait.closed = true) :
      Outcome timeline program milliseconds wait
        (endedAnswer program timeline.status timeline.output)

section

variable {timeline : Timeline} {program : String} {milliseconds : UInt64}

theorem timedOut_eq_true_iff {limit : Nat} :
    timeline.timedOut limit = true ↔ ∀ last ∈ timeline.ends, firstLook limit < last := by
  unfold Timeline.timedOut
  cases timeline.ends <;> simp

theorem answer_of_timedOut
    (h : ∀ last ∈ timeline.ends, firstLook (limitOf milliseconds) < last) :
    timeline.answer program milliseconds =
      some (.error (.commandTimeout program milliseconds)) :=
  if_pos (timedOut_eq_true_iff.2 h)

theorem answer_of_ended {last : Nat} (hends : last ∈ timeline.ends)
    (hlast : last ≤ firstLook (limitOf milliseconds)) :
    timeline.answer program milliseconds =
      timeline.closes.map (fun _ => endedAnswer program timeline.status timeline.output) := by
  refine if_neg ?_
  rw [← limitOf, timedOut_eq_true_iff]
  intro h
  exact Nat.not_lt.2 hlast (h last hends)

/-- What a run ends with is what waiting gives. -/
theorem Outcome.answer_eq {wait : Wait} {answer : Except Failure String}
    (h : Outcome timeline program milliseconds wait answer) :
    timeline.answer program milliseconds = some answer := by
  cases h with
  | givenUp h hphase hended hlimit =>
      exact answer_of_timedOut (running_of_over h hphase hended hlimit)
  | closed h hphase hclosed =>
      obtain ⟨last, hends, hlast⟩ := ended_of_output h hphase
      obtain ⟨close, hclose, -⟩ := closes_of_closed h hclosed
      rw [answer_of_ended hends hlast, Option.mem_def.1 hclose]
      rfl

/-- A process that is running when its time is over is given up at the first look after that. -/
theorem outcome_of_running
    (h : ∀ last ∈ timeline.ends, firstLook (limitOf milliseconds) < last) :
    Outcome timeline program milliseconds
      (timeline.state .process (firstLook (limitOf milliseconds)))
      (.error (.commandTimeout program milliseconds)) :=
  .givenUp (reached_over h) rfl (happened_eq_false_iff.2 h) (le_firstLook _)

/-- A process that ends in time is done with once its end is seen and its output is closed. -/
theorem outcome_of_closes {last close : Nat} (hends : last ∈ timeline.ends)
    (hlast : last ≤ firstLook (limitOf milliseconds)) (hclose : close ∈ timeline.closes) :
    Outcome timeline program milliseconds
      (timeline.state .output (max (firstLook last) close))
      (endedAnswer program timeline.status timeline.output) := by
  refine .closed (reached_output hends hlast (Nat.le_max_left _ _) ?_) rfl
    (happened_iff.2 ⟨close, hclose, Nat.le_max_right _ _⟩)
  intro now hseen hnow
  refine happened_eq_false_iff.2 ?_
  intro other hother
  cases Option.mem_unique hclose hother
  omega

/-- What waiting gives is what the run of its steps ends with. -/
theorem answer_eq_some_iff {answer : Except Failure String} :
    timeline.answer program milliseconds = some answer ↔
      ∃ wait, Outcome timeline program milliseconds wait answer := by
  constructor
  · intro h
    by_cases hrunning : ∀ last ∈ timeline.ends, firstLook (limitOf milliseconds) < last
    · rw [answer_of_timedOut hrunning] at h
      cases h
      exact ⟨_, outcome_of_running hrunning⟩
    · simp only [not_forall, Nat.not_lt] at hrunning
      obtain ⟨last, hends, hlast⟩ := hrunning
      rw [answer_of_ended hends hlast, Option.map_eq_some_iff] at h
      obtain ⟨close, hclose, rfl⟩ := h
      exact ⟨_, outcome_of_closes hends hlast hclose⟩
  · rintro ⟨wait, h⟩
    exact h.answer_eq

/-- A run ends in time when what it waits for is released in time. -/
theorem Course.Released.outcome (h : timeline.Released (limitOf milliseconds)) :
    ∃ wait answer, Outcome timeline program milliseconds wait answer ∧
      wait.time ≤ limitOf milliseconds + lookInterval := by
  by_cases hrunning : ∀ last ∈ timeline.ends, firstLook (limitOf milliseconds) < last
  · exact ⟨_, _, outcome_of_running hrunning, Nat.le_of_lt (firstLook_lt _)⟩
  · simp only [not_forall, Nat.not_lt] at hrunning
    obtain ⟨last, hends, hlast⟩ := hrunning
    obtain ⟨close, hclose, hle⟩ := h last hends hlast
    exact ⟨_, _, outcome_of_closes hends hlast hclose,
      Nat.max_le.2 ⟨firstLook_le_of_seen hlast, hle⟩⟩

/-- A run that ends in time has waited for nothing that was not released in time. -/
theorem Outcome.released {wait : Wait} {answer : Except Failure String}
    (h : Outcome timeline program milliseconds wait answer)
    (htime : wait.time ≤ limitOf milliseconds + lookInterval) :
    timeline.Released (limitOf milliseconds) := by
  intro last hends hlast
  cases h with
  | givenUp h hphase hended hlimit =>
      exact absurd hlast (Nat.not_le.2 (running_of_over h hphase hended hlimit last hends))
  | closed h _ hclosed =>
      obtain ⟨close, hclose, hle⟩ := closes_of_closed h hclosed
      exact ⟨close, hclose, Nat.le_trans hle htime⟩

end

/-- The looks at a process stop within one interval after every limit.  The whole waiting is bounded
like that exactly when the output of a process that ends in time is closed in time as well; and
exactly then does a command with that limit give its output, its failure or the timeout by then. -/
theorem deadline_bounds_iff (timeline : Timeline) :
    (∀ limit wait, Reached limit timeline.toCourse wait → wait.phase = .process →
        wait.time < limit + lookInterval) ∧
      (∀ limit, (∀ wait, Reached limit timeline.toCourse wait → wait.waiting = true →
        wait.time ≤ limit + lookInterval) ↔ timeline.Released limit) ∧
      ∀ program milliseconds,
        (∃ wait answer, Outcome timeline program milliseconds wait answer ∧
          timeline.answer program milliseconds = some answer ∧
          wait.time ≤ limitOf milliseconds + lookInterval) ↔
        timeline.Released (limitOf milliseconds) := by
  refine ⟨fun limit wait => time_lt_of_process, ?_, ?_⟩
  · intro limit
    constructor
    · intro hbounded
      refine Classical.byContradiction (fun hheld => ?_)
      obtain ⟨wait, hreached, hwaiting, hlate⟩ := exists_overdue hheld
      exact Nat.not_lt.2 (hbounded wait hreached hwaiting) hlate
    · intro hreleased wait hreached hwaiting
      exact hreleased.time_le hreached hwaiting
  · intro program milliseconds
    constructor
    · rintro ⟨wait, answer, houtcome, -, htime⟩
      exact houtcome.released htime
    · intro hreleased
      obtain ⟨wait, answer, houtcome, htime⟩ := hreleased.outcome
      exact ⟨wait, answer, houtcome, houtcome.answer_eq, htime⟩

/-- A process that ends at once and leaves behind another one, which writes a word to the same
output three seconds later. -/
def leftBehind : Timeline where
  ends := some 1000000
  closes := some 3002000000
  ends_le_closes := by simp
  status := .exited 0
  output := Text.Utf8.encode "late\n".toList

/-- With a limit of one second that output is still waited for when the second is over, and the word
is given as if it had come in time. -/
theorem deadline_overrun :
    (∃ wait, Reached (limitOf 1000) leftBehind.toCourse wait ∧ wait.waiting = true ∧
        limitOf 1000 + lookInterval < wait.time) ∧
      leftBehind.answer "sh" 1000 = some (.ok "late") := by
  have hheld : ¬leftBehind.Released (limitOf 1000) := by
    intro hreleased
    obtain ⟨close, hclose, hle⟩ := hreleased 1000000 rfl (by decide)
    cases hclose
    exact absurd hle (by decide)
  have hintime : 1000000 ≤ firstLook (limitOf 1000) := by decide
  have hread : Text.Utf8.decode leftBehind.output = some "late\n".toList := by decide +kernel
  have hgiven : endedAnswer "sh" leftBehind.status leftBehind.output = .ok "late" := by
    rw [endedAnswer, hread]
    rfl
  refine ⟨exists_overdue hheld, ?_⟩
  rw [answer_of_ended rfl hintime, hgiven]
  rfl

end HostVitals.Execution
