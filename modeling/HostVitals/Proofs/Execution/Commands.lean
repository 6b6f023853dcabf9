import HostVitals.Execution.Run
import HostVitals.Proofs.Execution.Waiting

/-!
# What commands give

A command gives a text only when all has gone well: it could be started, its process ended in time
and with success, and what was written is text.  All else is a failure that tells what went wrong.
This holds on every machine, whatever its programs do.

Main results:

- `Machine.answer_eq_some_iff`: a command gives why it cannot be started, or what waiting for its
  process ends with.
- `Machine.answer_eq_ok_iff`: when a command gives a text, and which one.
- `Machine.failure_of_answer`: the failures of a command name its program and its limit.
-/

namespace HostVitals.Execution

open HostVitals.Text

/-- A process that has ended gives a text exactly when it went well and wrote text. -/
theorem endedAnswer_eq_ok_iff {program : String} {status : Status} {output : List UInt8}
    {text : String} :
    endedAnswer program status output = .ok text ↔
      status = .exited 0 ∧ ∃ cs, Utf8.decode output = some cs ∧ text = String.ofList (trim cs) := by
  unfold endedAnswer
  cases Utf8.decode output with
  | none => simp
  | some cs =>
      have hsucceeded : status.succeeded = true ↔ status = .exited 0 := by simp [Status.succeeded]
      simp only [hsucceeded, Option.some.injEq, exists_eq_left']
      split
      · next hstatus => simp only [hstatus, Except.ok.injEq, true_and, eq_comm]
      · next hstatus => simp only [hstatus, reduceCtorEq, false_and]

/-- A process that has ended fails by its status or by what it wrote. -/
theorem failure_of_endedAnswer {program : String} {status : Status} {output : List UInt8}
    {failure : Failure} (h : endedAnswer program status output = .error failure) :
    failure = .io .notText ∨ failure = .commandFailed program status.message := by
  unfold endedAnswer at h
  split at h
  · exact .inl (Except.error.inj h).symm
  · split at h
    · cases h
    · exact .inr (Except.error.inj h).symm

namespace Machine

variable {machine : Machine} {usual : UInt64} {command : Command}

/-- A command gives why it cannot be started, or what waiting for its process ends with. -/
theorem answer_eq_some_iff {answer : Answer String} :
    machine.answer usual command = some answer ↔
      (∃ cause ∈ machine.startFailure command,
        answer = .error (.commandFailed command.program cause.message)) ∨
      machine.startFailure command = none ∧
        ∃ wait, Outcome (machine.timeline command) command.program (command.limit.getD usual)
          wait answer := by
  unfold Machine.answer
  cases machine.startFailure command with
  | some cause => simp [eq_comm]
  | none => simp [Execution.answer_eq_some_iff]

/-- A command gives a text exactly when it can be started, its process ends in time and with
success, and its output is closed and is text.  The blanks around the text are left out. -/
theorem answer_eq_ok_iff {text : String} :
    machine.answer usual command = some (.ok text) ↔
      machine.startFailure command = none ∧
      (∃ last ∈ (machine.timeline command).ends,
        last ≤ firstLook (limitOf (command.limit.getD usual))) ∧
      (machine.timeline command).closes.isSome ∧
      (machine.timeline command).status = .exited 0 ∧
      ∃ cs, Utf8.decode (machine.timeline command).output = some cs ∧
        text = String.ofList (trim cs) := by
  rw [answer_eq_some_iff]
  constructor
  · rintro (⟨cause, -, hanswer⟩ | ⟨hstart, wait, houtcome⟩)
    · cases hanswer
    · refine ⟨hstart, ?_⟩
      generalize hanswer : (Except.ok text : Except Failure String) = answer at houtcome
      cases houtcome with
      | givenUp => cases hanswer
      | closed h hphase hclosed =>
          obtain ⟨close, hclose, -⟩ := closes_of_closed h hclosed
          exact ⟨ended_of_output h hphase, by rw [Option.mem_def.1 hclose]; rfl,
            endedAnswer_eq_ok_iff.1 hanswer.symm⟩
  · rintro ⟨hstart, ⟨last, hends, hlast⟩, hcloses, htext⟩
    obtain ⟨close, hclose⟩ := Option.isSome_iff_exists.1 hcloses
    have hgiven : endedAnswer command.program (machine.timeline command).status
        (machine.timeline command).output = .ok text := endedAnswer_eq_ok_iff.2 htext
    exact .inr ⟨hstart, _, hgiven ▸ outcome_of_closes hends hlast hclose⟩

/-- On the machine with the small shell a tool gives what it writes. -/
example :
    (Execution.answer Files.usualRoot 1000 ⟨"printf", ["%s\n", " 42"], none⟩).map Except.toOption =
      some (some "42") := by
  decide +kernel

/-- The failures of a command: its output is no text, its time is over, or else what went wrong is
told under the name of its program. -/
theorem failure_of_answer {failure : Failure}
    (h : machine.answer usual command = some (.error failure)) :
    failure = .io .notText ∨
      failure = .commandTimeout command.program (command.limit.getD usual) ∨
      ∃ reason, failure = .commandFailed command.program reason := by
  obtain ⟨cause, -, hanswer⟩ | ⟨-, wait, houtcome⟩ := answer_eq_some_iff.1 h
  · exact .inr (.inr ⟨cause.message, Except.error.inj hanswer⟩)
  · generalize hanswer : (Except.error failure : Except Failure String) = answer at houtcome
    cases houtcome with
    | givenUp => exact .inr (.inl (Except.error.inj hanswer))
    | closed =>
        obtain htext | hfailed := failure_of_endedAnswer hanswer.symm
        · exact .inl htext
        · exact .inr (.inr ⟨_, hfailed⟩)

end Machine

end HostVitals.Execution
