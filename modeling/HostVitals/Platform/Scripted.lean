import HostVitals.Files.Tree
import HostVitals.Platform.Mac

/-!
# A host made of prepared replies

For trials there is a host that answers from prepared replies.  Each probe has a list of them,
which are given in turn; the last one is given again and again.

Main results:

- `repliesOf_setReplies`: replies are replaced under one name only.
-/

namespace HostVitals

open HostVitals.Files HostVitals.Report

/-! ## Replies -/

/-- What a probe is made to do: answer, fail or break down. -/
abbrev Reply (α : Type) := Except Breakdown (Answer α)

/-- The reply that is next in turn, and the replies after it. -/
def nextReply {α : Type} : List α → Option α × List α
  | [] => (none, [])
  | [reply] => (some reply, [reply])
  | reply :: replies => (some reply, replies)

/-- Without a second reply, the replies stay as they are. -/
theorem nextReply_rest {α : Type} {replies : List α} (h : replies.length ≤ 1) :
    (nextReply replies).2 = replies := by
  match replies, h with
  | [], _ => rfl
  | [reply], _ => rfl

/-- A host with prepared replies, files and a clock. -/
structure Prepared where
  /-- The reading of the clock, in nanoseconds. -/
  clock : Nat
  /-- How far the clock goes on with each reading. -/
  drift : Nat
  files : Node
  /-- The replies of the probes that give texts, by the name of the probe or program. -/
  texts : List (String × List (Reply String))
  /-- The replies of the list of power supplies. -/
  supplies : List (Reply (List Supply))
  temperatures : List (Reply (List RawTemperature))

namespace Prepared

/-- A host with nothing prepared. -/
def empty (files : Node) : Prepared := ⟨0, 0, files, [], [], []⟩

/-- Reads the clock. -/
def readClock (host : Prepared) : Nat × Prepared :=
  (host.clock, { host with clock := host.clock + host.drift })

/-- The replies prepared under a name. -/
def repliesOf (host : Prepared) (name : String) : List (Reply String) :=
  (host.texts.lookup name).getD []

/-- There are no more replies under a name than were prepared under any name. -/
theorem length_repliesOf (host : Prepared) {most : Nat}
    (htexts : ∀ entry ∈ host.texts, entry.2.length ≤ most) (name : String) :
    (host.repliesOf name).length ≤ most := by
  unfold repliesOf
  cases h : host.texts.lookup name with
  | none => exact Nat.zero_le most
  | some replies =>
      obtain ⟨before, after, heq, -⟩ := List.lookup_eq_some_iff.mp h
      exact htexts (name, replies) (by simp [heq])

/-- The host with the replies under a name replaced. -/
def setReplies (host : Prepared) (name : String) (replies : List (Reply String)) : Prepared :=
  { host with texts := (name, replies) :: host.texts.filter (fun entry => entry.1 ≠ name) }

/-- Replies are replaced under one name only. -/
theorem repliesOf_setReplies (host : Prepared) (name other : String)
    (replies : List (Reply String)) :
    (host.setReplies name replies).repliesOf other =
      if other = name then replies else host.repliesOf other := by
  by_cases h : other = name
  · simp [setReplies, repliesOf, h]
  · have hother : (other == name) = false := by simp [h]
    simp only [setReplies, repliesOf, List.lookup_cons, hother, if_neg h]
    induction host.texts with
    | nil => rfl
    | cons entry texts ih =>
        obtain ⟨key, replies⟩ := entry
        by_cases hkey : key = name
        · have hskip : (other == key) = false := by simp [hkey, h]
          rw [List.filter_cons_of_neg (by simp [hkey]), List.lookup_cons, hskip]
          exact ih
        · rw [List.filter_cons_of_pos (by simp [hkey]), List.lookup_cons, List.lookup_cons]
          cases other == key
          · exact ih
          · rfl

/-- The probe that gives the replies under a name, or `missing` when there are none. -/
def textProbe (name : String) (missing : Failure) : Probe Prepared (Answer String) := fun host =>
  let (reply, rest) := nextReply (host.repliesOf name)
  ⟨reply.getD (.ok (.error missing)), [], host.setReplies name rest⟩

/-- The supplies in an answer, none when it is a failure. -/
def suppliesOf : Reply (List Supply) → Except Breakdown (List Supply)
  | .error breakdown => .error breakdown
  | .ok (.ok supplies) => .ok supplies
  | .ok (.error _) => .ok []

/-- The probe that lists the prepared supplies. -/
def suppliesProbe : Probe Prepared (List Supply) := fun host =>
  let (reply, rest) := nextReply host.supplies
  ⟨suppliesOf (reply.getD (.ok (.ok []))), [], { host with supplies := rest }⟩

/-- The probe of the prepared sensors, which are only called when there are any. -/
def sensorsProbe : Probe Prepared (Answer (List RawTemperature)) := fun host =>
  match nextReply host.temperatures with
  | (some reply, rest) =>
    ⟨reply, [.call (.capability .sensors)], { host with temperatures := rest }⟩
  | (none, _) => ⟨.ok (.ok []), [], host⟩

/-! ## Platforms -/

/-- A platform whose every probe is prepared. -/
def platform (name : String) (hasProfile : Bool) : Platform Prepared where
  name
  report :=
    (textProbe "report" (.commandFailed "pmset" "not found")).recording
      (.capability .batteryReport)
  hasProfile
  profile :=
    (textProbe "profile" (.unsupported "profile")).recording (.capability .powerProfile)
  temperature :=
    (textProbe "temp" (.commandFailed "sh" "exit status: 1")).recording
      (.capability .batteryTemperature)
  thermalLevel :=
    (textProbe "level" (.commandFailed "sysctl" "unknown oid")).recording
      (.capability .thermalLevel)
  supplies := suppliesProbe.recording (.capability .supplies)

/-- A runner of commands whose outputs are prepared under the names of the programs. -/
def runner : Platform.Runner Prepared := fun command =>
  (textProbe command.program (.commandFailed command.program "not scripted")).recording
    (.command command)

/-- A station that watches a host with prepared sensors. -/
def station (platform : Platform Prepared) (timeToLive : Nat) : Station Prepared where
  platform
  sensors := sensorsProbe
  clock := readClock
  timeToLive

end Prepared

end HostVitals
