import Mathlib.Algebra.BigOperators.Fin
import Mathlib.Algebra.Order.BigOperators.Group.Finset
import HostVitals.Collect.Profile

/-!
# Callers at once

Several callers may want the text of the power profile at the same time.  A lock lets one of them
at a time look at what is kept, ask the probe and keep what it brings; the others wait.  Who gets
the lock next is left open, and the moves of the callers may be interleaved in any way.

Main results:

- `remaining_move`: every move brings a caller further.
- `moves_length_le`: callers come to an end, whatever the order of their moves.
- `stuck_of_served`: nobody moves once all are served.
-/

namespace HostVitals.Collect

variable {σ : Type} {n : Nat}

/-! ## Callers and their moves -/

/-- How far a caller has come.  It calls, waits for the lock and is inside.  With the lock it is
asking when it found no fresh text at a clock reading, and leaving when it knows its outcome.  It
is served when it has given back the lock. -/
inductive Place where
  | called
  | waiting
  | inside
  | asking (now : Nat)
  | answered (now : Nat) (answer : Except Breakdown (Answer String))
  | leaving (outcome : Except Breakdown String)
  | served (outcome : Except Breakdown String)

/-- Callers and the session that they share: how far each has come, which one has the lock, and
who got the lock and who ran the probe so far, in order. -/
structure Crowd (σ : Type) (n : Nat) where
  session : Session σ
  place : Fin n → Place
  holder : Option (Fin n)
  entered : List (Fin n)
  asked : List (Fin n)

namespace Crowd

/-- Callers that have all just called. -/
def start (n : Nat) (session : Session σ) : Crowd σ n :=
  ⟨session, fun _ => .called, none, [], []⟩

/-- The crowd with a caller at another place. -/
def put (crowd : Crowd σ n) (i : Fin n) (place : Place) : Crowd σ n :=
  { crowd with place := Function.update crowd.place i place }

/-- The caller is where it was put. -/
@[simp] theorem put_place_self (crowd : Crowd σ n) (i : Fin n) (place : Place) :
    (crowd.put i place).place i = place := by
  simp [put]

/-- The others are where they were. -/
@[simp] theorem put_place_of_ne (crowd : Crowd σ n) {i j : Fin n} (h : j ≠ i) (place : Place) :
    (crowd.put i place).place j = crowd.place j := by
  simp [put, h]

end Crowd

/-- A move of one caller.  Without a power profile there is nothing to wait for.  Otherwise it
gets into the lock; inside it finds a fresh text, or misses one, asks the probe and keeps what the
probe brought. -/
inductive Move (station : Station σ) (i : Fin n) (crowd : Crowd σ n) : Crowd σ n → Prop where
  | skip (h : crowd.place i = .called) (hprofile : station.platform.hasProfile = false) :
      Move station i crowd (crowd.put i (.served (.ok "")))
  | queue (h : crowd.place i = .called) (hprofile : station.platform.hasProfile = true) :
      Move station i crowd (crowd.put i .waiting)
  | enter (h : crowd.place i = .waiting) (hfree : crowd.holder = none) :
      Move station i crowd
        { crowd.put i .inside with holder := some i, entered := crowd.entered ++ [i] }
  | find (h : crowd.place i = .inside)
      (hfresh : crowd.session.cache.isFresh station.timeToLive
        (station.clock crowd.session.host).1 = true) :
      Move station i crowd
        { crowd.put i (.leaving (.ok crowd.session.cache.text)) with
          session := { crowd.session with host := (station.clock crowd.session.host).2 } }
  | miss (h : crowd.place i = .inside)
      (hstale : crowd.session.cache.isFresh station.timeToLive
        (station.clock crowd.session.host).1 = false) :
      Move station i crowd
        { crowd.put i (.asking (station.clock crowd.session.host).1) with
          session := { crowd.session with host := (station.clock crowd.session.host).2 } }
  | ask {now : Nat} (h : crowd.place i = .asking now) :
      Move station i crowd
        { crowd.put i (.answered now (station.platform.profile crowd.session.host).outcome) with
          session :=
            { crowd.session with
              host := (station.platform.profile crowd.session.host).host
              events := crowd.session.events ++
                (station.platform.profile crowd.session.host).events }
          asked := crowd.asked ++ [i] }
  | keep {now : Nat} {answer : Except Breakdown (Answer String)}
      (h : crowd.place i = .answered now answer) :
      Move station i crowd
        { crowd.put i (.leaving (crowd.session.cache.refresh now answer).outcome) with
          session :=
            { crowd.session with
              cache := (crowd.session.cache.refresh now answer).cache
              events := crowd.session.events ++
                (crowd.session.cache.refresh now answer).notes.map .note } }
  | leave {outcome : Except Breakdown String} (h : crowd.place i = .leaving outcome) :
      Move station i crowd { crowd.put i (.served outcome) with holder := none }

/-- Moves one after another, by the callers of a schedule. -/
inductive Moves (station : Station σ) (first : Crowd σ n) : List (Fin n) → Crowd σ n → Prop where
  | stay : Moves station first [] first
  | move {schedule : List (Fin n)} {crowd next : Crowd σ n} {i : Fin n}
      (hmoves : Moves station first schedule crowd) (hmove : Move station i crowd next) :
      Moves station first (schedule ++ [i]) next

/-- Nobody can move. -/
def Stuck (station : Station σ) (crowd : Crowd σ n) : Prop :=
  ∀ i next, ¬Move station i crowd next

/-- Nobody moves once all are served. -/
theorem stuck_of_served {station : Station σ} {crowd : Crowd σ n}
    (hserved : ∀ i, ∃ outcome, crowd.place i = .served outcome) : Stuck station crowd := by
  intro i next hmove
  rcases hserved i with ⟨outcome, hplace⟩
  cases hmove <;> simp_all

/-! ## Runs come to an end -/

/-- How many moves a caller has before it. -/
def Place.remaining : Place → Nat
  | .called => 6
  | .waiting => 5
  | .inside => 4
  | .asking _ => 3
  | .answered _ _ => 2
  | .leaving _ => 1
  | .served _ => 0

/-- How many moves all callers have before them. -/
def Crowd.remaining (crowd : Crowd σ n) : Nat :=
  ∑ i, (crowd.place i).remaining

/-- Putting one caller elsewhere changes what it has before it, and nothing for the others. -/
theorem remaining_put (crowd : Crowd σ n) (i : Fin n) (place : Place) :
    (crowd.put i place).remaining + (crowd.place i).remaining =
      crowd.remaining + place.remaining := by
  have hput := Finset.add_sum_erase Finset.univ
    (fun j => ((crowd.put i place).place j).remaining) (Finset.mem_univ i)
  have hold := Finset.add_sum_erase Finset.univ
    (fun j => (crowd.place j).remaining) (Finset.mem_univ i)
  have hothers : ∑ j ∈ Finset.univ.erase i, ((crowd.put i place).place j).remaining =
      ∑ j ∈ Finset.univ.erase i, (crowd.place j).remaining := by
    refine Finset.sum_congr rfl ?_
    intro j hj
    rw [Crowd.put_place_of_ne crowd (Finset.ne_of_mem_erase hj)]
  rw [Crowd.put_place_self] at hput
  unfold Crowd.remaining
  omega

/-- Every move brings a caller further. -/
theorem remaining_move {station : Station σ} {i : Fin n} {crowd next : Crowd σ n}
    (hmove : Move station i crowd next) : next.remaining < crowd.remaining := by
  -- what a move does to the session and to the records does not count
  have hput : ∃ place, next.remaining = (crowd.put i place).remaining ∧
      place.remaining < (crowd.place i).remaining := by
    cases hmove with
    | skip h _ => exact ⟨_, rfl, by rw [h]; decide⟩
    | queue h _ => exact ⟨_, rfl, by rw [h]; decide⟩
    | enter h _ => exact ⟨_, rfl, by rw [h]; decide⟩
    | find h _ => exact ⟨_, rfl, by rw [h]; simp [Place.remaining]⟩
    | miss h _ => exact ⟨_, rfl, by rw [h]; simp [Place.remaining]⟩
    | ask h => exact ⟨_, rfl, by rw [h]; simp [Place.remaining]⟩
    | keep h => exact ⟨_, rfl, by rw [h]; simp [Place.remaining]⟩
    | leave h => exact ⟨_, rfl, by rw [h]; simp [Place.remaining]⟩
  rcases hput with ⟨place, hnext, hlt⟩
  have := remaining_put crowd i place
  omega

/-- The moves of a run are paid for by what the callers have before them. -/
theorem moves_remaining {station : Station σ} {first crowd : Crowd σ n} {schedule : List (Fin n)}
    (hmoves : Moves station first schedule crowd) :
    schedule.length + crowd.remaining ≤ first.remaining := by
  induction hmoves with
  | stay => simp
  | move _ hmove ih =>
      have hlt := remaining_move hmove
      rw [List.length_append, List.length_singleton]
      omega

/-- Callers come to an end after six moves each at most. -/
theorem moves_length_le {station : Station σ} {session : Session σ} {crowd : Crowd σ n}
    {schedule : List (Fin n)} (hmoves : Moves station (.start n session) schedule crowd) :
    schedule.length ≤ 6 * n := by
  have hle := moves_remaining hmoves
  have hstart : (Crowd.start n session).remaining = 6 * n := by
    simp [Crowd.remaining, Crowd.start, Place.remaining, Nat.mul_comm]
  omega

end HostVitals.Collect
