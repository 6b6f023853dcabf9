import HostVitals.Proofs.ProfileCache.Crowd

/-!
# One caller after another

Callers at once are compared with callers that are served one after another.  The lock makes the
two the same: what a caller finds when it gets the lock is what the callers before it left, and
nobody changes it until the lock is given back.

Main results:

- `move_orderly`: every move keeps what is shared as the callers before left it.
- `mem_entered_of_stuck`: nobody is left waiting for ever.
- `moves_serial`: whatever the order of the moves, all callers are served in the end as one after
  another, in the order in which they got the lock.
-/

namespace HostVitals.Collect

variable {σ : Type} {n : Nat}

/-! ## Callers one after another -/

/-- The session that a number of callers leave who are served one after another. -/
def serial (station : Station σ) (session : Session σ) : Nat → Session σ
  | 0 => session
  | k + 1 => (powerText station (serial station session k)).2

/-- Whether a caller that finds a session runs the probe. -/
def asks (station : Station σ) (found : Session σ) : Bool :=
  !found.cache.isFresh station.timeToLive (station.clock found.host).1

/-- The callers that run the probe when all are served one after another. -/
def askers (station : Station σ) (session : Session σ) (callers : List (Fin n)) : List (Fin n) :=
  (callers.zipIdx.filter (fun entry => asks station (serial station session entry.2))).map Prod.fst

/-- A last caller runs the probe or not. -/
theorem askers_append (station : Station σ) (session : Session σ) (callers : List (Fin n))
    (i : Fin n) :
    askers station session (callers ++ [i]) = askers station session callers ++
      if asks station (serial station session callers.length) then [i] else [] := by
  unfold askers
  rw [List.zipIdx_append, List.filter_append, List.map_append]
  cases h : asks station (serial station session callers.length) <;> simp [h]

/-! ## The caller that has the lock -/

/-- How far a caller with the lock has come from the session that it found: its place, the session
now, and whether it has run the probe. -/
inductive Inside (station : Station σ) (found : Session σ) : Place → Session σ → Bool → Prop where
  | inside : Inside station found .inside found false
  | asking (hasks : asks station found = true) :
      Inside station found (.asking (station.clock found.host).1)
        { found with host := (station.clock found.host).2 } false
  | answered (hasks : asks station found = true) :
      Inside station found
        (.answered (station.clock found.host).1
          (station.platform.profile (station.clock found.host).2).outcome)
        { found with
          host := (station.platform.profile (station.clock found.host).2).host
          events := found.events ++
            (station.platform.profile (station.clock found.host).2).events } true
  | leaving :
      Inside station found (.leaving (powerText station found).1) (powerText station found).2
        (asks station found)

/-- Places of callers that have the lock. -/
def Place.hasLock : Place → Bool
  | .inside | .asking _ | .answered _ _ | .leaving _ => true
  | .called | .waiting | .served _ => false

section

variable {station : Station σ} {found session : Session σ} {asked : Bool}

/-- A caller that has just got the lock has changed nothing. -/
theorem eq_of_inside (h : Inside station found .inside session asked) :
    session = found ∧ asked = false := by
  cases h
  exact ⟨rfl, rfl⟩

/-- A caller that is about to ask has looked at the clock. -/
theorem eq_of_asking {now : Nat} (h : Inside station found (.asking now) session asked) :
    asks station found = true ∧ now = (station.clock found.host).1 ∧
      session = { found with host := (station.clock found.host).2 } ∧ asked = false := by
  cases h with
  | asking hasks => exact ⟨hasks, rfl, rfl, rfl⟩

/-- A caller with an answer has run the probe once. -/
theorem eq_of_answered {now : Nat} {answer : Except Breakdown (Answer String)}
    (h : Inside station found (.answered now answer) session asked) :
    asks station found = true ∧ now = (station.clock found.host).1 ∧
      answer = (station.platform.profile (station.clock found.host).2).outcome ∧
      session =
        { found with
          host := (station.platform.profile (station.clock found.host).2).host
          events := found.events ++
            (station.platform.profile (station.clock found.host).2).events } ∧
      asked = true := by
  cases h with
  | answered hasks => exact ⟨hasks, rfl, rfl, rfl, rfl⟩

/-- A caller that is about to leave has done all that a caller does. -/
theorem eq_of_leaving {outcome : Except Breakdown String}
    (h : Inside station found (.leaving outcome) session asked) :
    outcome = (powerText station found).1 ∧ session = (powerText station found).2 ∧
      asked = asks station found := by
  cases h
  exact ⟨rfl, rfl, rfl⟩

/-- A caller in the lock has a place that says so. -/
theorem hasLock_of_inside {place : Place} (h : Inside station found place session asked) :
    place.hasLock = true := by
  cases h <;> rfl

/-- Finding a fresh text is all that a caller does then. -/
theorem inside_find (hprofile : station.platform.hasProfile = true)
    (hfresh : found.cache.isFresh station.timeToLive (station.clock found.host).1 = true) :
    Inside station found (.leaving (.ok found.cache.text))
      { found with host := (station.clock found.host).2 } false := by
  have hrun := run_powerText_fresh hprofile hfresh
  have hasks : asks station found = false := by simp [asks, hfresh]
  have hleaving : Inside station found _ _ _ := .leaving
  rw [hrun, hasks] at hleaving
  exact hleaving

/-- Keeping what the probe brought is the last that a caller does that asks. -/
theorem inside_keep (hprofile : station.platform.hasProfile = true)
    (hasks : asks station found = true) :
    let run := station.platform.profile (station.clock found.host).2
    let access := found.cache.refresh (station.clock found.host).1 run.outcome
    Inside station found (.leaving access.outcome)
      ⟨run.host, access.cache, found.events ++ run.events ++ access.notes.map .note⟩ true := by
  intro run access
  have hstale : found.cache.isFresh station.timeToLive (station.clock found.host).1 = false := by
    simpa [asks] using hasks
  have hrun := run_powerText_stale hprofile hstale
  have hleaving : Inside station found _ _ _ := .leaving
  rw [hrun, hasks] at hleaving
  exact hleaving

end

/-! ## What every move keeps -/

/-- The callers so far are served as one after another, in the order in which they got the lock,
and the one that has the lock goes on from what the others left. -/
structure Orderly (station : Station σ) (session : Session σ) (crowd : Crowd σ n) : Prop where
  /-- Nobody gets the lock twice. -/
  nodup : crowd.entered.Nodup
  /-- Who has not had the lock is still to get it. -/
  outside : ∀ i, i ∉ crowd.entered → crowd.place i = .called ∨ crowd.place i = .waiting
  /-- Who has given back the lock is served. -/
  served : ∀ k i, crowd.entered[k]? = some i → crowd.holder ≠ some i →
    crowd.place i = .served (powerText station (serial station session k)).1
  /-- While nobody has the lock, all is as the last caller left it. -/
  free : crowd.holder = none →
    crowd.session = serial station session crowd.entered.length ∧
      crowd.asked = askers station session crowd.entered
  /-- Who has the lock got it last, and goes on from what the others left. -/
  held : ∀ i, crowd.holder = some i → ∃ others asked, crowd.entered = others ++ [i] ∧
    Inside station (serial station session others.length) (crowd.place i) crowd.session asked ∧
    crowd.asked = askers station session others ++ if asked then [i] else []

/-- Callers that have all just called are orderly. -/
theorem start_orderly (station : Station σ) (session : Session σ) :
    Orderly station session (Crowd.start n session) where
  nodup := List.nodup_nil
  outside := fun _ _ => .inl rfl
  served := by simp [Crowd.start]
  free := fun _ => ⟨rfl, rfl⟩
  held := by simp [Crowd.start]

namespace Orderly

variable {station : Station σ} {session : Session σ} {crowd : Crowd σ n} {i : Fin n}

/-- Who has had the lock has it still or is served. -/
theorem of_mem_entered (h : Orderly station session crowd) (hmem : i ∈ crowd.entered) :
    crowd.holder = some i ∧ (crowd.place i).hasLock = true ∨
      ∃ outcome, crowd.place i = .served outcome := by
  by_cases hholder : crowd.holder = some i
  · rcases h.held i hholder with ⟨others, asked, -, hinside, -⟩
    exact .inl ⟨hholder, hasLock_of_inside hinside⟩
  · rcases List.mem_iff_getElem?.mp hmem with ⟨k, hk⟩
    exact .inr ⟨_, h.served k i hk hholder⟩

/-- Whose place says so has the lock: there is one at most. -/
theorem holder_of_hasLock (h : Orderly station session crowd)
    (hplace : (crowd.place i).hasLock = true) : crowd.holder = some i := by
  by_cases hmem : i ∈ crowd.entered
  · rcases h.of_mem_entered hmem with ⟨hholder, -⟩ | ⟨outcome, hserved⟩
    · exact hholder
    · simp [hserved, Place.hasLock] at hplace
  · rcases h.outside i hmem with hcalled | hwaiting
    · simp [hcalled, Place.hasLock] at hplace
    · simp [hwaiting, Place.hasLock] at hplace

/-- Who has only called or waits has not had the lock. -/
theorem not_mem_entered (h : Orderly station session crowd)
    (hplace : crowd.place i = .called ∨ crowd.place i = .waiting) : i ∉ crowd.entered := by
  intro hmem
  rcases h.of_mem_entered hmem with ⟨-, hlock⟩ | ⟨outcome, hserved⟩
  · rcases hplace with hcalled | hwaiting
    · simp [hcalled, Place.hasLock] at hlock
    · simp [hwaiting, Place.hasLock] at hlock
  · rcases hplace with hcalled | hwaiting
    · simp [hserved] at hcalled
    · simp [hserved] at hwaiting

/-- Wanting the lock keeps the order. -/
theorem queue (h : Orderly station session crowd) (hplace : crowd.place i = .called) :
    Orderly station session (crowd.put i .waiting) := by
  have hi : i ∉ crowd.entered := h.not_mem_entered (.inl hplace)
  have hne : ∀ j ∈ crowd.entered, j ≠ i := fun j hj heq => hi (heq ▸ hj)
  refine ⟨h.nodup, ?_, ?_, h.free, ?_⟩
  · intro j hj
    by_cases hji : j = i
    · subst hji
      exact .inr (Crowd.put_place_self crowd j _)
    · rw [Crowd.put_place_of_ne crowd hji]
      exact h.outside j hj
  · intro k j hk hholder
    rw [Crowd.put_place_of_ne crowd (hne j (List.mem_of_getElem? hk))]
    exact h.served k j hk hholder
  · intro j hholder
    rcases h.held j hholder with ⟨others, asked, hentered, hinside, hasked⟩
    have hj : j ∈ crowd.entered := by simp [hentered]
    refine ⟨others, asked, hentered, ?_, hasked⟩
    rw [Crowd.put_place_of_ne crowd (hne j hj)]
    exact hinside

/-- Getting the free lock keeps the order. -/
theorem enter (h : Orderly station session crowd) (hplace : crowd.place i = .waiting)
    (hfree : crowd.holder = none) :
    Orderly station session
      { crowd.put i .inside with holder := some i, entered := crowd.entered ++ [i] } := by
  have hi : i ∉ crowd.entered := h.not_mem_entered (.inr hplace)
  rcases h.free hfree with ⟨hsession, hasked⟩
  refine ⟨?_, ?_, ?_, ?_, ?_⟩
  · exact List.nodup_append.mpr ⟨h.nodup, by simp, by
      intro a ha b hb
      rw [List.mem_singleton.mp hb]
      exact fun heq => hi (heq ▸ ha)⟩
  · intro j hj
    have hji : j ≠ i := fun heq => hj (by simp [heq])
    have hje : j ∉ crowd.entered := fun hmem => hj (List.mem_append_left [i] hmem)
    simpa [hji] using h.outside j hje
  · intro k j hk hholder
    have hji : j ≠ i := fun heq => hholder (by rw [heq])
    have hold : crowd.entered[k]? = some j := by
      by_cases hlt : k < crowd.entered.length
      · rwa [List.getElem?_append_left hlt] at hk
      · rw [List.getElem?_append_right (by omega)] at hk
        exact absurd (List.mem_singleton.mp (List.mem_of_getElem? hk)) hji
    simpa [hji] using h.served k j hold (by simp [hfree])
  · intro hnone
    cases hnone
  · intro j hj
    obtain rfl : i = j := Option.some.inj hj
    refine ⟨crowd.entered, false, rfl, ?_, by simp [hasked, Crowd.put]⟩
    have hinside : Inside station (serial station session crowd.entered.length) .inside
        crowd.session false := by
      rw [hsession]
      exact .inside
    simpa [Crowd.put] using hinside

/-- What the caller with the lock does before it leaves keeps the order. -/
theorem proceed (h : Orderly station session crowd) (hplace : (crowd.place i).hasLock = true)
    {place : Place} {next : Session σ} {callers : List (Fin n)}
    (hstep : ∀ found asked, Inside station found (crowd.place i) crowd.session asked →
      ∃ later, Inside station found place next later ∧
        ∀ base : List (Fin n), crowd.asked = base ++ (if asked then [i] else []) →
          callers = base ++ if later then [i] else []) :
    Orderly station session { crowd.put i place with session := next, asked := callers } := by
  have hholder : crowd.holder = some i := h.holder_of_hasLock hplace
  refine ⟨h.nodup, ?_, ?_, ?_, ?_⟩
  · intro j hj
    have hji : j ≠ i := by
      rintro rfl
      rcases h.outside j hj with hcalled | hwaiting
      · simp [hcalled, Place.hasLock] at hplace
      · simp [hwaiting, Place.hasLock] at hplace
    simpa [hji] using h.outside j hj
  · intro k j hk hnot
    have hji : j ≠ i := fun heq => hnot (heq ▸ hholder)
    simpa [hji] using h.served k j hk hnot
  · intro hnone
    exact absurd (hholder.symm.trans hnone) (by simp)
  · intro j hj
    obtain rfl : i = j := Option.some.inj (hholder.symm.trans hj)
    rcases h.held i hholder with ⟨others, asked, hentered, hinside, hasked⟩
    rcases hstep _ asked hinside with ⟨later, hlater, hcallers⟩
    refine ⟨others, later, hentered, ?_, hcallers _ hasked⟩
    simpa using hlater

/-- Giving back the lock keeps the order. -/
theorem leave (h : Orderly station session crowd) {outcome : Except Breakdown String}
    (hplace : crowd.place i = .leaving outcome) :
    Orderly station session { crowd.put i (.served outcome) with holder := none } := by
  have hholder : crowd.holder = some i :=
    h.holder_of_hasLock (by rw [hplace]; rfl)
  rcases h.held i hholder with ⟨others, asked, hentered, hinside, hasked⟩
  rw [hplace] at hinside
  rcases eq_of_leaving hinside with ⟨houtcome, hsession, rfl⟩
  have hi : i ∉ others := by
    have hnodup := h.nodup
    rw [hentered] at hnodup
    exact fun hmem => (List.nodup_append.mp hnodup).2.2 i hmem i (by simp) rfl
  refine ⟨h.nodup, ?_, ?_, ?_, ?_⟩
  · intro j hj
    have hji : j ≠ i := by
      rintro rfl
      exact hj (by simp [hentered, Crowd.put])
    simpa [hji] using h.outside j hj
  · intro k j hk _
    have hk' : (others ++ [i])[k]? = some j := hentered ▸ hk
    by_cases hlt : k < others.length
    · rw [List.getElem?_append_left hlt] at hk'
      have hji : j ≠ i := fun heq => hi (heq ▸ List.mem_of_getElem? hk')
      have hnot : crowd.holder ≠ some j := by
        rw [hholder]
        exact fun heq => hji (Option.some.inj heq).symm
      simpa [hji] using h.served k j hk hnot
    · -- the caller that leaves is the last that got the lock
      have hlen := (List.getElem?_eq_some_iff.mp hk').1
      rw [List.length_append, List.length_singleton] at hlen
      obtain rfl : k = others.length := by omega
      rw [List.getElem?_append_right (Nat.le_refl _), Nat.sub_self] at hk'
      obtain rfl : i = j := Option.some.inj hk'
      simp [houtcome]
  · intro _
    constructor
    · simp only [Crowd.put]
      rw [hsession, hentered, List.length_append, List.length_singleton]
      rfl
    · simp only [Crowd.put]
      rw [hasked, hentered, askers_append]
  · intro j hj
    cases hj

end Orderly

/-- Every move keeps the order. -/
theorem move_orderly {station : Station σ} (hprofile : station.platform.hasProfile = true)
    {session : Session σ} {crowd next : Crowd σ n} {i : Fin n}
    (h : Orderly station session crowd) (hmove : Move station i crowd next) :
    Orderly station session next := by
  cases hmove with
  | skip _ hmissing =>
      rw [hprofile] at hmissing
      cases hmissing
  | queue hplace _ => exact h.queue hplace
  | enter hplace hfree => exact h.enter hplace hfree
  | find hplace hfresh =>
      refine h.proceed (by rw [hplace]; rfl) ?_
      intro found asked hinside
      rw [hplace] at hinside
      rcases eq_of_inside hinside with ⟨hsession, rfl⟩
      rw [hsession] at hfresh ⊢
      exact ⟨false, inside_find hprofile hfresh, fun _ hbase => hbase⟩
  | miss hplace hstale =>
      refine h.proceed (by rw [hplace]; rfl) ?_
      intro found asked hinside
      rw [hplace] at hinside
      rcases eq_of_inside hinside with ⟨hsession, rfl⟩
      rw [hsession] at hstale ⊢
      exact ⟨false, .asking (by simp [asks, hstale]), fun _ hbase => hbase⟩
  | ask hplace =>
      refine h.proceed (by rw [hplace]; rfl) ?_
      intro found asked hinside
      rw [hplace] at hinside
      rcases eq_of_asking hinside with ⟨hasks, rfl, hsession, rfl⟩
      rw [hsession]
      exact ⟨true, .answered hasks, fun base hbase => by simp [hbase]⟩
  | keep hplace =>
      refine h.proceed (by rw [hplace]; rfl) ?_
      intro found asked hinside
      rw [hplace] at hinside
      rcases eq_of_answered hinside with ⟨hasks, rfl, rfl, hsession, rfl⟩
      rw [hsession]
      exact ⟨true, inside_keep hprofile hasks, fun _ hbase => hbase⟩
  | leave hplace => exact h.leave hplace

/-- Every run keeps the order. -/
theorem moves_orderly {station : Station σ} (hprofile : station.platform.hasProfile = true)
    {session : Session σ} {crowd : Crowd σ n} {schedule : List (Fin n)}
    (hmoves : Moves station (.start n session) schedule crowd) :
    Orderly station session crowd := by
  induction hmoves with
  | stay => exact start_orderly station session
  | move _ hmove ih => exact move_orderly hprofile ih hmove

/-! ## Runs to the end -/

/-- Who has the lock can always move. -/
theorem exists_move_of_hasLock (station : Station σ) {crowd : Crowd σ n} {i : Fin n}
    (hlock : (crowd.place i).hasLock = true) : ∃ next, Move station i crowd next := by
  cases hplace : crowd.place i with
  | inside =>
      cases hfresh : crowd.session.cache.isFresh station.timeToLive
          (station.clock crowd.session.host).1 with
      | true => exact ⟨_, .find hplace hfresh⟩
      | false => exact ⟨_, .miss hplace hfresh⟩
  | asking now => exact ⟨_, .ask hplace⟩
  | answered now answer => exact ⟨_, .keep hplace⟩
  | leaving outcome => exact ⟨_, .leave hplace⟩
  | called => simp [hplace, Place.hasLock] at hlock
  | waiting => simp [hplace, Place.hasLock] at hlock
  | served outcome => simp [hplace, Place.hasLock] at hlock

/-- In an orderly crowd in which nobody can move, nobody has the lock. -/
theorem holder_of_stuck {station : Station σ} {session : Session σ} {crowd : Crowd σ n}
    (h : Orderly station session crowd) (hstuck : Stuck station crowd) : crowd.holder = none := by
  cases hholder : crowd.holder with
  | none => rfl
  | some i =>
      rcases h.held i hholder with ⟨others, asked, -, hinside, -⟩
      rcases exists_move_of_hasLock station (hasLock_of_inside hinside) with ⟨next, hmove⟩
      exact absurd hmove (hstuck i next)

/-- In an orderly crowd in which nobody can move, everybody has had the lock. -/
theorem mem_entered_of_stuck {station : Station σ} (hprofile : station.platform.hasProfile = true)
    {session : Session σ} {crowd : Crowd σ n} (h : Orderly station session crowd)
    (hstuck : Stuck station crowd) (i : Fin n) : i ∈ crowd.entered := by
  have hfree : crowd.holder = none := holder_of_stuck h hstuck
  by_contra hmem
  rcases h.outside i hmem with hcalled | hwaiting
  · exact hstuck i _ (.queue hcalled hprofile)
  · exact hstuck i _ (.enter hwaiting hfree)

/-- When nobody can move any more, everybody has been served as if all had come one after another,
in the order in which they got the lock. -/
theorem moves_serial {station : Station σ} (hprofile : station.platform.hasProfile = true)
    {session : Session σ} {crowd : Crowd σ n} {schedule : List (Fin n)}
    (hmoves : Moves station (.start n session) schedule crowd) (hstuck : Stuck station crowd) :
    crowd.entered.Perm (List.finRange n) ∧
      crowd.session = serial station session n ∧
      crowd.asked = askers station session crowd.entered ∧
      ∀ k i, crowd.entered[k]? = some i →
        crowd.place i = .served (powerText station (serial station session k)).1 := by
  have h : Orderly station session crowd := moves_orderly hprofile hmoves
  have hfree : crowd.holder = none := holder_of_stuck h hstuck
  have hperm : crowd.entered.Perm (List.finRange n) := by
    refine (List.perm_ext_iff_of_nodup h.nodup (List.nodup_finRange n)).mpr ?_
    intro i
    exact ⟨fun _ => List.mem_finRange i, fun _ => mem_entered_of_stuck hprofile h hstuck i⟩
  have hlength : crowd.entered.length = n := hperm.length_eq.trans List.length_finRange
  rcases h.free hfree with ⟨hsession, hasked⟩
  refine ⟨hperm, by rw [hsession, hlength], hasked, ?_⟩
  intro k i hk
  exact h.served k i hk (by simp [hfree])

end HostVitals.Collect
