import HostVitals.Proofs.ProfileCache.Serial

/-!
# Callers share one refresh

When callers come at once and no fresh text is kept, those that get the lock run the probe one
after another until it brings a text.  Everybody who comes later uses that text, and the probe is
not run again.  The clock stands still meanwhile.

Main results:

- `serial_until`: until the probe brings a text, what is kept stays as it was.
- `serial_from`: from then on the text is kept.
- `callers_share_refresh`: which callers run the probe and what each caller gets, whatever the
  order of the moves.
-/

namespace HostVitals.Collect

open HostVitals.Cache

variable {σ : Type} {n : Nat}

/-- The clock of a station stands still, and the probe of the power profile gives answers in turn.
The hosts on which it has been run a number of times are those of a class, which looking at the
clock does not lead out of. -/
structure AnswersInTurn (station : Station σ) (hosts : Nat → σ → Prop) (now : Nat)
    (answers : Nat → Answer String) : Prop where
  clock : ∀ k host, hosts k host → (station.clock host).1 = now ∧ hosts k (station.clock host).2
  profile : ∀ k host, hosts k host →
    (station.platform.profile host).outcome = .ok (answers k) ∧
      hosts (k + 1) (station.platform.profile host).host

section

variable {station : Station σ} {hosts : Nat → σ → Prop} {now : Nat}
  {answers : Nat → Answer String} {session found : Session σ} {k : Nat}

/-! ## One caller -/

/-- A caller that finds a fresh text gets it and leaves it. -/
theorem powerText_fresh (hprofile : station.platform.hasProfile = true)
    (hturn : AnswersInTurn station hosts now answers) (hhost : hosts k found.host)
    (hfresh : found.cache.isFresh station.timeToLive now = true) :
    asks station found = false ∧ (powerText station found).1 = .ok found.cache.text ∧
      (powerText station found).2.cache = found.cache ∧
      hosts k (powerText station found).2.host := by
  rcases hturn.clock k found.host hhost with ⟨hclock, hnext⟩
  rw [← hclock] at hfresh
  rw [run_powerText_fresh hprofile hfresh]
  exact ⟨by simp [asks, hfresh], rfl, rfl, hnext⟩

/-- A caller that finds no fresh text runs the probe and takes in its answer. -/
theorem powerText_stale (hprofile : station.platform.hasProfile = true)
    (hturn : AnswersInTurn station hosts now answers) (hhost : hosts k found.host)
    (hstale : found.cache.isFresh station.timeToLive now = false) :
    let kept := (news now (.ok (answers k))).or found.cache
    asks station found = true ∧ (powerText station found).1 = .ok (Cache.text kept) ∧
      (powerText station found).2.cache = kept ∧
      hosts (k + 1) (powerText station found).2.host := by
  rcases hturn.clock k found.host hhost with ⟨hclock, hnext⟩
  rcases hturn.profile k _ hnext with ⟨hanswer, hlater⟩
  rw [← hclock] at hstale
  rw [run_powerText_stale hprofile hstale]
  refine ⟨by simp [asks, hstale], ?_, ?_, hlater⟩
  · simp only [hanswer, hclock, refresh_outcome]
    rfl
  · simp only [hanswer, hclock, refresh_cache]

/-! ## Many callers -/

/-- Until the probe brings a text, what is kept stays as it was. -/
theorem serial_until (hprofile : station.platform.hasProfile = true)
    (hturn : AnswersInTurn station hosts now answers) (hhost : hosts 0 session.host)
    (hstale : session.cache.isFresh station.timeToLive now = false)
    (hnothing : ∀ j < k, news now (.ok (answers j)) = none) :
    (serial station session k).cache = session.cache ∧
      hosts k (serial station session k).host := by
  induction k with
  | zero => exact ⟨rfl, hhost⟩
  | succ k ih =>
      rcases ih (fun j hj => hnothing j (by omega)) with ⟨hcache, hhosts⟩
      rcases powerText_stale hprofile hturn hhosts (by rw [hcache]; exact hstale) with
        ⟨-, -, hkept, hnext⟩
      rw [hnothing k (by omega), Option.none_or, hcache] at hkept
      exact ⟨hkept, hnext⟩

/-- A fresh text stays as it is. -/
theorem serial_from (hprofile : station.platform.hasProfile = true)
    (hturn : AnswersInTurn station hosts now answers) {m : Nat}
    (hhosts : hosts m (serial station session k).host)
    (hfresh : (serial station session k).cache.isFresh station.timeToLive now = true) (d : Nat) :
    (serial station session (k + d)).cache = (serial station session k).cache ∧
      hosts m (serial station session (k + d)).host := by
  induction d with
  | zero => exact ⟨rfl, hhosts⟩
  | succ d ih =>
      rcases ih with ⟨hcache, hhost⟩
      rcases powerText_fresh hprofile hturn hhost (by rw [hcache]; exact hfresh) with
        ⟨-, -, hkept, hnext⟩
      exact ⟨hkept.trans hcache, hnext⟩

/-- A caller before the first text runs the probe and gets what was kept before. -/
theorem outcome_until (hprofile : station.platform.hasProfile = true)
    (hturn : AnswersInTurn station hosts now answers) (hhost : hosts 0 session.host)
    (hstale : session.cache.isFresh station.timeToLive now = false)
    (hnothing : ∀ j ≤ k, news now (.ok (answers j)) = none) :
    asks station (serial station session k) = true ∧
      (powerText station (serial station session k)).1 = .ok session.cache.text := by
  rcases serial_until hprofile hturn hhost hstale (fun j hj => hnothing j (Nat.le_of_lt hj)) with
    ⟨hcache, hhosts⟩
  rcases powerText_stale hprofile hturn hhosts (by rw [hcache]; exact hstale) with
    ⟨hasks, houtcome, -, -⟩
  rw [hnothing k (Nat.le_refl k), Option.none_or, hcache] at houtcome
  exact ⟨hasks, houtcome⟩

/-- The caller to whom the probe brings a text runs the probe, gets the text and leaves it. -/
theorem outcome_first (hprofile : station.platform.hasProfile = true)
    (hturn : AnswersInTurn station hosts now answers) (hhost : hosts 0 session.host)
    (hstale : session.cache.isFresh station.timeToLive now = false) {kept : Kept}
    (hkept : news now (.ok (answers k)) = some kept)
    (hnothing : ∀ j < k, news now (.ok (answers j)) = none) :
    asks station (serial station session k) = true ∧
      (powerText station (serial station session k)).1 = .ok kept.text ∧
      (serial station session (k + 1)).cache = some kept ∧
      hosts (k + 1) (serial station session (k + 1)).host := by
  rcases serial_until hprofile hturn hhost hstale hnothing with ⟨hcache, hhosts⟩
  have hfound := powerText_stale hprofile hturn hhosts (by rw [hcache]; exact hstale)
  rw [hkept] at hfound
  exact hfound

/-- A caller after the first text gets it without running the probe. -/
theorem outcome_from (hprofile : station.platform.hasProfile = true)
    (hlive : 0 < station.timeToLive)
    (hturn : AnswersInTurn station hosts now answers) (hhost : hosts 0 session.host)
    (hstale : session.cache.isFresh station.timeToLive now = false) {kept : Kept}
    (hkept : news now (.ok (answers k)) = some kept)
    (hnothing : ∀ j < k, news now (.ok (answers j)) = none) {j : Nat} (hj : k < j) :
    asks station (serial station session j) = false ∧
      (powerText station (serial station session j)).1 = .ok kept.text := by
  rcases outcome_first hprofile hturn hhost hstale hkept hnothing with ⟨-, -, hcache, hhosts⟩
  have hfresh : (serial station session (k + 1)).cache.isFresh station.timeToLive now = true := by
    rw [hcache, isFresh_iff]
    exact ⟨kept, rfl, by rw [fetchedAt_of_news hkept, Nat.sub_self]; exact hlive⟩
  rcases serial_from hprofile hturn hhosts hfresh (j - (k + 1)) with ⟨hsame, hhost'⟩
  rw [show k + 1 + (j - (k + 1)) = j by omega] at hsame hhost'
  rcases powerText_fresh hprofile hturn hhost' (by rw [hsame]; exact hfresh) with
    ⟨hasks, houtcome, -, -⟩
  rw [hsame, hcache] at houtcome
  exact ⟨hasks, houtcome⟩

/-- While a fresh text is kept from the start, every caller gets it without running the probe. -/
theorem outcome_fresh (hprofile : station.platform.hasProfile = true)
    (hturn : AnswersInTurn station hosts now answers) (hhost : hosts 0 session.host)
    (hfresh : session.cache.isFresh station.timeToLive now = true) (j : Nat) :
    asks station (serial station session j) = false ∧
      (powerText station (serial station session j)).1 = .ok session.cache.text := by
  have hstart : (serial station session 0).cache.isFresh station.timeToLive now = true := hfresh
  rcases serial_from (k := 0) hprofile hturn hhost hstart j with ⟨hsame, hhosts⟩
  rw [Nat.zero_add] at hsame hhosts
  have hcache : (serial station session j).cache = session.cache := hsame
  rcases powerText_fresh hprofile hturn hhosts (by rw [hcache]; exact hfresh) with
    ⟨hasks, houtcome, -, -⟩
  rw [hcache] at houtcome
  exact ⟨hasks, houtcome⟩

/-- The callers up to the one to whom the probe brings its first text run the probe, and the text
divides those that get what was kept before from those that get the new text. -/
theorem outcome_shared (hprofile : station.platform.hasProfile = true)
    (hlive : 0 < station.timeToLive)
    (hturn : AnswersInTurn station hosts now answers) (hhost : hosts 0 session.host)
    (hstale : session.cache.isFresh station.timeToLive now = false) {kept : Kept}
    (hkept : news now (.ok (answers k)) = some kept)
    (hnothing : ∀ j < k, news now (.ok (answers j)) = none) (j : Nat) :
    asks station (serial station session j) = decide (j < k + 1) ∧
      (powerText station (serial station session j)).1 =
        .ok (if j < k then session.cache.text else kept.text) := by
  rcases Nat.lt_trichotomy j k with hlt | rfl | hgt
  · obtain ⟨hasks, houtcome⟩ := outcome_until hprofile hturn hhost hstale
      (fun i hi => hnothing i (Nat.lt_of_le_of_lt hi hlt))
    exact ⟨by rw [hasks]; simp; omega, by rw [houtcome, if_pos hlt]⟩
  · rcases outcome_first hprofile hturn hhost hstale hkept hnothing with ⟨hasks, houtcome, -, -⟩
    exact ⟨by rw [hasks]; simp, by rw [houtcome, if_neg (Nat.lt_irrefl j)]⟩
  · rcases outcome_from hprofile hlive hturn hhost hstale hkept hnothing hgt with ⟨hasks, houtcome⟩
    exact ⟨by rw [hasks]; simp; omega, by rw [houtcome, if_neg (by omega)]⟩

end

/-! ## All callers at once -/

/-- When the callers up to a number run the probe and the others do not, these are the first of
the list. -/
theorem askers_eq_take {station : Station σ} {session : Session σ} {m : Nat}
    (callers : List (Fin n))
    (hasks : ∀ k < callers.length,
      asks station (serial station session k) = decide (k < m)) :
    askers station session callers = callers.take m := by
  induction callers using List.reverseRecOn with
  | nil => simp [askers]
  | append_singleton callers i ih =>
      rw [List.length_append, List.length_singleton] at hasks
      rw [askers_append, ih (fun k hk => hasks k (by omega)), hasks _ (Nat.lt_succ_self _),
        List.take_append]
      by_cases hlt : callers.length < m
      · have htake : [i].take (m - callers.length) = [i] :=
          List.take_of_length_le (by simp; omega)
        simp [hlt, htake]
      · have hzero : m - callers.length = 0 := by omega
        simp [hlt, hzero]

/-- What is known of callers one after another holds of callers at once, in the order in which
they got the lock. -/
theorem crowd_of_serial {station : Station σ} (hprofile : station.platform.hasProfile = true)
    {session : Session σ} {crowd : Crowd σ n} {schedule : List (Fin n)}
    (hmoves : Moves station (.start n session) schedule crowd) (hstuck : Stuck station crowd)
    {m : Nat} {text : Nat → String}
    (hserial : ∀ j < n, asks station (serial station session j) = decide (j < m) ∧
      (powerText station (serial station session j)).1 = .ok (text j)) :
    crowd.asked = crowd.entered.take m ∧
      ∀ j i, crowd.entered[j]? = some i → crowd.place i = .served (.ok (text j)) := by
  rcases moves_serial hprofile hmoves hstuck with ⟨hperm, -, hasked, hplace⟩
  have hlength : crowd.entered.length = n := hperm.length_eq.trans List.length_finRange
  constructor
  · rw [hasked]
    exact askers_eq_take crowd.entered (fun j hj => (hserial j (hlength ▸ hj)).1)
  · intro j i hj
    have hlt : j < crowd.entered.length := (List.getElem?_eq_some_iff.mp hj).1
    rw [hplace j i hj, (hserial j (hlength ▸ hlt)).2]

/-- A text that callers get at every position is the text of all callers. -/
theorem place_of_constant {crowd : Crowd σ n} (hperm : crowd.entered.Perm (List.finRange n))
    {outcome : Except Breakdown String}
    (hplace : ∀ (j : Nat) i, crowd.entered[j]? = some i → crowd.place i = .served outcome)
    (i : Fin n) : crowd.place i = .served outcome := by
  rcases List.mem_iff_getElem?.mp (hperm.mem_iff.mpr (List.mem_finRange i)) with ⟨j, hj⟩
  exact hplace j i hj

/-- Callers of a station with a power profile come at once, on a clock that stands still, with
anything kept at the start, any answers of the probe and any order of their moves.  They come to an
end, and then: all have been served, in the order in which they got the lock.  When a fresh text
was kept, nobody ran the probe and all got that text.  Otherwise the callers ran the probe one
after another until it brought its first text, and not again; those before got what was kept at
the start, and all others got the new text. -/
theorem callers_share_refresh {station : Station σ} {hosts : Nat → σ → Prop} {now : Nat}
    {answers : Nat → Answer String} {session : Session σ} {schedule : List (Fin n)}
    {crowd : Crowd σ n} (hprofile : station.platform.hasProfile = true)
    (hlive : 0 < station.timeToLive) (hturn : AnswersInTurn station hosts now answers)
    (hhost : hosts 0 session.host) (hmoves : Moves station (.start n session) schedule crowd) :
    schedule.length ≤ 6 * n ∧ (Stuck station crowd →
      crowd.entered.Perm (List.finRange n) ∧
      (session.cache.isFresh station.timeToLive now = true →
        crowd.asked = [] ∧ ∀ i, crowd.place i = .served (.ok session.cache.text)) ∧
      (session.cache.isFresh station.timeToLive now = false →
        (∀ k kept, k < n → (∀ j < k, news now (.ok (answers j)) = none) →
          news now (.ok (answers k)) = some kept →
            crowd.asked = crowd.entered.take (k + 1) ∧
            ∀ j i, crowd.entered[j]? = some i →
              crowd.place i = .served (.ok (if j < k then session.cache.text else kept.text))) ∧
        ((∀ j < n, news now (.ok (answers j)) = none) →
          crowd.asked = crowd.entered ∧
            ∀ i, crowd.place i = .served (.ok session.cache.text)) ∧
        (∀ kept, 0 < n → news now (.ok (answers 0)) = some kept →
          crowd.asked.length = 1 ∧ ∀ i, crowd.place i = .served (.ok kept.text)))) := by
  refine ⟨moves_length_le hmoves, ?_⟩
  intro hstuck
  rcases moves_serial hprofile hmoves hstuck with ⟨hperm, -, -, -⟩
  have hlength : crowd.entered.length = n := hperm.length_eq.trans List.length_finRange
  refine ⟨hperm, ?_, ?_⟩
  · intro hfresh
    obtain ⟨hasked, hplace⟩ := crowd_of_serial (m := 0) hprofile hmoves hstuck
      (fun j _ => outcome_fresh hprofile hturn hhost hfresh j)
    exact ⟨hasked, place_of_constant hperm hplace⟩
  · intro hstale
    refine ⟨?_, ?_, ?_⟩
    · intro k kept _ hnothing hkept
      exact crowd_of_serial hprofile hmoves hstuck
        (fun j _ => outcome_shared hprofile hlive hturn hhost hstale hkept hnothing j)
    · intro hnothing
      have hserial : ∀ j < n, asks station (serial station session j) = decide (j < n) ∧
          (powerText station (serial station session j)).1 = .ok session.cache.text := by
        intro j hj
        obtain ⟨hasks, houtcome⟩ := outcome_until hprofile hturn hhost hstale
          (fun i hi => hnothing i (Nat.lt_of_le_of_lt hi hj))
        exact ⟨by rw [hasks]; simp [hj], houtcome⟩
      rcases crowd_of_serial hprofile hmoves hstuck hserial with ⟨hasked, hplace⟩
      rw [List.take_of_length_le (by omega)] at hasked
      exact ⟨hasked, place_of_constant hperm hplace⟩
    · intro kept hpos hkept
      obtain ⟨hasked, hplace⟩ := crowd_of_serial hprofile hmoves hstuck
        (fun j _ => outcome_shared hprofile hlive hturn hhost hstale hkept (by simp) j)
      refine ⟨?_, place_of_constant hperm (fun j i hj => ?_)⟩
      · rw [hasked, List.length_take]
        omega
      · rw [hplace j i hj, if_neg (Nat.not_lt_zero j)]

/-- A station whose probe fails once and then gives a text. -/
def recoveringStation : Station Nat where
  platform :=
    { Platform.bare Nat "Trial" with
      hasProfile := true
      profile := fun asked =>
        ⟨.ok (if asked = 0 then .error .noBatteryData else .ok "new"), [], asked + 1⟩ }
  sensors := .constant (.ok [])
  clock := fun asked => (100, asked)
  timeToLive := 30

/-- Three callers of a station whose probe fails once.  The first to get the lock gets the old
text, the second the new one, and the third the new one without running the probe. -/
theorem callers_share_refresh_recovering :
    ∃ (schedule : List (Fin 3)) (crowd : Crowd Nat 3),
      Moves recoveringStation (.start 3 ⟨0, some ⟨"old", 10⟩, []⟩) schedule crowd ∧
        Stuck recoveringStation crowd ∧ crowd.entered = [2, 0, 1] ∧ crowd.asked = [2, 0] ∧
        crowd.place 2 = .served (.ok "old") ∧ crowd.place 0 = .served (.ok "new") ∧
        crowd.place 1 = .served (.ok "new") := by
  have hmoves : ∃ schedule crowd,
      Moves recoveringStation (.start 3 ⟨0, some ⟨"old", 10⟩, []⟩) schedule crowd ∧
        crowd.entered = [2, 0, 1] ∧ ∀ i, ∃ outcome, crowd.place i = .served outcome := by
    have hstay : Moves recoveringStation (.start 3 ⟨0, some ⟨"old", 10⟩, []⟩) [] _ := .stay
    have hfirst := hstay
      |>.move (.queue (i := 2) rfl rfl)
      |>.move (.enter (i := 2) rfl rfl)
      |>.move (.queue (i := 1) rfl rfl)
      |>.move (.miss (i := 2) rfl rfl)
      |>.move (.queue (i := 0) rfl rfl)
      |>.move (.ask (i := 2) rfl)
      |>.move (.keep (i := 2) rfl)
      |>.move (.leave (i := 2) rfl)
    have hsecond := hfirst
      |>.move (.enter (i := 0) rfl rfl)
      |>.move (.miss (i := 0) rfl rfl)
      |>.move (.ask (i := 0) rfl)
      |>.move (.keep (i := 0) rfl)
      |>.move (.leave (i := 0) rfl)
    have hthird := hsecond
      |>.move (.enter (i := 1) rfl rfl)
      |>.move (.find (i := 1) rfl rfl)
      |>.move (.leave (i := 1) rfl)
    refine ⟨_, _, hthird, rfl, ?_⟩
    intro i
    match i with
    | 0 | 1 | 2 => exact ⟨_, rfl⟩
  rcases hmoves with ⟨schedule, crowd, hmoves, hentered, hserved⟩
  have hstuck : Stuck recoveringStation crowd := stuck_of_served hserved
  have hturn : AnswersInTurn recoveringStation (fun asked host => host = asked) 100
      (fun asked => if asked = 0 then .error .noBatteryData else .ok "new") :=
    ⟨fun asked host h => ⟨rfl, h⟩, fun asked host h => by subst h; exact ⟨rfl, rfl⟩⟩
  rcases callers_share_refresh rfl (by decide) hturn rfl hmoves with ⟨-, hend⟩
  rcases hend hstuck with ⟨-, -, hstale⟩
  rcases hstale (by decide) with ⟨hfirst, -, -⟩
  rcases hfirst 1 ⟨"new", 100⟩ (by decide) (by simp [news]) rfl with ⟨hasked, hplace⟩
  rw [hentered] at hasked hplace
  exact ⟨schedule, crowd, hmoves, hstuck, hentered, hasked, hplace 0 2 rfl, hplace 1 0 rfl,
    hplace 2 1 rfl⟩

end HostVitals.Collect
