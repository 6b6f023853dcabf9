import HostVitals.Proofs.ProfileCache.History

/-!
# How far apart texts are stored

A text is stored only when the one before it is as old as the time to live.  A clock that goes
back makes the kept text look new, never old, so that no order of jumps, failures and retries
brings two stored texts closer together.

Main results:

- `fetchedAt_mono`: the clock reading of the kept text never goes back.
- `spaced_history`: the texts of a history are at least the time to live apart.
- `served_from_kept`: within the time to live a kept text serves every request.
- `stores_spaced`: in any stretch shorter than the time to live at most one text is stored, and it
  serves all later requests of the stretch.
-/

namespace HostVitals.Cache

/-- The second text was asked for when the first was as old as the time to live. -/
def Spaced (timeToLive : Nat) (first second : Kept) : Prop :=
  first.fetchedAt + timeToLive ≤ second.fetchedAt

variable {timeToLive : Nat} {session : Session Nat}

/-! ## One request -/

/-- What a request brings has the clock reading that it saw. -/
theorem fetchedAt_of_serve {request : Request} {kept : Kept}
    (h : (serve timeToLive session request).news = some kept) : kept.fetchedAt = request.now := by
  unfold Service.news at h
  split at h
  · cases h
  · exact fetchedAt_of_news h

/-- A request that brings a text finds the old one as old as the time to live. -/
theorem spaced_serve (hlive : 0 < timeToLive) {request : Request} {old kept : Kept}
    (hold : session.cache = some old)
    (hkept : (serve timeToLive session request).news = some kept) :
    Spaced timeToLive old kept := by
  have hnow : kept.fetchedAt = request.now := fetchedAt_of_serve hkept
  cases hfresh : session.cache.isFresh timeToLive request.now with
  | true =>
      rw [news_serve_fresh hfresh] at hkept
      cases hkept
  | false =>
      have hage : timeToLive ≤ request.now - old.fetchedAt :=
        isFresh_eq_false_iff.mp hfresh old hold
      unfold Spaced
      omega

/-- What is kept after a request was not asked for before what was kept. -/
theorem fetchedAt_serve (hlive : 0 < timeToLive) (request : Request) {old : Kept}
    (hold : session.cache = some old) :
    ∃ kept, (serve timeToLive session request).after.cache = some kept ∧
      old.fetchedAt ≤ kept.fetchedAt := by
  rw [cache_serve]
  cases hnews : (serve timeToLive session request).news with
  | none => exact ⟨old, hold, Nat.le_refl _⟩
  | some kept =>
      have hspaced := spaced_serve hlive hold hnews
      refine ⟨kept, rfl, ?_⟩
      unfold Spaced at hspaced
      omega

/-! ## Many requests -/

/-- The clock reading of the kept text never goes back. -/
theorem fetchedAt_mono (hlive : 0 < timeToLive) (requests : List Request) {old : Kept}
    (hold : session.cache = some old) :
    ∃ kept, (sessionAfter timeToLive session requests).cache = some kept ∧
      old.fetchedAt ≤ kept.fetchedAt := by
  induction requests generalizing session old with
  | nil => exact ⟨old, hold, Nat.le_refl _⟩
  | cons request requests ih =>
      rcases fetchedAt_serve hlive request hold with ⟨next, hnext, hle⟩
      rcases ih hnext with ⟨kept, hkept, hle'⟩
      exact ⟨kept, hkept, Nat.le_trans hle hle'⟩

/-- Every text that requests bring is as far as the time to live from what was kept before. -/
theorem spaced_from_kept (hlive : 0 < timeToLive) (requests : List Request) {old kept : Kept}
    (hold : session.cache = some old)
    (hkept : kept ∈ (history timeToLive session requests).filterMap Service.news) :
    Spaced timeToLive old kept := by
  induction requests generalizing session old with
  | nil => simp [history] at hkept
  | cons request requests ih =>
      rcases fetchedAt_serve hlive request hold with ⟨next, hnext, hle⟩
      simp only [history, List.filterMap_cons] at hkept
      split at hkept
      · have hspaced := ih hnext hkept
        unfold Spaced at hspaced ⊢
        omega
      · rename_i first hfirst
        rcases List.mem_cons.mp hkept with rfl | hlater
        · exact spaced_serve hlive hold hfirst
        · have hspaced := ih hnext hlater
          unfold Spaced at hspaced ⊢
          omega

/-- The texts that a history brings are at least the time to live apart. -/
theorem spaced_history (hlive : 0 < timeToLive) (session : Session Nat)
    (requests : List Request) :
    ((history timeToLive session requests).filterMap Service.news).Pairwise
      (Spaced timeToLive) := by
  induction requests generalizing session with
  | nil => exact List.Pairwise.nil
  | cons request requests ih =>
      simp only [history, List.filterMap_cons]
      split
      · exact ih _
      · rename_i first hfirst
        refine List.pairwise_cons.mpr ⟨?_, ih _⟩
        intro later hlater
        have hcache : (serve timeToLive session request).after.cache = some first := by
          rw [cache_serve, hfirst, Option.some_or]
        exact spaced_from_kept hlive requests hcache hlater

/-- Every text that a history brings has the clock reading of one of its requests. -/
theorem request_of_news {requests : List Request} {kept : Kept}
    (hkept : kept ∈ (history timeToLive session requests).filterMap Service.news) :
    ∃ request ∈ requests, kept.fetchedAt = request.now := by
  induction requests generalizing session with
  | nil => simp [history] at hkept
  | cons first requests ih =>
      simp only [history, List.filterMap_cons] at hkept
      split at hkept
      · rcases ih hkept with ⟨request, hmem, hnow⟩
        exact ⟨request, List.mem_cons_of_mem first hmem, hnow⟩
      · rename_i text htext
        rcases List.mem_cons.mp hkept with rfl | hlater
        · exact ⟨first, List.mem_cons_self, fetchedAt_of_serve htext⟩
        · rcases ih hlater with ⟨request, hmem, hnow⟩
          exact ⟨request, List.mem_cons_of_mem first hmem, hnow⟩

/-! ## A stretch shorter than the time to live -/

/-- A service that gives a kept text and does not ask for another. -/
def Service.ServedFrom (kept : Kept) (service : Service) : Prop :=
  service.outcome = .ok kept.text ∧ service.after.host = service.before.host

/-- As long as the clock readings stay below the end of its life, a kept text serves every
request. -/
theorem served_from_kept (hlive : 0 < timeToLive) {kept : Kept} (hkept : session.cache = some kept)
    {requests : List Request}
    (hnow : ∀ request ∈ requests, request.now < kept.fetchedAt + timeToLive) :
    ∀ service ∈ history timeToLive session requests, service.ServedFrom kept := by
  induction requests with
  | nil => simp [history]
  | cons request requests ih =>
      have hlt : request.now < kept.fetchedAt + timeToLive :=
        hnow request List.mem_cons_self
      have hfresh : session.cache.isFresh timeToLive request.now = true :=
        isFresh_iff.mpr ⟨kept, hkept, by omega⟩
      intro service hservice
      rw [history, serve_fresh hfresh] at hservice
      rcases List.mem_cons.mp hservice with rfl | hlater
      · exact ⟨by rw [hkept]; rfl, rfl⟩
      · exact ih (fun r hr => hnow r (List.mem_cons_of_mem request hr)) service hlater

/-- In a stretch shorter than the time to live, the first text that is stored serves all later
requests. -/
theorem served_after_store (hlive : 0 < timeToLive) {low high : Nat}
    (hshort : high < low + timeToLive) {requests : List Request}
    (hnow : ∀ request ∈ requests, low ≤ request.now ∧ request.now ≤ high) :
    (history timeToLive session requests).Pairwise
      (fun first later => ∀ kept, first.news = some kept → later.ServedFrom kept) := by
  induction requests generalizing session with
  | nil => exact List.Pairwise.nil
  | cons request requests ih =>
      have hlater : ∀ r ∈ requests, low ≤ r.now ∧ r.now ≤ high :=
        fun r hr => hnow r (List.mem_cons_of_mem request hr)
      refine List.pairwise_cons.mpr ⟨?_, ih hlater⟩
      intro later hmem kept hkept
      have hcache : (serve timeToLive session request).after.cache = some kept := by
        rw [cache_serve, hkept, Option.some_or]
      have hlow : low ≤ kept.fetchedAt := by
        rw [fetchedAt_of_serve hkept]
        exact (hnow request List.mem_cons_self).1
      refine served_from_kept hlive hcache ?_ later hmem
      intro r hr
      have := (hlater r hr).2
      omega

/-- In a stretch shorter than the time to live, at most one text is stored. -/
theorem length_stores_le_one (hlive : 0 < timeToLive) {low high : Nat}
    (hshort : high < low + timeToLive) {requests : List Request}
    (hnow : ∀ request ∈ requests, low ≤ request.now ∧ request.now ≤ high) :
    ((history timeToLive session requests).filterMap Service.news).length ≤ 1 := by
  have hspaced := spaced_history hlive session requests
  have hwithin : ∀ kept ∈ (history timeToLive session requests).filterMap Service.news,
      low ≤ kept.fetchedAt ∧ kept.fetchedAt ≤ high := by
    intro kept hkept
    rcases request_of_news hkept with ⟨request, hmem, hreading⟩
    rw [hreading]
    exact hnow request hmem
  cases hstores : (history timeToLive session requests).filterMap Service.news with
  | nil => simp
  | cons first rest =>
      cases rest with
      | nil => simp
      | cons second rest =>
          -- two stored texts would be as far apart as the time to live
          rw [hstores] at hspaced hwithin
          have hapart : Spaced timeToLive first second :=
            (List.pairwise_cons.mp hspaced).1 second List.mem_cons_self
          have hfirst := (hwithin first List.mem_cons_self).1
          have hsecond := (hwithin second (List.mem_cons_of_mem _ List.mem_cons_self)).2
          unfold Spaced at hapart
          omega

/-- In every run, with any clock readings and any answers: the clock reading of the kept text
never goes back, and the texts that are stored are at least the time to live apart.  Hence in a
stretch of requests whose clock readings lie within less than the time to live, at most one text
is stored, and it is given to all later requests of the stretch without asking again. -/
theorem stores_spaced (timeToLive : Nat) (hlive : 0 < timeToLive)
    (earlier stretch : List Request) :
    let before := sessionAfter timeToLive (.start 0) earlier
    let after := sessionAfter timeToLive before stretch
    let services := history timeToLive before stretch
    (∀ reading, before.cache.lastFetch = some reading →
        ∃ later, after.cache.lastFetch = some later ∧ reading ≤ later) ∧
      ((history timeToLive (.start 0) (earlier ++ stretch)).filterMap Service.news).Pairwise
        (Spaced timeToLive) ∧
      ∀ low high, high < low + timeToLive →
        (∀ request ∈ stretch, low ≤ request.now ∧ request.now ≤ high) →
        (services.filterMap Service.news).length ≤ 1 ∧
          services.Pairwise (fun first later =>
            ∀ kept, first.news = some kept → later.ServedFrom kept) := by
  intro before after services
  refine ⟨?_, spaced_history hlive _ _, ?_⟩
  · intro reading hreading
    rcases Option.map_eq_some_iff.mp hreading with ⟨old, hold, rfl⟩
    rcases fetchedAt_mono hlive stretch hold with ⟨kept, hkept, hle⟩
    refine ⟨kept.fetchedAt, ?_, hle⟩
    exact Option.map_eq_some_iff.mpr ⟨kept, hkept, rfl⟩
  · intro low high hshort hnow
    exact ⟨length_stores_le_one hlive hshort hnow, served_after_store hlive hshort hnow⟩

/-- On a clock that goes back, with a failure before the stored text and a breakdown after it. -/
theorem stores_spaced_clock_back :
    let earlier : List Request := [⟨100, .ok (.ok "a")⟩, ⟨40, .ok (.ok "b")⟩]
    let stretch : List Request :=
      [⟨131, .ok (.error .noBatteryData)⟩, ⟨140, .ok (.ok "c")⟩, ⟨135, .ok (.ok "d")⟩,
        ⟨160, .error .untold⟩]
    let services := history 30 (sessionAfter 30 (.start 0) earlier) stretch
    (services.filterMap Service.news).length ≤ 1 ∧
      services.Pairwise (fun first later =>
        ∀ kept, first.news = some kept → later.ServedFrom kept) ∧
      services.filterMap Service.news = [⟨"c", 140⟩] := by
  intro earlier stretch services
  have hnow : ∀ request ∈ stretch, 131 ≤ request.now ∧ request.now ≤ 160 := by
    simp [stretch]
  rcases stores_spaced 30 (by decide) earlier stretch with ⟨-, -, hstretch⟩
  rcases hstretch 131 160 (by decide) hnow with ⟨hone, hserved⟩
  exact ⟨hone, hserved, rfl⟩

end HostVitals.Cache
