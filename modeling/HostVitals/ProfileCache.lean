import HostVitals.Breakdown
import HostVitals.Failure
import HostVitals.Log

/-!
# The cache of the power profile

The power profile takes long to get and changes slowly, so its text is kept and used again for a
while.  A text that is too old is asked for again; when that fails, gives nothing or breaks down,
the old text stays in use, and its age with it.

Main results:

- `isFresh_iff`: a text is fresh while its age is below the time to live.
- `access_fresh`, `access_stale`: a fresh text is used without asking, and no other is.
- `refresh_cache`: what an answer brings takes the place of the old text.
- `refresh_keeps`: an answer that brings nothing leaves the cache as it was.
-/

namespace HostVitals

/-- A text that is kept. -/
structure Kept where
  text : String
  /-- The clock reading, in nanoseconds, when it was asked for. -/
  fetchedAt : Nat
  deriving DecidableEq

/-- A cache: a text, if one was ever got. -/
abbrev Cache := Option Kept

namespace Cache

/-- The text in use, empty when there is none. -/
def text (cache : Cache) : String :=
  (cache.map Kept.text).getD ""

/-- The clock reading of the text in use. -/
def lastFetch (cache : Cache) : Option Nat :=
  cache.map Kept.fetchedAt

/-- Whether a text is kept that is younger than the time to live.  On a clock that went back it
counts as new. -/
def isFresh (timeToLive now : Nat) (cache : Cache) : Bool :=
  cache.any (fun kept => decide (now - kept.fetchedAt < timeToLive))

/-- What came of using the cache. -/
structure Access where
  /-- The text, unless asking for it broke down. -/
  outcome : Except Breakdown String
  asked : Bool
  notes : List LogRecord
  cache : Cache

/-- Takes in what came of asking for the text. -/
def refresh (now : Nat) (cache : Cache) : Except Breakdown (Except Failure String) → Access
  | .error breakdown => ⟨.error breakdown, true, [], cache⟩
  | .ok (.error failure) =>
    ⟨.ok cache.text, true, [⟨.debug, "Power profile refresh failed: " ++ failure.message⟩], cache⟩
  | .ok (.ok text) =>
    if text.isEmpty then
      ⟨.ok cache.text, true, [⟨.debug, "Power profile probe returned no output"⟩], cache⟩
    else ⟨.ok text, true, [], some ⟨text, now⟩⟩

/-- Uses the cache at a clock reading.  The text is asked for, with the given result, only when
none is fresh. -/
def access (timeToLive now : Nat) (cache : Cache)
    (answer : Except Breakdown (Except Failure String)) : Access :=
  if cache.isFresh timeToLive now then ⟨.ok cache.text, false, [], cache⟩
  else cache.refresh now answer

/-- What an answer brings: a text that is not empty, asked for at a clock reading. -/
def news (now : Nat) : Except Breakdown (Except Failure String) → Cache
  | .ok (.ok text) => if text.isEmpty then none else some ⟨text, now⟩
  | _ => none

/-! ## Freshness -/

/-- The text of a cache that keeps one. -/
@[simp] theorem text_some (kept : Kept) : Cache.text (some kept) = kept.text := rfl

/-- A text is fresh while its age, zero on a clock that went back, is below the time to live. -/
theorem isFresh_iff {timeToLive now : Nat} {cache : Cache} :
    cache.isFresh timeToLive now = true ↔
      ∃ kept, cache = some kept ∧ now - kept.fetchedAt < timeToLive := by
  cases cache with
  | none => simp [isFresh]
  | some kept => simp [isFresh]

/-- No text is fresh when none is kept, or one that is as old as the time to live. -/
theorem isFresh_eq_false_iff {timeToLive now : Nat} {cache : Cache} :
    cache.isFresh timeToLive now = false ↔
      ∀ kept, cache = some kept → timeToLive ≤ now - kept.fetchedAt := by
  cases cache with
  | none => simp [isFresh]
  | some kept => simp [isFresh]

/-! ## Asking -/

/-- A fresh text is used without asking. -/
theorem access_fresh {timeToLive now : Nat} {cache : Cache}
    (h : cache.isFresh timeToLive now = true)
    (answer : Except Breakdown (Except Failure String)) :
    cache.access timeToLive now answer = ⟨.ok cache.text, false, [], cache⟩ := by
  simp [access, h]

/-- Without a fresh text the answer is taken in. -/
theorem access_stale {timeToLive now : Nat} {cache : Cache}
    (h : cache.isFresh timeToLive now = false)
    (answer : Except Breakdown (Except Failure String)) :
    cache.access timeToLive now answer = cache.refresh now answer := by
  simp [access, h]

/-- What an answer brings has the clock reading it was asked for at. -/
theorem fetchedAt_of_news {now : Nat} {answer : Except Breakdown (Except Failure String)}
    {kept : Kept} (h : news now answer = some kept) : kept.fetchedAt = now := by
  unfold news at h
  split at h
  · split at h
    · cases h
    · cases h
      rfl
  · cases h

/-- Only a text brings anything. -/
theorem ok_of_news {now : Nat} {answer : Except Breakdown (Except Failure String)} {kept : Kept}
    (h : news now answer = some kept) : answer = .ok (.ok kept.text) := by
  unfold news at h
  split at h
  · split at h
    · cases h
    · cases h
      rfl
  · cases h

/-- What an answer brings takes the place of the old text. -/
theorem refresh_cache (now : Nat) (cache : Cache)
    (answer : Except Breakdown (Except Failure String)) :
    (cache.refresh now answer).cache = (news now answer).or cache := by
  rcases answer with breakdown | failure | text
  · rfl
  · rfl
  · by_cases h : text.isEmpty <;> simp [refresh, news, h]

/-- An answer that brings nothing leaves the cache as it was. -/
theorem refresh_keeps {now : Nat} {answer : Except Breakdown (Except Failure String)}
    (h : news now answer = none) (cache : Cache) :
    (cache.refresh now answer).cache = cache := by
  rw [refresh_cache, h, Option.none_or]

/-- Asking gives the text that is kept afterwards, or breaks down. -/
theorem refresh_outcome (now : Nat) (cache : Cache)
    (answer : Except Breakdown (Except Failure String)) :
    (cache.refresh now answer).outcome =
      answer.map (fun _ => Cache.text ((news now answer).or cache)) := by
  rcases answer with breakdown | failure | text
  · rfl
  · rfl
  · by_cases h : text.isEmpty <;> simp [refresh, news, h, Except.map]

end Cache

end HostVitals
