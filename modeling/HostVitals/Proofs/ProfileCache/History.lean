import Mathlib.Data.List.Induction
import HostVitals.Collect.Profile

/-!
# The history of a cache

A cache is used by one request after another.  Each request sees its own clock reading, and asking
for the text may do anything: bring a text, bring an empty one, fail or break down.  The requests
are served on a host that counts how often it is asked, so that asking can be seen from outside.

Main results:

- `cache_history`: what is kept is what the latest request that asked and got a text brought.
- `serve_stale`, `serve_fresh`: a request asks once when nothing fresh is kept, else not at all.
- `serve_latest`: text, clock reading and asking after any history of requests.
-/

namespace HostVitals.Cache

open HostVitals.Collect

/-! ## Requests -/

/-- A request for the text: the clock reading that it sees, and what comes of asking for the text,
should it ask. -/
structure Request where
  now : Nat
  answer : Except Breakdown (Answer String)

/-- Asks for the text, on a host that counts how often it is asked. -/
def Request.probe (request : Request) : Probe Nat (Answer String) := fun asked =>
  ⟨request.answer, [], asked + 1⟩

/-- A request that was served, what it got, and the sessions that it found and left. -/
structure Service where
  request : Request
  before : Session Nat
  outcome : Except Breakdown String
  after : Session Nat

/-- Serves a request. -/
def serve (timeToLive : Nat) (session : Session Nat) (request : Request) : Service :=
  let (outcome, after) := keptText timeToLive request.now request.probe session
  { request, before := session, outcome, after }

/-- Serves requests one after another. -/
def history (timeToLive : Nat) : Session Nat → List Request → List Service
  | _, [] => []
  | session, request :: requests =>
    let service := serve timeToLive session request
    service :: history timeToLive service.after requests

/-- The session that requests leave. -/
def sessionAfter (timeToLive : Nat) (session : Session Nat) (requests : List Request) :
    Session Nat :=
  requests.foldl (fun session request => (serve timeToLive session request).after) session

/-- What a request brought: nothing unless it asked. -/
def Service.news (service : Service) : Cache :=
  if service.after.host = service.before.host then none
  else Cache.news service.request.now service.request.answer

/-- What the latest of the requests that brought a text brought. -/
def latest (services : List Service) : Cache :=
  (services.filterMap Service.news).getLast?

/-- Nothing is kept, or a text whose age is the time to live or more.  On a clock that went back
the age is zero. -/
def Due (timeToLive now : Nat) (cache : Cache) : Prop :=
  cache = none ∨ ∃ kept, cache = some kept ∧ timeToLive ≤ now - kept.fetchedAt

/-- A text is due exactly when none is fresh. -/
theorem due_iff {timeToLive now : Nat} {cache : Cache} :
    Due timeToLive now cache ↔ cache.isFresh timeToLive now = false := by
  rw [isFresh_eq_false_iff]
  cases cache with
  | none => simp [Due]
  | some kept => simp [Due]

/-! ## One request -/

section

variable {timeToLive : Nat} {session : Session Nat} {request : Request}

/-- A request that finds a fresh text gets it and changes nothing. -/
theorem serve_fresh (h : session.cache.isFresh timeToLive request.now = true) :
    serve timeToLive session request = ⟨request, session, .ok session.cache.text, session⟩ := by
  simp only [serve, run_keptText_fresh h]

/-- A request that finds no fresh text asks once and takes in the answer. -/
theorem serve_stale (h : session.cache.isFresh timeToLive request.now = false) :
    let service := serve timeToLive session request
    let access := session.cache.refresh request.now request.answer
    service.outcome = access.outcome ∧ service.after.host = session.host + 1 ∧
      service.after.cache = access.cache := by
  simp only [serve, run_keptText_stale h, Request.probe, and_self]

/-- A request asks once when a text is due, and not at all otherwise. -/
theorem host_serve :
    Due timeToLive request.now session.cache ∧
        (serve timeToLive session request).after.host = session.host + 1 ∨
      ¬Due timeToLive request.now session.cache ∧
        (serve timeToLive session request).after.host = session.host := by
  rw [due_iff]
  cases h : session.cache.isFresh timeToLive request.now with
  | true => exact .inr ⟨by simp, by rw [serve_fresh h]⟩
  | false => exact .inl ⟨rfl, (serve_stale h).2.1⟩

/-- What a request brings when it finds no fresh text. -/
theorem news_serve_stale (h : session.cache.isFresh timeToLive request.now = false) :
    (serve timeToLive session request).news = Cache.news request.now request.answer := by
  rcases serve_stale h with ⟨-, hhost, -⟩
  have hasked : ¬(serve timeToLive session request).after.host = session.host := by omega
  exact if_neg hasked

/-- A request that finds a fresh text brings nothing. -/
theorem news_serve_fresh (h : session.cache.isFresh timeToLive request.now = true) :
    (serve timeToLive session request).news = none := by
  rw [serve_fresh h]
  exact if_pos rfl

/-- What a request brings is kept afterwards, or else what was kept before. -/
theorem cache_serve :
    (serve timeToLive session request).after.cache =
      (serve timeToLive session request).news.or session.cache := by
  cases h : session.cache.isFresh timeToLive request.now with
  | true =>
      rw [news_serve_fresh h, serve_fresh h]
      rfl
  | false =>
      rcases serve_stale h with ⟨-, -, hcache⟩
      rw [hcache, news_serve_stale h, refresh_cache]

/-- A request whose answer is no text leaves what is kept as it was. -/
theorem cache_serve_of_no_news (h : Cache.news request.now request.answer = none) :
    (serve timeToLive session request).after.cache = session.cache := by
  cases hfresh : session.cache.isFresh timeToLive request.now with
  | true => rw [serve_fresh hfresh]
  | false => rw [(serve_stale hfresh).2.2, refresh_keeps h]

/-- A request that is not broken off gets the text that is kept afterwards. -/
theorem outcome_serve {text : String}
    (h : (serve timeToLive session request).outcome = .ok text) :
    text = Cache.text (serve timeToLive session request).after.cache := by
  cases hfresh : session.cache.isFresh timeToLive request.now with
  | true =>
      rw [serve_fresh hfresh] at h ⊢
      exact (Except.ok.inj h).symm
  | false =>
      rcases serve_stale hfresh with ⟨houtcome, -, hcache⟩
      rw [houtcome, refresh_outcome] at h
      rw [hcache, refresh_cache]
      cases hanswer : request.answer with
      | error breakdown => simp [hanswer, Except.map] at h
      | ok answer =>
          rw [hanswer] at h
          exact (Except.ok.inj h).symm

/-- A request is broken off exactly when it asks and that breaks down. -/
theorem outcome_serve_error {breakdown : Breakdown} :
    (serve timeToLive session request).outcome = .error breakdown ↔
      Due timeToLive request.now session.cache ∧ request.answer = .error breakdown := by
  rw [due_iff]
  cases h : session.cache.isFresh timeToLive request.now with
  | true =>
      rw [serve_fresh h]
      simp
  | false =>
      rw [(serve_stale h).1, refresh_outcome]
      cases request.answer <;> simp [Except.map]

/-- How a request is served depends on what is kept, and not on what was asked before. -/
theorem serve_congr {other : Session Nat} (h : other.cache = session.cache) :
    (serve timeToLive other request).outcome = (serve timeToLive session request).outcome ∧
      (serve timeToLive other request).after.cache =
        (serve timeToLive session request).after.cache := by
  cases hfresh : session.cache.isFresh timeToLive request.now with
  | true =>
      rw [serve_fresh hfresh, serve_fresh (h ▸ hfresh)]
      exact ⟨by rw [h], h⟩
  | false =>
      rcases serve_stale hfresh with ⟨houtcome, -, hcache⟩
      rcases serve_stale (h ▸ hfresh) with ⟨houtcome', -, hcache'⟩
      rw [houtcome, houtcome', hcache, hcache', h]
      exact ⟨rfl, rfl⟩

end

/-! ## Many requests -/

section

variable {timeToLive : Nat} {session : Session Nat}

/-- A last request is served in the session that the others leave. -/
theorem history_append (requests : List Request) (request : Request) :
    history timeToLive session (requests ++ [request]) =
      history timeToLive session requests ++
        [serve timeToLive (sessionAfter timeToLive session requests) request] := by
  induction requests generalizing session with
  | nil => rfl
  | cons first requests ih =>
      simp only [List.cons_append, history, sessionAfter, List.foldl_cons]
      rw [ih]
      rfl

/-- A last request leaves the session that comes of serving it. -/
theorem sessionAfter_append (requests : List Request) (request : Request) :
    sessionAfter timeToLive session (requests ++ [request]) =
      (serve timeToLive (sessionAfter timeToLive session requests) request).after := by
  simp only [sessionAfter, List.foldl_append, List.foldl_cons, List.foldl_nil]

/-- What the last request brought is the latest. -/
theorem latest_append (services : List Service) (service : Service) :
    latest (services ++ [service]) = service.news.or (latest services) := by
  unfold latest
  rw [List.filterMap_append]
  cases h : service.news with
  | none => simp [h]
  | some kept => simp [h]

/-- What is kept is what the latest request brought, or else what was kept at the start. -/
theorem cache_history (timeToLive : Nat) (session : Session Nat) (requests : List Request) :
    (sessionAfter timeToLive session requests).cache =
      (latest (history timeToLive session requests)).or session.cache := by
  induction requests using List.reverseRecOn with
  | nil => rfl
  | append_singleton requests request ih =>
      rw [sessionAfter_append, history_append, latest_append, cache_serve, ih, Option.or_assoc]

end

/-- After any history, with any clock readings and any answers: a request gets the text that the
latest request brought that asked and was answered with a text, itself included, or the empty text
when there is none; the clock reading that is kept is that of the same request; it is broken off
only by a breakdown; it asks, and only once, exactly when a text is due; and when it is answered
with no text, what is kept stays as it was, and the next request is served as if it had never
been. -/
theorem serve_latest (timeToLive : Nat) (earlier : List Request) (request : Request) :
    let before := sessionAfter timeToLive (.start 0) earlier
    let service := serve timeToLive before request
    let newest := latest (history timeToLive (.start 0) (earlier ++ [request]))
    let due := Due timeToLive request.now before.cache
    (∀ text, service.outcome = .ok text → text = (newest.map Kept.text).getD "") ∧
      service.after.cache.lastFetch = newest.map Kept.fetchedAt ∧
      (∀ breakdown, service.outcome = .error breakdown ↔
        due ∧ request.answer = .error breakdown) ∧
      (due ∧ service.after.host = before.host + 1 ∨
        ¬due ∧ service.after.host = before.host) ∧
      (Cache.news request.now request.answer = none →
        service.after.cache = before.cache ∧
          ∀ next, (serve timeToLive service.after next).outcome =
              (serve timeToLive before next).outcome ∧
            (serve timeToLive service.after next).after.cache =
              (serve timeToLive before next).after.cache) := by
  intro before service newest due
  have hkept : service.after.cache = newest := by
    have h := cache_history timeToLive (.start 0) (earlier ++ [request])
    rw [sessionAfter_append] at h
    exact h.trans Option.or_none
  refine ⟨?_, ?_, ?_, ?_, ?_⟩
  · intro text htext
    rw [outcome_serve htext, hkept]
    rfl
  · rw [hkept]
    rfl
  · intro breakdown
    exact outcome_serve_error
  · exact host_serve
  · intro hnothing
    have hsame : service.after.cache = before.cache := cache_serve_of_no_news hnothing
    exact ⟨hsame, fun next => serve_congr hsame⟩

end HostVitals.Cache
