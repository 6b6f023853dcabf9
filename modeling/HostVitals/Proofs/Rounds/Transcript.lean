import HostVitals.Session

/-!
# Transcripts of a round

A station asks its host for one thing after another.  To speak of what was asked, and of what came
of it, the station is set to work on a watched host, which keeps a record of every exchange.  A
watched host does what the host does, so a round comes to the same on it; only what the probes note
by themselves is left out, so that the notes of the round are the station's own.

Main results:

- `Watches.bind`: work made of watched work is watched, and `Watches.transcript_bind_ok` puts its
  transcript together.
- `Unguarded.bind`: work made of work that catches no breakdown catches none, and breaks down
  exactly when a probe does that it asks.
-/

namespace HostVitals

variable {σ α β : Type}

/-! ## Exchanges -/

/-- Something that was asked of a host, and what came of it. -/
inductive Exchange where
  | clock (now : Nat)
  | report (outcome : Except Breakdown (Answer String))
  | profile (outcome : Except Breakdown (Answer String))
  | temperature (outcome : Except Breakdown (Answer String))
  | thermalLevel (outcome : Except Breakdown (Answer String))
  | supplies (outcome : Except Breakdown (List Report.Supply))
  | sensors (outcome : Except Breakdown (Answer (List RawTemperature)))

/-- How something broke down, if it did. -/
def breakdownOf : Except Breakdown α → Option Breakdown
  | .ok _ => none
  | .error breakdown => some breakdown

@[simp] theorem breakdownOf_ok (a : α) : breakdownOf (.ok a) = none := rfl

@[simp] theorem breakdownOf_error (breakdown : Breakdown) :
    breakdownOf (.error breakdown : Except Breakdown α) = some breakdown := rfl

/-- How the probe that was asked broke down, if it did.  A clock does not. -/
def Exchange.breakdown : Exchange → Option Breakdown
  | .clock _ => none
  | .report outcome => breakdownOf outcome
  | .profile outcome => breakdownOf outcome
  | .temperature outcome => breakdownOf outcome
  | .thermalLevel outcome => breakdownOf outcome
  | .supplies outcome => breakdownOf outcome
  | .sensors outcome => breakdownOf outcome

/-- What was exchanged with a host during some work, and what the work noted by itself. -/
@[ext]
structure Transcript where
  exchanges : List Exchange
  notes : List LogRecord

namespace Transcript

/-- The transcript of work that does nothing. -/
def empty : Transcript := ⟨[], []⟩

/-- The transcript of work that goes on with other work. -/
instance : Append Transcript where
  append first second :=
    ⟨first.exchanges ++ second.exchanges, first.notes ++ second.notes⟩

@[simp] theorem exchanges_append (first second : Transcript) :
    (first ++ second).exchanges = first.exchanges ++ second.exchanges := rfl

@[simp] theorem notes_append (first second : Transcript) :
    (first ++ second).notes = first.notes ++ second.notes := rfl

@[simp] theorem append_empty (first : Transcript) : first ++ empty = first := by
  ext1 <;> simp [empty]

theorem append_assoc (first second third : Transcript) :
    first ++ second ++ third = first ++ (second ++ third) := by
  ext1 <;> simp

/-- No probe that was asked broke down. -/
def Sound (told : Transcript) : Prop :=
  ∀ exchange ∈ told.exchanges, exchange.breakdown = none

instance (told : Transcript) : Decidable told.Sound :=
  inferInstanceAs (Decidable (∀ exchange ∈ told.exchanges, exchange.breakdown = none))

theorem sound_append {first second : Transcript} :
    (first ++ second).Sound ↔ first.Sound ∧ second.Sound := by
  simp [Sound, or_imp, forall_and]

end Transcript

/-! ## Watched hosts -/

/-- A host, and the exchanges that there were with it. -/
structure Watched (σ : Type) where
  host : σ
  exchanges : List Exchange

/-- The probe of a watched host does what the probe of the host does, and the exchange is
recorded. -/
def Probe.watched (entry : Except Breakdown α → Exchange) (probe : Probe σ α) :
    Probe (Watched σ) α := fun watched =>
  let run := probe watched.host
  ⟨run.outcome, [], ⟨run.host, watched.exchanges ++ [entry run.outcome]⟩⟩

/-- The station, on the watched host. -/
def Station.watched (station : Station σ) : Station (Watched σ) where
  platform :=
    { name := station.platform.name
      report := Probe.watched .report station.platform.report
      hasProfile := station.platform.hasProfile
      profile := Probe.watched .profile station.platform.profile
      temperature := Probe.watched .temperature station.platform.temperature
      thermalLevel := Probe.watched .thermalLevel station.platform.thermalLevel
      supplies := Probe.watched .supplies station.platform.supplies }
  sensors := Probe.watched .sensors station.sensors
  clock := fun watched =>
    let (now, host) := station.clock watched.host
    (now, ⟨host, watched.exchanges ++ [.clock now]⟩)
  timeToLive := station.timeToLive

/-- The session on the watched host, with what was exchanged and noted before. -/
def Session.watched (session : Session σ) (before : Transcript) : Session (Watched σ) where
  host := ⟨session.host, before.exchanges⟩
  cache := session.cache
  events := before.notes.map .note

/-- The notes among notes are all of them. -/
theorem notesOf_map_note (notes : List LogRecord) : notesOf (notes.map .note) = notes := by
  induction notes with
  | nil => rfl
  | cons first notes ih =>
      change first :: notesOf (notes.map .note) = first :: notes
      rw [ih]

namespace Collect

/-- What is exchanged and noted by work on a watched host. -/
def transcript (work : Session (Watched σ) → α × Session (Watched σ)) (session : Session σ) :
    Transcript :=
  let after := (work (session.watched .empty)).2
  ⟨after.host.exchanges, notesOf after.events⟩

/-! ## Work on a watched host -/

/-- Work on a watched host comes to what `plain` comes to on the host itself, and `told` is what it
exchanges and notes. -/
def Tells (work : Session (Watched σ) → α × Session (Watched σ))
    (plain : Session σ → α × Session σ) (told : Session σ → Transcript) : Prop :=
  ∀ session before, work (session.watched before) =
    ((plain session).1, (plain session).2.watched (before ++ told session))

/-- Work on a watched host comes to what `plain` comes to on the host itself. -/
def Watches (work : Session (Watched σ) → α × Session (Watched σ))
    (plain : Session σ → α × Session σ) : Prop :=
  Tells work plain (transcript work)

section

variable {work : Session (Watched σ) → α × Session (Watched σ)}
  {plain : Session σ → α × Session σ} {told : Session σ → Transcript}

/-- The transcript is read off the session that was left. -/
theorem transcript_eq {session after : Session σ} {a : α} {told : Transcript}
    (h : work (session.watched .empty) = (a, after.watched told)) :
    transcript work session = told := by
  unfold transcript
  rw [h]
  simp [Session.watched, notesOf_map_note]

/-- What work tells is its transcript. -/
theorem Tells.transcript (h : Tells work plain told) (session : Session σ) :
    transcript work session = told session :=
  transcript_eq (h session .empty)

theorem Tells.watches (h : Tells work plain told) : Watches work plain := by
  have htold : Collect.transcript work = told := funext h.transcript
  rw [Watches, htold]
  exact h

/-- Work on a host that was not watched before. -/
theorem Watches.run (h : Watches work plain) (session : Session σ) :
    work (session.watched .empty) =
      ((plain session).1, (plain session).2.watched (Collect.transcript work session)) :=
  h session .empty

end

/-- Giving something tells nothing. -/
theorem tells_pure (a : α) :
    Tells (pure a : Collect (Watched σ) α) (pure a : Collect σ α) (fun _ => .empty) := by
  intro session before
  rw [Transcript.append_empty]
  rfl

/-- A note tells itself. -/
theorem tells_note (level : Level) (message : String) :
    Tells (note level message : Collect (Watched σ) Unit) (note level message : Collect σ Unit)
      (fun _ => ⟨[], [⟨level, message⟩]⟩) := by
  intro session before
  simp [run_note, Session.watched]

/-- Asking a probe tells what came of it. -/
theorem tells_ask (entry : Except Breakdown α → Exchange) (probe : Probe σ α) :
    Tells (ask (Probe.watched entry probe)) (ask probe)
      (fun session => ⟨[entry (probe session.host).outcome], []⟩) := by
  intro session before
  simp [run_ask, Probe.watched, Session.watched]

section

variable {work : Collect (Watched σ) α} {plain : Collect σ α}
  {next : α → Collect (Watched σ) β} {plainNext : α → Collect σ β}

/-- Work that broke down tells no more. -/
theorem Watches.transcript_bind_error (hwork : Watches work plain) {session after : Session σ}
    {breakdown : Breakdown} (h : plain session = (.error breakdown, after))
    (next : α → Collect (Watched σ) β) :
    transcript (work >>= next) session = transcript work session := by
  have hrun := hwork.run session
  rw [h] at hrun
  exact transcript_eq (run_bind_error hrun next)

/-- Work that goes on tells what both parts tell. -/
theorem Watches.transcript_bind_ok (hwork : Watches work plain) {session after : Session σ} {a : α}
    (h : plain session = (.ok a, after)) {rest : Collect σ β} (hnext : Watches (next a) rest) :
    transcript (work >>= next) session = transcript work session ++ transcript (next a) after := by
  have hrun := hwork.run session
  rw [h] at hrun
  exact transcript_eq ((run_bind_ok hrun next).trans (hnext after (transcript work session)))

/-- Work that goes on with watched work is watched. -/
theorem Watches.bind (hwork : Watches work plain) (hnext : ∀ a, Watches (next a) (plainNext a)) :
    Watches (work >>= next) (plain >>= plainNext) := by
  intro session before
  have hrun := hwork session before
  rcases h : plain session with ⟨outcome, after⟩
  rw [h] at hrun
  cases outcome with
  | error breakdown =>
      rw [run_bind_error hrun next, run_bind_error h plainNext,
        hwork.transcript_bind_error h next]
  | ok a =>
      rw [run_bind_ok hrun next, run_bind_ok h plainNext, hwork.transcript_bind_ok h (hnext a),
        hnext a after, Transcript.append_assoc]

end

/-- What holds of all exchanges of both parts holds of all exchanges. -/
theorem Watches.forall_exchanges_bind {work : Collect (Watched σ) α} {plain : Collect σ α}
    {next : α → Collect (Watched σ) β} {plainNext : α → Collect σ β} (hwork : Watches work plain)
    (hnext : ∀ a, Watches (next a) (plainNext a)) {p : Exchange → Prop}
    (hfirst : ∀ session, ∀ exchange ∈ (transcript work session).exchanges, p exchange)
    (hrest : ∀ a session, ∀ exchange ∈ (transcript (next a) session).exchanges, p exchange)
    (session : Session σ) :
    ∀ exchange ∈ (transcript (work >>= next) session).exchanges, p exchange := by
  rcases h : plain session with ⟨breakdown | a, after⟩
  · rw [hwork.transcript_bind_error h]
    exact hfirst session
  · rw [hwork.transcript_bind_ok h (hnext a), Transcript.exchanges_append]
    intro exchange hexchange
    rcases List.mem_append.1 hexchange with hexchange | hexchange
    · exact hfirst session exchange hexchange
    · exact hrest a after exchange hexchange

/-- Work that gave something in the end went on from something. -/
theorem parts_of_bind_ok {work : Collect σ α} {next : α → Collect σ β} {session after : Session σ}
    {b : β} (h : (work >>= next) session = (.ok b, after)) :
    ∃ a before, work session = (.ok a, before) ∧ next a before = (.ok b, after) := by
  rcases hwork : work session with ⟨breakdown | a, before⟩
  · rw [run_bind_error hwork] at h
    cases h
  · rw [run_bind_ok hwork] at h
    exact ⟨a, before, rfl, h⟩

/-! ## Work that starts with a question -/

section

variable {entry : Except Breakdown α → Exchange} {probe : Probe σ α} {session : Session σ}

theorem run_ask_bind_error {breakdown : Breakdown}
    (h : (probe session.host).outcome = .error breakdown) (next : α → Collect σ β) :
    (ask probe >>= next) session = (.error breakdown, (ask probe session).2) := by
  have hask : ask probe session = (.error breakdown, (ask probe session).2) := Prod.ext h rfl
  exact run_bind_error hask next

theorem run_ask_bind_ok {a : α} (h : (probe session.host).outcome = .ok a)
    (next : α → Collect σ β) : (ask probe >>= next) session = next a (ask probe session).2 := by
  have hask : ask probe session = (.ok a, (ask probe session).2) := Prod.ext h rfl
  exact run_bind_ok hask next

/-- A probe that breaks down is asked last. -/
theorem exchanges_ask_bind_error {breakdown : Breakdown}
    (h : (probe session.host).outcome = .error breakdown) (next : α → Collect (Watched σ) β) :
    (transcript (ask (Probe.watched entry probe) >>= next) session).exchanges =
      [entry (.error breakdown)] := by
  have hask : ask probe session = (.error breakdown, (ask probe session).2) := Prod.ext h rfl
  rw [(tells_ask entry probe).watches.transcript_bind_error hask,
    (tells_ask entry probe).transcript session, h]

/-- After a probe that gives something the work goes on. -/
theorem exchanges_ask_bind_ok {a : α} (h : (probe session.host).outcome = .ok a)
    {next : α → Collect (Watched σ) β} {rest : Collect σ β} (hnext : Watches (next a) rest) :
    (transcript (ask (Probe.watched entry probe) >>= next) session).exchanges =
      entry (.ok a) :: (transcript (next a) (ask probe session).2).exchanges := by
  have hask : ask probe session = (.ok a, (ask probe session).2) := Prod.ext h rfl
  rw [(tells_ask entry probe).watches.transcript_bind_ok hask hnext,
    (tells_ask entry probe).transcript session, h]
  rfl

end

/-! ## Silent work -/

/-- Work that exchanges nothing with its host. -/
structure Silent (work : Collect (Watched σ) α) (plain : Collect σ α) : Prop where
  watches : Watches work plain
  exchanges : ∀ session, (transcript work session).exchanges = []

theorem Silent.pure (a : α) : Silent (pure a : Collect (Watched σ) α) (pure a : Collect σ α) where
  watches := (tells_pure a).watches
  exchanges := by
    intro session
    rw [(tells_pure a).transcript session]
    rfl

theorem Silent.note (level : Level) (message : String) :
    Silent (note level message : Collect (Watched σ) Unit)
      (note level message : Collect σ Unit) where
  watches := (tells_note level message).watches
  exchanges := by
    intro session
    rw [(tells_note level message).transcript session]

section

variable {work : Collect (Watched σ) α} {plain : Collect σ α}
  {next : α → Collect (Watched σ) β} {plainNext : α → Collect σ β}

/-- Going on in silence adds no exchange. -/
theorem Watches.exchanges_bind_silent (hwork : Watches work plain)
    (hnext : ∀ a, Silent (next a) (plainNext a)) (session : Session σ) :
    (transcript (work >>= next) session).exchanges = (transcript work session).exchanges := by
  rcases h : plain session with ⟨breakdown | a, after⟩
  · rw [hwork.transcript_bind_error h]
  · rw [hwork.transcript_bind_ok h (hnext a).watches, Transcript.exchanges_append,
      (hnext a).exchanges after, List.append_nil]

theorem Silent.bind (hwork : Silent work plain) (hnext : ∀ a, Silent (next a) (plainNext a)) :
    Silent (work >>= next) (plain >>= plainNext) where
  watches := hwork.watches.bind (fun a => (hnext a).watches)
  exchanges := by
    intro session
    rw [hwork.watches.exchanges_bind_silent hnext session, hwork.exchanges session]

/-- Giving something with a note is silent. -/
theorem silent_note_pure (level : Level) (message : String) (a : α) :
    Silent (note level message >>= fun _ => pure a : Collect (Watched σ) α)
      (note level message >>= fun _ => pure a : Collect σ α) :=
  (Silent.note level message).bind (fun _ => .pure a)

/-- Asking one probe and going on in silence is one exchange. -/
theorem exchanges_ask_silent {entry : Except Breakdown α → Exchange} {probe : Probe σ α}
    (hnext : ∀ a, Silent (next a) (plainNext a)) (session : Session σ) :
    (transcript (ask (Probe.watched entry probe) >>= next) session).exchanges =
      [entry (probe session.host).outcome] := by
  rw [(tells_ask entry probe).watches.exchanges_bind_silent hnext session,
    (tells_ask entry probe).transcript session]

end

/-! ## Unguarded work -/

/-- Work that catches no breakdown: it breaks down exactly when a probe that it asks does.  What it
notes are details for those who look for a fault. -/
structure Unguarded (work : Collect (Watched σ) α) (plain : Collect σ α) : Prop where
  watches : Watches work plain
  broken_iff : ∀ session breakdown, (plain session).1 = .error breakdown ↔
    ∃ exchange ∈ (transcript work session).exchanges, exchange.breakdown = some breakdown
  level : ∀ session, ∀ record ∈ (transcript work session).notes, record.level = .debug

theorem Unguarded.pure (a : α) :
    Unguarded (pure a : Collect (Watched σ) α) (pure a : Collect σ α) where
  watches := (tells_pure a).watches
  broken_iff := by
    intro session breakdown
    simp [(tells_pure a).transcript session, Transcript.empty, run_pure]
  level := by
    intro session
    simp [(tells_pure a).transcript session, Transcript.empty]

theorem Unguarded.note (message : String) :
    Unguarded (note .debug message : Collect (Watched σ) Unit)
      (note .debug message : Collect σ Unit) where
  watches := (tells_note .debug message).watches
  broken_iff := by
    intro session breakdown
    simp [(tells_note .debug message).transcript session, run_note]
  level := by
    intro session
    simp [(tells_note .debug message).transcript session]

theorem Unguarded.ask {entry : Except Breakdown α → Exchange}
    (hentry : ∀ outcome, (entry outcome).breakdown = breakdownOf outcome) (probe : Probe σ α) :
    Unguarded (ask (Probe.watched entry probe)) (ask probe) where
  watches := (tells_ask entry probe).watches
  broken_iff := by
    intro session breakdown
    rw [(tells_ask entry probe).transcript session, run_ask]
    cases h : (probe session.host).outcome <;> simp [hentry]
  level := by
    intro session
    simp [(tells_ask entry probe).transcript session]

/-- Unguarded work that goes on with unguarded work is unguarded. -/
theorem Unguarded.bind {work : Collect (Watched σ) α} {plain : Collect σ α}
    {next : α → Collect (Watched σ) β} {plainNext : α → Collect σ β}
    (hwork : Unguarded work plain) (hnext : ∀ a, Unguarded (next a) (plainNext a)) :
    Unguarded (work >>= next) (plain >>= plainNext) where
  watches := hwork.watches.bind (fun a => (hnext a).watches)
  broken_iff := by
    intro session breakdown
    rcases h : plain session with ⟨broken | a, after⟩
    · rw [run_bind_error h, hwork.watches.transcript_bind_error h, ← hwork.broken_iff, h]
      simp
    · -- nothing that was asked so far broke down, so that what goes on decides
      have hsound : ∀ exchange ∈ (transcript work session).exchanges,
          exchange.breakdown ≠ some breakdown := by
        intro exchange hexchange hbroken
        have herror := (hwork.broken_iff session breakdown).2 ⟨exchange, hexchange, hbroken⟩
        rw [h] at herror
        cases herror
      rw [run_bind_ok h, hwork.watches.transcript_bind_ok h (hnext a).watches,
        (hnext a).broken_iff]
      simp only [Transcript.exchanges_append, List.mem_append]
      constructor
      · rintro ⟨exchange, hexchange, hbroken⟩
        exact ⟨exchange, .inr hexchange, hbroken⟩
      · rintro ⟨exchange, hexchange | hexchange, hbroken⟩
        · exact absurd hbroken (hsound exchange hexchange)
        · exact ⟨exchange, hexchange, hbroken⟩
  level := by
    intro session record hrecord
    rcases h : plain session with ⟨broken | a, after⟩
    · rw [hwork.watches.transcript_bind_error h] at hrecord
      exact hwork.level session record hrecord
    · rw [hwork.watches.transcript_bind_ok h (hnext a).watches, Transcript.notes_append,
        List.mem_append] at hrecord
      rcases hrecord with hrecord | hrecord
      · exact hwork.level session record hrecord
      · exact (hnext a).level after record hrecord

/-- Unguarded work gives something when no probe that it asks breaks down. -/
theorem Unguarded.ok_of_sound {work : Collect (Watched σ) α} {plain : Collect σ α}
    (hwork : Unguarded work plain) {session : Session σ}
    (hsound : (transcript work session).Sound) :
    ∃ a after, plain session = (.ok a, after) := by
  rcases h : plain session with ⟨breakdown | a, after⟩
  · obtain ⟨exchange, hexchange, hbroken⟩ := (hwork.broken_iff session breakdown).1 (by rw [h])
    rw [hsound exchange hexchange] at hbroken
    cases hbroken
  · exact ⟨a, after, rfl⟩

/-- When unguarded work gives something, no probe that it asked broke down. -/
theorem Unguarded.sound_of_ok {work : Collect (Watched σ) α} {plain : Collect σ α}
    (hwork : Unguarded work plain) {session : Session σ} {a : α}
    (h : (plain session).1 = .ok a) : (transcript work session).Sound := by
  intro exchange hexchange
  cases hbroken : exchange.breakdown with
  | none => rfl
  | some breakdown =>
      have herror := (hwork.broken_iff session breakdown).2 ⟨exchange, hexchange, hbroken⟩
      rw [h] at herror
      cases herror

/-- When no probe breaks down, unguarded work goes on to its end. -/
theorem Unguarded.sound_bind {work : Collect (Watched σ) α} {plain : Collect σ α}
    {next : α → Collect (Watched σ) β} {plainNext : α → Collect σ β}
    (hwork : Unguarded work plain) (hnext : ∀ a, Watches (next a) (plainNext a))
    {session : Session σ} (hsound : (transcript (work >>= next) session).Sound) :
    ∃ a after, plain session = (.ok a, after) ∧ (transcript (next a) after).Sound ∧
      transcript (work >>= next) session =
        transcript work session ++ transcript (next a) after := by
  rcases h : plain session with ⟨breakdown | a, after⟩
  · rw [hwork.watches.transcript_bind_error h] at hsound
    obtain ⟨a, after, hok⟩ := hwork.ok_of_sound hsound
    rw [h] at hok
    cases hok
  · have htold := hwork.watches.transcript_bind_ok h (hnext a)
    rw [htold, Transcript.sound_append] at hsound
    exact ⟨a, after, rfl, hsound.2, htold⟩

end Collect

end HostVitals
