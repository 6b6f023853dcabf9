import HostVitals.Proofs.Report.FastBattery

/-!
# Where the time left stands

The time left is the word directly in front of `remaining`, in the same line.  When a report has
several such places the last one counts, in reading order: by the line, and within a line by the
place in it.  A `remaining` at the start of its line has no word in front of it there, and so it is
no such place.

Main results:

- `wordBefore_eq_some`, `exists_lastAt`: the last such place of a line and of a report.
- `timeLeft_append_ending`: the time left of two reports, whatever line end is between them.
- `timeLeft_last_place`: the time left by its place, in one report and in reports joined.
-/

namespace HostVitals.Report

open HostVitals.Text

/-! ## Lines -/

section

variable {fields : List (List Char)} {word : List Char}

/-- A line gives no word exactly when no word of it but the first is `remaining`. -/
theorem wordBefore_eq_none_iff : wordBefore fields = none ↔ remaining ∉ fields.tail := by
  induction fields with
  | nil => simp [wordBefore]
  | cons first fields ih =>
      cases fields with
      | nil => simp [wordBefore]
      | cons next rest =>
          rw [List.tail_cons] at ih ⊢
          rw [wordBefore]
          cases hlater : wordBefore (next :: rest) with
          | some found =>
              have hrest : remaining ∈ rest := by
                rw [hlater] at ih
                simpa using ih
              simp [hrest]
          | none =>
              have hrest : remaining ∉ rest := ih.1 hlater
              simp [hrest, eq_comm]

/-- The word that a line gives stands in front of the last `remaining` of the line. -/
theorem wordBefore_eq_some (h : wordBefore fields = some word) :
    ∃ before after, fields = before ++ word :: remaining :: after ∧ remaining ∉ after := by
  induction fields with
  | nil => cases h
  | cons first fields ih =>
      cases fields with
      | nil => cases h
      | cons next rest =>
          rw [wordBefore] at h
          cases hlater : wordBefore (next :: rest) with
          | some found =>
              rw [hlater] at h ih
              obtain ⟨before, after, hsplit, hafter⟩ := ih h
              exact ⟨first :: before, after, by rw [hsplit, List.cons_append], hafter⟩
          | none =>
              rw [hlater] at h
              dsimp only at h
              split at h
              · next hnext =>
                  cases h
                  exact ⟨[], rest, by rw [hnext, List.nil_append], wordBefore_eq_none_iff.1 hlater⟩
              · cases h

end

/-! ## Reports -/

section

variable {report time : List Char}

/-- A report gives no time exactly when none of its lines gives one. -/
theorem timeLeft_eq_none_iff :
    timeLeft report = none ↔ ∀ line ∈ lines report, remaining ∉ (words line).tail := by
  rw [timeLeft, foldl_laterTime_eq, List.findSome?_eq_none_iff]
  simp only [List.mem_reverse, wordBefore_eq_none_iff]

/-- The time of a report is given by one of its lines, and by no line after that one. -/
theorem line_of_timeLeft (h : timeLeft report = some time) :
    ∃ before line after, lines report = before ++ line :: after ∧
      wordBefore (words line) = some time ∧
      ∀ later ∈ after, remaining ∉ (words later).tail := by
  rw [timeLeft, foldl_laterTime_eq, List.findSome?_eq_some_iff] at h
  obtain ⟨after, line, before, hsplit, hline, hafter⟩ := h
  refine ⟨before.reverse, line, after.reverse, ?_, hline, ?_⟩
  · rw [← List.reverse_reverse (lines report), hsplit]
    simp
  · intro later hlater
    exact wordBefore_eq_none_iff.1 (hafter later (List.mem_reverse.1 hlater))

/-- The word at a place in a line of the report, both counted from zero, is the time, and the next
word of the line is `remaining`. -/
def StandsAt (report : List Char) (line place : Nat) (time : List Char) : Prop :=
  ∃ text, (lines report)[line]? = some text ∧ (words text)[place]? = some time ∧
    (words text)[place + 1]? = some remaining

/-- The time stands at the place, and no other time of the report stands behind it. -/
structure LastAt (report : List Char) (line place : Nat) (time : List Char) : Prop where
  stands : StandsAt report line place time
  last : ∀ line' place' other, StandsAt report line' place' other →
    line' < line ∨ line' = line ∧ place' ≤ place

/-- Two times cannot stand at one place. -/
theorem StandsAt.unique {line place : Nat} {other : List Char}
    (h : StandsAt report line place time) (hother : StandsAt report line place other) :
    time = other := by
  obtain ⟨text, htext, htime, -⟩ := h
  obtain ⟨text', htext', hother, -⟩ := hother
  obtain rfl := Option.some.inj (htext.symm.trans htext')
  exact Option.some.inj (htime.symm.trans hother)

theorem LastAt.unique {line place line' place' : Nat} {other : List Char}
    (h : LastAt report line place time) (hother : LastAt report line' place' other) :
    time = other := by
  have hbehind := h.last line' place' other hother.stands
  have hfront := hother.last line place time h.stands
  have hline : line' = line := by omega
  have hplace : place' = place := by omega
  subst hline hplace
  exact h.stands.unique hother.stands

/-- In a report with a time at some place, some time is told. -/
theorem StandsAt.timeLeft_ne_none {line place : Nat} (h : StandsAt report line place time) :
    timeLeft report ≠ none := by
  obtain ⟨text, htext, -, hnext⟩ := h
  rw [ne_eq, timeLeft_eq_none_iff]
  intro hnone
  rw [← List.getElem?_tail] at hnext
  exact hnone text (List.mem_of_getElem? htext) (List.mem_of_getElem? hnext)

/-- What stands further on in a list than one of its items stands behind that item. -/
theorem mem_of_getElem?_behind {α : Type} {front rest : List α} {a b : α} {i : Nat}
    (h : (front ++ a :: rest)[i]? = some b) (hi : front.length < i) : b ∈ rest := by
  rw [List.getElem?_append_right (Nat.le_of_lt hi)] at h
  obtain ⟨k, hk⟩ := Nat.exists_eq_add_of_lt hi
  have hindex : i - front.length = k + 1 := by omega
  rw [hindex, List.getElem?_cons_succ] at h
  exact List.mem_of_getElem? h

/-- The time that is told stands at the last place. -/
theorem exists_lastAt (h : timeLeft report = some time) :
    ∃ line place, LastAt report line place time := by
  obtain ⟨before, text, after, hlines, hgiven, hlater⟩ := line_of_timeLeft h
  obtain ⟨front, rest, hwords, hrest⟩ := wordBefore_eq_some hgiven
  refine ⟨before.length, front.length, ⟨text, ?_, ?_, ?_⟩, ?_⟩
  · simp [hlines]
  · simp [hwords]
  · simp [hwords]
  · rintro line' place' other ⟨text', htext', -, hnext⟩
    rcases Nat.lt_trichotomy line' before.length with hline | rfl | hline
    · exact .inl hline
    · -- In the same line, a place further on would have its `remaining` in the rest.
      refine .inr ⟨rfl, Nat.le_of_not_lt fun hplace => hrest ?_⟩
      have hsame : text' = text := by simpa [hlines, eq_comm] using htext'
      have hsplit : words text' = (front ++ [time]) ++ remaining :: rest := by
        rw [hsame, hwords, List.append_assoc, List.singleton_append]
      rw [hsplit] at hnext
      exact mem_of_getElem?_behind hnext (by rw [List.length_append]; simpa using hplace)
    · -- The lines further on give no time.
      rw [hlines] at htext'
      rw [← List.getElem?_tail] at hnext
      exact absurd (List.mem_of_getElem? hnext)
        (hlater text' (mem_of_getElem?_behind htext' hline))

/-- The time that is told is the one at the last place. -/
theorem timeLeft_eq_some_iff :
    timeLeft report = some time ↔ ∃ line place, LastAt report line place time := by
  constructor
  · exact exists_lastAt
  · rintro ⟨line, place, hlast⟩
    obtain ⟨told, htold⟩ := Option.ne_none_iff_exists'.1 hlast.stands.timeLeft_ne_none
    obtain ⟨line', place', hother⟩ := exists_lastAt htold
    rw [htold, hlast.unique hother]

end

/-! ## Joined reports -/

/-- A blank at the end of a text changes no row, unless it ends a line. -/
theorem rows_append_blank {c : Char} (hc : isBlank c = true) (hnewline : c ≠ '\n')
    (cs : List Char) : rows (cs ++ [c]) = rows cs := by
  induction cs using lines_induction with
  | last line hline =>
      have hplain : '\n' ∉ line ++ [c] := by simp [hline, hnewline.symm]
      rw [rows_eq, rows_eq, pieces_newline_eq_self hplain, pieces_newline_eq_self hline]
      simp only [List.map_cons, List.map_nil]
      rw [words_append_blank hc, words_nil, List.append_nil]
  | more line rest hline ih =>
      rw [List.append_assoc, List.cons_append, rows_append_newline, rows_append_newline, ih]

/-- The line end between two reports makes no difference. -/
theorem timeLeft_append_ending {ending : List Char} (h : ending ∈ [['\n'], ['\r', '\n']])
    (a b : List Char) : timeLeft (a ++ ending ++ b) = (timeLeft b).or (timeLeft a) := by
  simp only [List.mem_cons, List.not_mem_nil, or_false] at h
  rcases h with rfl | rfl
  · rw [List.append_assoc, List.singleton_append, timeLeft_append_newline]
  · have hsplit : a ++ ['\r', '\n'] ++ b = (a ++ ['\r']) ++ '\n' :: b := by simp
    have hreturn : timeLeft (a ++ ['\r']) = timeLeft a := by
      rw [timeLeft_eq_rows, timeLeft_eq_rows, rows_append_blank (by decide) (by decide)]
    rw [hsplit, timeLeft_append_newline, hreturn]

/-- The time left is the word directly in front of `remaining` at the last place of the report where
there is such a word in the same line, in reading order; and there is none exactly when no line has
`remaining` behind its first word.  With a line end of either form between two reports the time left
is that of the second or else that of the first, so that no word is taken from a neighbouring line.
And a report whose lines have `remaining` as their first word at most neither gives a time nor takes
away the one of another report, behind it or in front of it. -/
theorem timeLeft_last_place (a b : List Char) :
    (∀ time, timeLeft a = some time ↔ ∃ line place, LastAt a line place time) ∧
    (timeLeft a = none ↔ ∀ line ∈ lines a, remaining ∉ (words line).tail) ∧
    ∀ ending ∈ [['\n'], ['\r', '\n']],
      timeLeft (a ++ ending ++ b) = (timeLeft b).or (timeLeft a) ∧
      ((∀ line ∈ lines b, remaining ∉ (words line).tail) →
        timeLeft (a ++ ending ++ b) = timeLeft a ∧ timeLeft (b ++ ending ++ a) = timeLeft a) := by
  refine ⟨fun time => timeLeft_eq_some_iff, timeLeft_eq_none_iff, ?_⟩
  intro ending hending
  refine ⟨timeLeft_append_ending hending a b, ?_⟩
  intro hidle
  have hnone : timeLeft b = none := timeLeft_eq_none_iff.2 hidle
  rw [timeLeft_append_ending hending, timeLeft_append_ending hending, hnone, Option.none_or,
    Option.or_none]
  exact ⟨rfl, rfl⟩

/-- Two places in the first line, the second of them behind the other's `remaining`, and two lines
that start with `remaining`. -/
theorem timeLeft_last_place_repeated :
    let a := " 3:10\u2003remaining remaining\t2:05".toList
    let b := "remaining\r\n remaining 0:40".toList
    (∃ line place, LastAt a line place "remaining".toList) ∧
      (∀ line ∈ lines b, remaining ∉ (words line).tail) ∧
      timeLeft (a ++ ['\r', '\n'] ++ b) = some "remaining".toList := by
  intro a b
  obtain ⟨hplace, -, hjoined⟩ := timeLeft_last_place a b
  have hidle : ∀ line ∈ lines b, remaining ∉ (words line).tail := by decide +kernel
  have htime : timeLeft a = some "remaining".toList := by decide +kernel
  obtain ⟨-, hkept⟩ := hjoined ['\r', '\n'] (by decide)
  exact ⟨(hplace _).1 htime, hidle, (hkept hidle).1.trans htime⟩

end HostVitals.Report
