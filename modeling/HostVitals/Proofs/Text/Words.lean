import HostVitals.Text.Lines

/-!
# Words and rows

The words of a text are its longest runs of characters that are not blank.  The rows of a text are
the words of its lines, without the lines that have none.  How a line ends makes no difference for
the rows, and neither does a last line without an end, so that they go along with joining texts by a
line feed.

Main results:

- `flatten_words`: the words are the text without its blanks.
- `blankFree_of_mem_words`, `ne_nil_of_mem_words`: a word has no blank, and is not empty.
- `words_word_blank`: a word with a blank after it stands in front of the words that follow.
- `lines_eq_self`: a text without a line feed is one line.
- `filterMap_lines_append_newline`: what is taken from the lines of two texts joined by a line feed.
- `rows_append_newline`: the rows of two texts joined by a line feed are those of both.
- `flatten_rows`: the rows have the words of the text.
-/

namespace HostVitals.Text

section

variable {cs : List Char}

/-! ## Pieces -/

/-- The pieces are the text without its separators. -/
theorem flatten_pieces (cut : Char → Bool) (cs : List Char) :
    (pieces cut cs).flatten = cs.filter (fun c => !cut c) := by
  induction cs with
  | nil => rfl
  | cons c cs ih =>
      by_cases hc : cut c = true
      · simp [pieces, hc, ih]
      · cases hparts : pieces cut cs with
        | nil => exact absurd hparts (pieces_ne_nil cut cs)
        | cons part parts =>
            rw [hparts, List.flatten_cons] at ih
            simp [pieces, hc, hparts, ih]

/-! ## Words -/

/-- The words are the text without its blanks. -/
theorem flatten_words (cs : List Char) :
    (words cs).flatten = cs.filter (fun c => !isBlank c) := by
  rw [words, List.flatten_filter_not_isEmpty, flatten_pieces]

/-- What stands in the words is what stands in the text and is not blank. -/
theorem exists_mem_words_iff {c : Char} :
    (∃ word ∈ words cs, c ∈ word) ↔ c ∈ cs ∧ isBlank c = false := by
  rw [← List.mem_flatten, flatten_words, List.mem_filter, Bool.not_eq_true']

/-- A text without a blank. -/
def BlankFree (cs : List Char) : Prop :=
  ∀ c ∈ cs, isBlank c = false

instance : DecidablePred BlankFree := fun cs =>
  decidable_of_iff (cs.all (fun c => !isBlank c) = true) (by simp [BlankFree])

theorem BlankFree.append {ds : List Char} (hcs : BlankFree cs) (hds : BlankFree ds) :
    BlankFree (cs ++ ds) := by
  intro c hc
  rcases List.mem_append.1 hc with hc | hc
  · exact hcs c hc
  · exact hds c hc

/-- A text without a blank has no line feed. -/
theorem BlankFree.not_mem_newline (h : BlankFree cs) : '\n' ∉ cs := by
  intro hmem
  exact absurd (h '\n' hmem) (by decide)

/-- A text without a blank is one word. -/
theorem words_eq_self (hne : cs ≠ []) (h : BlankFree cs) : words cs = [cs] := by
  rw [words, pieces_eq_self h]
  simp [hne]

/-- A word with a blank after it stands in front of the words that follow. -/
theorem words_word_blank {c : Char} (hc : isBlank c = true) (hne : cs ≠ []) (h : BlankFree cs)
    (rest : List Char) :
    words (cs ++ c :: rest) = cs :: words rest := by
  rw [words_append_blank hc, words_eq_self hne h, List.singleton_append]

theorem blankFree_of_mem_words {word : List Char} (h : word ∈ words cs) : BlankFree word :=
  fun _ hc => (exists_mem_words_iff.1 ⟨word, h, hc⟩).2

theorem ne_nil_of_mem_words {word : List Char} (h : word ∈ words cs) : word ≠ [] := by
  have hfull := (List.mem_filter.1 h).2
  rwa [Bool.not_eq_true', List.isEmpty_eq_false_iff] at hfull

/-! ## The first word -/

/-- The characters of a text in front of its first blank. -/
def firstWord (cs : List Char) : List Char :=
  cs.takeWhile (fun c => !isBlank c)

theorem blankFree_firstWord (cs : List Char) : BlankFree (firstWord cs) := by
  intro c hc
  have hplain := List.all_eq_true.1 List.all_takeWhile c hc
  rwa [Bool.not_eq_true'] at hplain

/-- A text is its first word, or goes on with a blank. -/
theorem firstWord_cases (cs : List Char) :
    firstWord cs = cs ∨ ∃ c rest, isBlank c = true ∧ firstWord cs ++ c :: rest = cs := by
  induction cs with
  | nil => exact .inl rfl
  | cons c cs ih =>
      by_cases hc : isBlank c = true
      · have hnone : firstWord (c :: cs) = [] := by simp [firstWord, hc]
        exact .inr ⟨c, cs, hc, by rw [hnone, List.nil_append]⟩
      · have hkept : firstWord (c :: cs) = c :: firstWord cs := by simp [firstWord, hc]
        rw [hkept]
        rcases ih with hall | ⟨d, rest, hd, hsplit⟩
        · exact .inl (by rw [hall])
        · exact .inr ⟨d, rest, hd, by rw [List.cons_append, hsplit]⟩

/-! ## Marks at the end -/

/-- A mark at the end is dropped. -/
theorem dropMark_append (mark : Char) (cs : List Char) : dropMark mark (cs ++ [mark]) = cs := by
  simp [dropMark]

/-- A text without the mark at its end is left as it is. -/
theorem dropMark_eq_self {mark : Char} (h : cs.getLast? ≠ some mark) : dropMark mark cs = cs :=
  if_neg h

theorem BlankFree.dropMark (h : BlankFree cs) (mark : Char) : BlankFree (dropMark mark cs) := by
  unfold Text.dropMark
  split
  · exact fun c hc => h c ((List.dropLast_sublist cs).mem hc)
  · exact h

/-- Nothing is left when there was nothing but the mark. -/
theorem dropMark_eq_nil_iff {mark : Char} : dropMark mark cs = [] ↔ cs = [] ∨ cs = [mark] := by
  by_cases hlast : cs.getLast? = some mark
  · obtain ⟨front, rfl⟩ := List.getLast?_eq_some_iff.1 hlast
    simp [dropMark_append]
  · rw [dropMark_eq_self hlast, iff_self_or]
    rintro rfl
    exact absurd rfl hlast

/-- Dropping a blank from the end changes no word. -/
theorem words_dropMark {mark : Char} (hmark : isBlank mark = true) (cs : List Char) :
    words (dropMark mark cs) = words cs := by
  by_cases hlast : cs.getLast? = some mark
  · obtain ⟨front, rfl⟩ := List.getLast?_eq_some_iff.1 hlast
    rw [dropMark_append, words_append_blank hmark, words_nil, List.append_nil]
  · rw [dropMark_eq_self hlast]

/-! ## Lines -/

theorem isNewline_eq_false_iff {c : Char} : isNewline c = false ↔ c ≠ '\n' := by
  simp [isNewline]

theorem pieces_newline_eq_self (h : '\n' ∉ cs) : pieces isNewline cs = [cs] := by
  refine pieces_eq_self (fun c hc => isNewline_eq_false_iff.2 ?_)
  rintro rfl
  exact h hc

theorem toList_append_newline (a b : String) :
    (a ++ "\n" ++ b).toList = a.toList ++ '\n' :: b.toList := by
  simp

/-- A text without a line feed is one line. -/
theorem lines_eq_self (hne : cs ≠ []) (h : '\n' ∉ cs) : lines cs = [cs] := by
  simp [lines, pieces_newline_eq_self h, endedLines, hne]

section

variable {β : Type} {f : List Char → Option β}

/-- What is taken from lines can be taken from the pieces between line feeds, when an empty line
gives nothing and a carriage return at the end of a line makes no difference. -/
theorem filterMap_lines (hempty : f [] = none)
    (hreturn : ∀ line, f (dropMark '\r' line) = f line) (cs : List Char) :
    (lines cs).filterMap f = (pieces isNewline cs).filterMap f := by
  have hended : ∀ parts, (endedLines parts).filterMap f = parts.filterMap f := by
    intro parts
    rw [endedLines, List.filterMap_map]
    exact congrArg (fun g => parts.filterMap g) (funext hreturn)
  -- The last piece is no line when it is empty, but then it gives nothing either.
  obtain ⟨front, last, hparts⟩ : ∃ front last, pieces isNewline cs = front ++ [last] := by
    have hne := pieces_ne_nil isNewline cs
    exact ⟨_, _, (List.dropLast_concat_getLast hne).symm⟩
  rw [lines, hparts]
  simp only [List.dropLast_concat, List.getLast?_concat, List.filterMap_append, hended]
  by_cases hlast : last = []
  · simp [hlast, hempty]
  · simp [hlast]

/-- From two texts joined by a line feed it is taken in turn. -/
theorem filterMap_lines_append_newline (hempty : f [] = none)
    (hreturn : ∀ line, f (dropMark '\r' line) = f line) (as bs : List Char) :
    (lines (as ++ '\n' :: bs)).filterMap f =
      (lines as).filterMap f ++ (lines bs).filterMap f := by
  have hcut : isNewline '\n' = true := by decide
  simp only [filterMap_lines hempty hreturn, pieces_append_cut isNewline hcut,
    List.filterMap_append]

end

/-- What holds of texts without a line feed, and of a text with a line in front when it holds of the
text, holds of all texts. -/
theorem lines_induction {motive : List Char → Prop}
    (last : ∀ line, '\n' ∉ line → motive line)
    (more : ∀ line rest, '\n' ∉ line → motive rest → motive (line ++ '\n' :: rest))
    (cs : List Char) : motive cs := by
  induction hlength : cs.length using Nat.strongRecOn generalizing cs with
  | ind n ih =>
      by_cases hmem : '\n' ∈ cs
      · obtain ⟨line, rest, rfl, hline⟩ := List.eq_append_cons_of_mem hmem
        have hshort : rest.length < n := by
          rw [← hlength, List.length_append, List.length_cons]
          omega
        exact more line rest hline (ih rest.length hshort rest rfl)
      · exact last cs hmem

/-! ## Rows -/

/-- The words of the lines of a text, without the lines that have none. -/
def rows (cs : List Char) : List (List (List Char)) :=
  ((lines cs).map words).filter (fun row => !row.isEmpty)

/-- The rows can be read off the pieces between line feeds, whatever the line ends are. -/
theorem rows_eq (cs : List Char) :
    rows cs = ((pieces isNewline cs).map words).filter (fun row => !row.isEmpty) := by
  have hreturn : isBlank '\r' = true := by decide
  have htaken : ∀ ls : List (List Char), (ls.map words).filter (fun row => !row.isEmpty) =
      ls.filterMap (fun line => Option.guard (fun row => !row.isEmpty) (words line)) := by
    intro ls
    rw [← List.filterMap_eq_filter, List.filterMap_map]
    rfl
  rw [rows, htaken, htaken]
  exact filterMap_lines rfl (fun line => by rw [words_dropMark hreturn]) cs

/-- The rows of two texts joined by a line feed are those of the first and then those of the
second. -/
theorem rows_append_newline (as bs : List Char) : rows (as ++ '\n' :: bs) = rows as ++ rows bs := by
  have hcut : isNewline '\n' = true := by decide
  simp only [rows_eq, pieces_append_cut isNewline hcut, List.map_append, List.filter_append]

/-- A text without a line feed has its words in one row. -/
theorem flatten_rows_of_line (h : '\n' ∉ cs) : (rows cs).flatten = words cs := by
  rw [rows_eq, List.flatten_filter_not_isEmpty, pieces_newline_eq_self h]
  simp

/-- The rows have the words of the text. -/
theorem flatten_rows (cs : List Char) : (rows cs).flatten = words cs := by
  induction cs using lines_induction with
  | last line hline => exact flatten_rows_of_line hline
  | more line rest hline ih =>
      have hnewline : isBlank '\n' = true := by decide
      rw [rows_append_newline, List.flatten_append, flatten_rows_of_line hline, ih,
        words_append_blank hnewline]

end

end HostVitals.Text
