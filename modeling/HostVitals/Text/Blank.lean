/-!
# Blank characters, trimming and words

The Unicode `White_Space` property, and the operations on texts that rest on it: trimming a text
at either end and splitting it into words.  Texts are handled as lists of characters here; the
record types hold the `String`s made from them.

Main results:

- `pieces_eq_self`: a text without a separator is one piece.
- `pieces_append_cut`: cutting at a separator cuts the text into the pieces of both sides.
- `words_append_blank`: a blank between two texts keeps their words apart.
- `trimStart_trimStart`, `trimEnd_trimEnd`: trimming twice is trimming once.
-/

namespace HostVitals.Text

/-! ## The property -/

/-- The characters of the Unicode `White_Space` property, twenty-five code points in all. -/
def isBlank (c : Char) : Bool :=
  let n := c.toNat
  (9 ≤ n && n ≤ 13) || n == 0x20 || n == 0x85 || n == 0xA0 || n == 0x1680
    || (0x2000 ≤ n && n ≤ 0x200A) || n == 0x2028 || n == 0x2029 || n == 0x202F
    || n == 0x205F || n == 0x3000

/-! ## Trimming -/

/-- The text without the blanks it starts with. -/
def trimStart (cs : List Char) : List Char :=
  cs.dropWhile isBlank

/-- The text without the blanks it ends with. -/
def trimEnd : List Char → List Char
  | [] => []
  | c :: cs =>
    match trimEnd cs with
    | [] => if isBlank c then [] else [c]
    | d :: ds => c :: d :: ds

/-- The text without the blanks around it. -/
def trim (cs : List Char) : List Char :=
  trimEnd (trimStart cs)

/-- Trimming the start twice is trimming it once. -/
@[simp] theorem trimStart_trimStart (cs : List Char) :
    trimStart (trimStart cs) = trimStart cs := by
  unfold trimStart
  induction cs with
  | nil => rfl
  | cons c cs ih => by_cases h : isBlank c <;> simp [h, ih]

/-- Trimming the end twice is trimming it once. -/
@[simp] theorem trimEnd_trimEnd (cs : List Char) : trimEnd (trimEnd cs) = trimEnd cs := by
  induction cs with
  | nil => rfl
  | cons c cs ih =>
    simp only [trimEnd]
    split
    · by_cases hc : isBlank c <;> simp [trimEnd, hc]
    · next d ds h =>
      rw [h] at ih
      simp only [trimEnd] at ih ⊢
      rw [ih]

/-! ## Cutting into pieces -/

/-- The pieces of a text between the characters that `cut` holds for.  There is one piece more
than there are such characters, and pieces may be empty. -/
def pieces (cut : Char → Bool) : List Char → List (List Char)
  | [] => [[]]
  | c :: cs =>
    if cut c then
      [] :: pieces cut cs
    else
      match pieces cut cs with
      | [] => [[c]]
      | piece :: rest => (c :: piece) :: rest

/-- A text always has a piece. -/
theorem pieces_ne_nil (cut : Char → Bool) (cs : List Char) : pieces cut cs ≠ [] := by
  cases cs with
  | nil => simp [pieces]
  | cons c cs =>
    simp only [pieces]
    split
    · simp
    · split <;> simp

/-- A text without a separator is one piece. -/
theorem pieces_eq_self {cut : Char → Bool} {cs : List Char} (h : ∀ c ∈ cs, cut c = false) :
    pieces cut cs = [cs] := by
  induction cs with
  | nil => rfl
  | cons c cs ih =>
    have hc : cut c = false := h c List.mem_cons_self
    have hcs := ih (fun d hd => h d (List.mem_cons_of_mem c hd))
    simp [pieces, hc, hcs]

/-- Cutting at a separator gives the pieces before it and then the pieces after it. -/
theorem pieces_append_cut (cut : Char → Bool) {c : Char} (hc : cut c = true)
    (as bs : List Char) :
    pieces cut (as ++ c :: bs) = pieces cut as ++ pieces cut bs := by
  induction as with
  | nil => simp [pieces, hc]
  | cons a as ih =>
    simp only [List.cons_append, pieces, ih]
    by_cases ha : cut a
    · simp [ha]
    · simp only [ha]
      cases h : pieces cut as with
      | nil => exact absurd h (pieces_ne_nil cut as)
      | cons p ps => simp

/-! ## Words -/

/-- The words of a text: its longest runs of characters that are not blank. -/
def words (cs : List Char) : List (List Char) :=
  (pieces isBlank cs).filter (fun word => !word.isEmpty)

/-- The empty text has no words. -/
@[simp] theorem words_nil : words [] = [] := rfl

/-- A blank keeps the words of the two texts around it apart. -/
theorem words_append_blank {c : Char} (hc : isBlank c = true) (as bs : List Char) :
    words (as ++ c :: bs) = words as ++ words bs := by
  simp [words, pieces_append_cut isBlank hc]

end HostVitals.Text
