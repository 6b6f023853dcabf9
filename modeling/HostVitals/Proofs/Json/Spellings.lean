import HostVitals.Json.Reader
import HostVitals.Proofs.Json.Numerals

/-!
# Spellings of texts and numbers

A text may be spelled in several ways, since a character may stand for itself or be escaped, and so
may a number with an exponent.  A reader reads the spellings and nothing else: what it has read is
spelled by what it has taken, and every spelling is read.

Main results:

- `readText_spelled`, `spelled_of_readText`: the spellings of texts are read.
- `readNumeralPart_spelled`, `spelled_of_readNumeralPart`: the spellings of numbers are read.
-/

namespace HostVitals.Json

open HostVitals.Number

/-! ## Texts -/

/-- The spellings of an element of a text. -/
inductive SpellsUnit : TextUnit → Source → Prop
  | plain {c : Char} (hquote : c ≠ '"') (hslash : c ≠ '\\') (hprintable : ¬c.toNat < 0x20) :
      SpellsUnit (.char c) [some c]
  | escaped {letter c : Char} (h : escapedChar letter = some c) :
      SpellsUnit (.char c) [some '\\', some letter]
  | coded {a b c d : Text.Utf8.Symbol} {code : Nat} (h : hexCode a b c d = some code) :
      SpellsUnit (unitOfCode code) [some '\\', some 'u', a, b, c, d]
  | stray : SpellsUnit .stray [none]

/-- The spellings of elements one after the other. -/
inductive SpellsUnits : List TextUnit → Source → Prop
  | nil : SpellsUnits [] []
  | cons {u : TextUnit} {units : List TextUnit} {first rest : Source} (hfirst : SpellsUnit u first)
      (hrest : SpellsUnits units rest) : SpellsUnits (u :: units) (first ++ rest)

/-- The spellings of a text between quotation marks.  There is no text when the elements are not
those of one. -/
def SpellsText (text : Option String) (source : Source) : Prop :=
  ∃ units spelling, SpellsUnits units spelling ∧
    text = (textOfUnits units).map String.ofList ∧ source = some '"' :: (spelling ++ [some '"'])

/-- A character that needs no escape stands for itself. -/
theorem readUnits_plain {c : Char} (hquote : c ≠ '"') (hslash : c ≠ '\\')
    (hplain : ¬c.toNat < 0x20) (source : Source) :
    readUnits (some c :: source) =
      (readUnits source).map (fun read => (.char c :: read.1, read.2)) := by
  rw [readUnits, if_neg hplain]
  · cases readUnits source <;> rfl
  · exact hquote
  · exact fun _ _ _ _ _ _ => hslash
  · exact fun _ _ _ => hslash
  · exact hslash

/-- Reading goes on after an element. -/
theorem readUnits_append {u : TextUnit} {first : Source} (h : SpellsUnit u first)
    (source : Source) :
    readUnits (first ++ source) =
      (readUnits source).map (fun read => (u :: read.1, read.2)) := by
  cases h with
  | plain hquote hslash hprintable => exact readUnits_plain hquote hslash hprintable source
  | @escaped letter c h =>
      have hu : letter ≠ 'u' := by
        rintro rfl
        cases h
      simp only [List.cons_append, List.nil_append]
      rw [readUnits, h]
      · cases readUnits source <;> rfl
      · exact fun _ _ _ _ _ _ hletter => hu hletter
  | coded h =>
      simp only [List.cons_append, List.nil_append]
      rw [readUnits, h]
      cases readUnits source <;> rfl
  | stray =>
      simp only [List.cons_append, List.nil_append]
      rw [readUnits]
      cases readUnits source <;> rfl

theorem readUnits_spelled {units : List TextUnit} {spelling : Source}
    (h : SpellsUnits units spelling) (rest : Source) :
    readUnits (spelling ++ some '"' :: rest) = some (units, rest) := by
  induction h with
  | nil => rfl
  | cons hfirst _ ih =>
      rw [List.append_assoc, readUnits_append hfirst, ih]
      rfl

theorem spelled_of_readUnits {source rest : Source} {units : List TextUnit}
    (h : readUnits source = some (units, rest)) :
    ∃ spelling, SpellsUnits units spelling ∧ source = spelling ++ some '"' :: rest := by
  have hstep : ∀ {u : TextUnit} {first tail : Source} {inner : List TextUnit},
      SpellsUnit u first →
      (∃ spelling, SpellsUnits inner spelling ∧ tail = spelling ++ some '"' :: rest) →
      ∃ spelling, SpellsUnits (u :: inner) spelling ∧
        first ++ tail = spelling ++ some '"' :: rest := by
    rintro u first tail inner hfirst ⟨spelling, hspelling, rfl⟩
    exact ⟨_, .cons hfirst hspelling, (List.append_assoc _ _ _).symm⟩
  fun_induction readUnits source generalizing units with
  | case1 source =>
      cases h
      exact ⟨[], .nil, rfl⟩
  | case2 a b c d source ih =>
      simp only [Option.bind_eq_bind, Option.bind_eq_some_iff] at h
      obtain ⟨code, hcode, ⟨inner, tail⟩, htail, h⟩ := h
      cases h
      exact hstep (.coded hcode) (ih htail)
  | case3 letter source _ ih =>
      simp only [Option.bind_eq_bind, Option.bind_eq_some_iff] at h
      obtain ⟨c, hletter, ⟨inner, tail⟩, htail, h⟩ := h
      cases h
      exact hstep (.escaped hletter) (ih htail)
  | case4 => cases h
  | case5 => cases h
  | case6 c source hquote _ _ hslash hprintable ih =>
      simp only [Option.bind_eq_bind, Option.bind_eq_some_iff] at h
      obtain ⟨⟨inner, tail⟩, htail, h⟩ := h
      cases h
      exact hstep (.plain hquote hslash hprintable) (ih htail)
  | case7 source ih =>
      simp only [Option.bind_eq_bind, Option.bind_eq_some_iff] at h
      obtain ⟨⟨inner, tail⟩, htail, h⟩ := h
      cases h
      exact hstep .stray (ih htail)
  | case8 => cases h

/-- Every spelling of a text is read. -/
theorem readText_spelled {text : Option String} {source : Source} (h : SpellsText text source) :
    ∃ inner, source = some '"' :: inner ∧
      ∀ rest, readText (inner ++ rest) = some (text, rest) := by
  obtain ⟨units, spelling, hunits, rfl, rfl⟩ := h
  refine ⟨_, rfl, fun rest => ?_⟩
  rw [List.append_assoc, List.singleton_append, readText, readUnits_spelled hunits]
  rfl

/-- What is read as a text is a spelling of it. -/
theorem spelled_of_readText {source rest : Source} {text : Option String}
    (h : readText source = some (text, rest)) :
    ∃ inner, source = inner ++ rest ∧ SpellsText text (some '"' :: inner) := by
  obtain ⟨⟨units, tail⟩, hunits, heq⟩ := Option.map_eq_some_iff.1 h
  cases heq
  obtain ⟨spelling, hspelling, rfl⟩ := spelled_of_readUnits hunits
  refine ⟨spelling ++ [some '"'], by simp, units, spelling, hspelling, rfl, rfl⟩

/-! ## Numbers -/

/-- The fraction of a number as it is written. -/
def fractionPart (digits : List Char) : List Char :=
  if digits.isEmpty then [] else '.' :: digits

/-- The spellings of an exponent: with either mark, and with a plus sign or none unless it is below
zero. -/
inductive SpellsExponent : Option Exponent → List Char → Prop
  | absent : SpellsExponent none []
  | negative {mark : Char} (hmark : mark = 'e' ∨ mark = 'E') (digits : List Char) :
      SpellsExponent (some ⟨true, digits⟩) (mark :: '-' :: digits)
  | plus {mark : Char} (hmark : mark = 'e' ∨ mark = 'E') (digits : List Char) :
      SpellsExponent (some ⟨false, digits⟩) (mark :: '+' :: digits)
  | bare {mark : Char} (hmark : mark = 'e' ∨ mark = 'E') (digits : List Char) :
      SpellsExponent (some ⟨false, digits⟩) (mark :: digits)

/-- The spellings of a number that may stand in a document. -/
structure SpellsNumeral (n : Numeral) (cs : List Char) : Prop where
  wellFormed : n.WellFormed
  spelled : ∃ exponent, SpellsExponent n.exponent exponent ∧
    cs = (if n.negative then ['-'] else []) ++ n.whole ++ fractionPart n.fraction ++ exponent

/-! ### Every spelling of a number is read -/

/-- Whether a source starts with a digit. -/
def startsWithDigit : Source → Bool
  | some c :: _ => isDigit c
  | _ => false

/-- Whether a source starts with something that could belong to a number in front of it. -/
def continuesNumeral : Source → Bool
  | some c :: _ => isDigit c || c == '.' || c == 'e' || c == 'E'
  | _ => false

theorem startsWithDigit_of_continues {rest : Source} (h : continuesNumeral rest = false) :
    startsWithDigit rest = false := by
  rcases rest with _ | ⟨_ | c, rest⟩
  · rfl
  · rfl
  · simp only [continuesNumeral, Bool.or_eq_false_iff] at h
    exact h.1.1.1

/-- A run of digits ends where the next character is none. -/
theorem digitRun_append {digits : List Char} (hdigits : ∀ c ∈ digits, isDigit c = true)
    {rest : Source} (hrest : startsWithDigit rest = false) :
    digitRun (digits.map some ++ rest) = (digits, rest) := by
  induction digits with
  | nil =>
      rcases rest with _ | ⟨_ | c, rest⟩
      · rfl
      · rfl
      · have hc : isDigit c = false := hrest
        simp [digitRun, hc]
  | cons c digits ih =>
      have hc := hdigits c List.mem_cons_self
      have htail := ih (fun d hd => hdigits d (List.mem_cons_of_mem _ hd))
      simp [digitRun, hc, htail]

/-- After a fraction comes neither a digit nor a point. -/
theorem readFraction_part {digits : List Char} (hdigits : ∀ c ∈ digits, isDigit c = true)
    {rest : Source} (hdigit : startsWithDigit rest = false)
    (hpoint : rest.head? ≠ some (some '.')) :
    readFraction ((fractionPart digits).map some ++ rest) = some (digits, rest) := by
  cases digits with
  | nil =>
      change readFraction rest = _
      unfold readFraction
      split
      · exact absurd rfl hpoint
      · rfl
  | cons c digits =>
      have hrun := digitRun_append hdigits hdigit
      change readFraction (some '.' :: ((c :: digits).map some ++ rest)) = _
      simp only [readFraction, hrun]
      rfl

/-- The digits of an exponent after its mark and its sign. -/
def readExponentDigits (negative : Bool) (source : Source) : Option (Option Exponent × Source) :=
  let (digits, rest) := digitRun source
  if digits.isEmpty then none else some (some ⟨negative, digits⟩, rest)

/-- Without a mark there is no exponent. -/
theorem readExponentPart_unmarked {source : Source}
    (h : ∀ mark rest, source = some mark :: rest → ¬(mark = 'e' ∨ mark = 'E')) :
    readExponentPart source = some (none, source) := by
  unfold readExponentPart
  split
  · exact absurd (.inl rfl) (h _ _ rfl)
  · exact absurd (.inr rfl) (h _ _ rfl)
  · rfl

/-- The sign of an exponent, and what follows it. -/
def exponentSign : Source → Bool × Source
  | some '-' :: rest => (true, rest)
  | some '+' :: rest => (false, rest)
  | rest => (false, rest)

theorem readExponentPart_marked {mark : Char} (hmark : mark = 'e' ∨ mark = 'E') (source : Source) :
    readExponentPart (some mark :: source) =
      readExponentDigits (exponentSign source).1 (exponentSign source).2 := by
  rcases hmark with rfl | rfl
  · rfl
  · rfl

/-- A digit is no sign. -/
theorem exponentSign_digit {source : Source} (h : startsWithDigit source = true) :
    exponentSign source = (false, source) := by
  unfold exponentSign
  split
  · cases h
  · cases h
  · rfl

theorem startsWithDigit_append {digits : List Char} (hne : digits ≠ [])
    (hdigits : ∀ c ∈ digits, isDigit c = true) (rest : Source) :
    startsWithDigit (digits.map some ++ rest) = true := by
  obtain ⟨c, cs, rfl⟩ := List.exists_cons_of_ne_nil hne
  exact hdigits c List.mem_cons_self

theorem readExponentDigits_append (negative : Bool) {digits : List Char} (hne : digits ≠ [])
    (hdigits : ∀ c ∈ digits, isDigit c = true) {rest : Source}
    (hrest : startsWithDigit rest = false) :
    readExponentDigits negative (digits.map some ++ rest) =
      some (some ⟨negative, digits⟩, rest) := by
  rw [readExponentDigits, digitRun_append hdigits hrest]
  simp [hne]

/-- Nothing that could belong to a number comes after its exponent. -/
theorem readExponentPart_spelled {exponent : Option Exponent} {cs : List Char}
    (h : SpellsExponent exponent cs) (hne : ∀ e ∈ exponent, e.digits ≠ [])
    (hdigits : ∀ e ∈ exponent, ∀ c ∈ e.digits, isDigit c = true) {rest : Source}
    (hrest : continuesNumeral rest = false) :
    readExponentPart (cs.map some ++ rest) = some (exponent, rest) := by
  have hnone := startsWithDigit_of_continues hrest
  cases h with
  | absent =>
      refine readExponentPart_unmarked (fun mark tail heq hmark => ?_)
      obtain rfl : rest = some mark :: tail := heq
      rcases hmark with rfl | rfl
      · cases hrest
      · cases hrest
  | negative hmark digits =>
      exact (readExponentPart_marked hmark _).trans
        (readExponentDigits_append true (hne _ rfl) (hdigits _ rfl) hnone)
  | plus hmark digits =>
      exact (readExponentPart_marked hmark _).trans
        (readExponentDigits_append false (hne _ rfl) (hdigits _ rfl) hnone)
  | bare hmark digits =>
      have hsign : exponentSign (digits.map some ++ rest) = (false, digits.map some ++ rest) :=
        exponentSign_digit (startsWithDigit_append (hne _ rfl) (hdigits _ rfl) rest)
      rw [List.map_cons, List.cons_append, readExponentPart_marked hmark, hsign]
      exact readExponentDigits_append false (hne _ rfl) (hdigits _ rfl) hnone

/-- What comes after a fraction is neither a digit nor a point. -/
theorem SpellsExponent.starts {exponent : Option Exponent} {cs : List Char}
    (h : SpellsExponent exponent cs) {rest : Source} (hrest : continuesNumeral rest = false) :
    startsWithDigit (cs.map some ++ rest) = false ∧
      (cs.map some ++ rest).head? ≠ some (some '.') := by
  have hmarked : ∀ {mark : Char} (source : Source), mark = 'e' ∨ mark = 'E' →
      startsWithDigit (some mark :: source) = false ∧
        (some mark :: source).head? ≠ some (some '.') := by
    rintro _ source (rfl | rfl)
    · exact ⟨rfl, by simp⟩
    · exact ⟨rfl, by simp⟩
  cases h with
  | absent =>
      refine ⟨startsWithDigit_of_continues hrest, fun hpoint => ?_⟩
      obtain ⟨tail, rfl⟩ : ∃ tail, rest = some '.' :: tail := List.head?_eq_some_iff.1 hpoint
      cases hrest
  | negative hmark digits => exact hmarked _ hmark
  | plus hmark digits => exact hmarked _ hmark
  | bare hmark digits => exact hmarked _ hmark

/-- A number after its sign. -/
def readMagnitude (negative : Bool) (source : Source) : Option (Numeral × Source) := do
  let (whole, rest) := digitRun source
  if whole.isEmpty || (whole.head? == some '0' && whole.length != 1) then none
  let (fraction, rest) ← readFraction rest
  let (exponent, rest) ← readExponentPart rest
  some (⟨negative, whole, fraction, exponent⟩, rest)

theorem readNumeralPart_negative (rest : Source) :
    readNumeralPart (some '-' :: rest) = readMagnitude true rest := rfl

theorem readNumeralPart_digit {source : Source} (h : startsWithDigit source = true) :
    readNumeralPart source = readMagnitude false source := by
  rcases source with _ | ⟨_ | c, source⟩
  · cases h
  · cases h
  · have hsign : c ≠ '-' := by
      rintro rfl
      cases h
    unfold readNumeralPart
    split
    next heq =>
    split at heq
    · next hminus =>
      cases hminus
      exact absurd rfl hsign
    · cases heq
      rfl

/-- A number after its sign is read from any spelling of it. -/
theorem readMagnitude_spelled {n : Numeral} (h : n.WellFormed) {exponent : List Char}
    (hexponent : SpellsExponent n.exponent exponent) {rest : Source}
    (hrest : continuesNumeral rest = false) :
    readMagnitude n.negative (n.whole.map some ++ ((fractionPart n.fraction).map some ++
      (exponent.map some ++ rest))) = some (n, rest) := by
  obtain ⟨hdigit, hpoint⟩ := hexponent.starts hrest
  have hafter : startsWithDigit ((fractionPart n.fraction).map some ++
      (exponent.map some ++ rest)) = false := by
    cases n.fraction with
    | nil => exact hdigit
    | cons c digits => rfl
  have hwhole := digitRun_append h.whole_digits hafter
  have hfraction := readFraction_part h.fraction_digits hdigit hpoint
  have hread := readExponentPart_spelled hexponent h.exponent_ne_nil h.exponent_digits hrest
  have hallowed : ¬(n.whole.isEmpty || (n.whole.head? == some '0' && n.whole.length != 1)) = true
      := by
    simpa [h.whole_ne_nil] using h.whole_head
  simp only [readMagnitude, hwhole, hfraction, if_neg hallowed, Option.bind_eq_bind,
    Option.bind_some, hread]

/-- Every spelling of a number is read, if nothing after it could belong to it. -/
theorem readNumeralPart_spelled {n : Numeral} {cs : List Char} (h : SpellsNumeral n cs)
    {rest : Source} (hrest : continuesNumeral rest = false) :
    readNumeralPart (cs.map some ++ rest) = some (n, rest) := by
  obtain ⟨exponent, hexponent, rfl⟩ := h.spelled
  have hread := readMagnitude_spelled h.wellFormed hexponent hrest
  simp only [List.map_append, List.append_assoc]
  cases hnegative : n.negative with
  | true =>
      rw [hnegative] at hread
      exact (readNumeralPart_negative _).trans hread
  | false =>
      rw [hnegative] at hread
      exact (readNumeralPart_digit (startsWithDigit_append h.wellFormed.whole_ne_nil
        h.wellFormed.whole_digits _)).trans hread

/-! ### What was read -/

/-- A run of digits is made of digits. -/
theorem eq_append_of_digitRun {source rest : Source} {digits : List Char}
    (h : digitRun source = (digits, rest)) :
    source = digits.map some ++ rest ∧ ∀ c ∈ digits, isDigit c = true := by
  fun_induction digitRun source generalizing digits with
  | case1 c source hc inner tail hrun ih =>
      cases h
      obtain ⟨rfl, hdigits⟩ := ih hrun
      exact ⟨rfl, List.forall_mem_cons.2 ⟨hc, hdigits⟩⟩
  | case2 c source hc =>
      cases h
      exact ⟨rfl, by simp⟩
  | case3 source _ =>
      cases h
      exact ⟨rfl, by simp⟩

theorem spelled_of_readFraction {source rest : Source} {digits : List Char}
    (h : readFraction source = some (digits, rest)) :
    source = (fractionPart digits).map some ++ rest ∧ ∀ c ∈ digits, isDigit c = true := by
  unfold readFraction at h
  split at h
  · next tail =>
    rcases hrun : digitRun tail with ⟨found, after⟩
    rw [hrun] at h
    dsimp only at h
    split at h
    · cases h
    · next hne =>
      cases h
      obtain ⟨rfl, hdigits⟩ := eq_append_of_digitRun hrun
      exact ⟨by simp [fractionPart, hne], hdigits⟩
  · cases h
    exact ⟨rfl, by simp⟩

theorem spelled_of_readExponentDigits {negative : Bool} {source rest : Source}
    {exponent : Option Exponent}
    (h : readExponentDigits negative source = some (exponent, rest)) :
    ∃ digits, exponent = some ⟨negative, digits⟩ ∧ source = digits.map some ++ rest ∧
      digits ≠ [] ∧ ∀ c ∈ digits, isDigit c = true := by
  unfold readExponentDigits at h
  rcases hrun : digitRun source with ⟨digits, after⟩
  rw [hrun] at h
  dsimp only at h
  split at h
  · cases h
  · next hne =>
    cases h
    obtain ⟨rfl, hdigits⟩ := eq_append_of_digitRun hrun
    exact ⟨digits, rfl, rfl, by simpa using hne, hdigits⟩

theorem exponentSign_cases (source : Source) :
    (∃ rest, source = some '-' :: rest ∧ exponentSign source = (true, rest)) ∨
      (∃ rest, source = some '+' :: rest ∧ exponentSign source = (false, rest)) ∨
      exponentSign source = (false, source) := by
  unfold exponentSign
  split
  · exact .inl ⟨_, rfl, rfl⟩
  · exact .inr (.inl ⟨_, rfl, rfl⟩)
  · exact .inr (.inr rfl)

/-- What an exponent was read from spells it. -/
theorem spelled_of_readExponentPart {source rest : Source} {exponent : Option Exponent}
    (h : readExponentPart source = some (exponent, rest)) :
    ∃ cs, SpellsExponent exponent cs ∧ source = cs.map some ++ rest ∧
      (∀ e ∈ exponent, e.digits ≠ []) ∧ ∀ e ∈ exponent, ∀ c ∈ e.digits, isDigit c = true := by
  by_cases hmarked : ∃ mark tail, source = some mark :: tail ∧ (mark = 'e' ∨ mark = 'E')
  · obtain ⟨mark, tail, rfl, hmark⟩ := hmarked
    rw [readExponentPart_marked hmark] at h
    obtain ⟨digits, rfl, hdigits, hne, hall⟩ := spelled_of_readExponentDigits h
    have hgood : ∀ sign : Bool, (∀ e ∈ some (Exponent.mk sign digits), e.digits ≠ []) ∧
        ∀ e ∈ some (Exponent.mk sign digits), ∀ c ∈ e.digits, isDigit c = true := by
      intro sign
      simpa using ⟨hne, hall⟩
    rcases exponentSign_cases tail with ⟨after, rfl, hsign⟩ | ⟨after, rfl, hsign⟩ | hsign
    · rw [hsign] at hdigits ⊢
      obtain rfl : after = _ := hdigits
      exact ⟨_, .negative hmark digits, rfl, hgood true⟩
    · rw [hsign] at hdigits ⊢
      obtain rfl : after = _ := hdigits
      exact ⟨_, .plus hmark digits, rfl, hgood false⟩
    · rw [hsign] at hdigits ⊢
      obtain rfl : tail = _ := hdigits
      exact ⟨_, .bare hmark digits, rfl, hgood false⟩
  · have hnone : readExponentPart source = some (none, source) :=
      readExponentPart_unmarked (fun mark tail heq hmark => hmarked ⟨mark, tail, heq, hmark⟩)
    rw [hnone] at h
    cases h
    exact ⟨[], .absent, rfl, by simp, by simp⟩

/-- What a number was read from after its sign spells the number. -/
theorem spelled_of_readMagnitude {negative : Bool} {source rest : Source} {n : Numeral}
    (h : readMagnitude negative source = some (n, rest)) :
    n.negative = negative ∧ n.WellFormed ∧ ∃ exponent, SpellsExponent n.exponent exponent ∧
      source = n.whole.map some ++ ((fractionPart n.fraction).map some ++
        (exponent.map some ++ rest)) := by
  unfold readMagnitude at h
  rcases hwhole : digitRun source with ⟨whole, afterWhole⟩
  rw [hwhole] at h
  dsimp only at h
  split at h
  · cases h
  next hallowed =>
  simp only [Option.bind_eq_bind, Option.bind_eq_some_iff] at h
  obtain ⟨⟨fraction, afterFraction⟩, hfraction, ⟨exponent, afterExponent⟩, hexponent, heq⟩ := h
  cases heq
  obtain ⟨rfl, hwholeDigits⟩ := eq_append_of_digitRun hwhole
  obtain ⟨rfl, hfractionDigits⟩ := spelled_of_readFraction hfraction
  obtain ⟨spelling, hspelling, rfl, hne, hdigits⟩ := spelled_of_readExponentPart hexponent
  simp only [Bool.or_eq_true, Bool.and_eq_true, List.isEmpty_iff, beq_iff_eq, bne_iff_ne, ne_eq,
    not_or, not_and, Decidable.not_not] at hallowed
  exact ⟨rfl, ⟨hallowed.1, hwholeDigits, hallowed.2, hfractionDigits, hne, hdigits⟩, spelling,
    hspelling, rfl⟩

/-- What a number was read from spells it. -/
theorem spelled_of_readNumeralPart {source rest : Source} {n : Numeral}
    (h : readNumeralPart source = some (n, rest)) :
    ∃ cs, SpellsNumeral n cs ∧ source = cs.map some ++ rest := by
  by_cases hminus : ∃ tail, source = some '-' :: tail
  · obtain ⟨tail, rfl⟩ := hminus
    obtain ⟨hnegative, hn, exponent, hexponent, rfl⟩ := spelled_of_readMagnitude h
    exact ⟨_, ⟨hn, exponent, hexponent, rfl⟩, by simp [hnegative]⟩
  · have hplain : readNumeralPart source = readMagnitude false source := by
      unfold readNumeralPart
      split
      next heq =>
      split at heq
      · exact absurd ⟨_, rfl⟩ hminus
      · cases heq
        rfl
    rw [hplain] at h
    obtain ⟨hnegative, hn, exponent, hexponent, rfl⟩ := spelled_of_readMagnitude h
    exact ⟨_, ⟨hn, exponent, hexponent, rfl⟩, by simp [hnegative]⟩

end HostVitals.Json
