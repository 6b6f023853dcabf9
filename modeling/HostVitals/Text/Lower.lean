import HostVitals.Text.CaseTable

/-!
# Lower-case form of a text

Every character is replaced by its Unicode lower-case form.  One character has a form of two: the
capital I with a dot above becomes an `i` and a combining dot.  At the end of a word the small sigma
would have a form of its own; here it is written like any other, which makes no difference to
phrases without a sigma, and no other phrases are looked for.

Main results:

- `lower_append`: the lower-case form is taken character by character.
-/

namespace HostVitals.Text

/-- The capital I with a dot above. -/
def dottedCapitalI : Char := Char.ofNat 0x130

/-- The combining dot above. -/
def combiningDot : Char := Char.ofNat 0x307

/-- The lower-case form of one character. -/
def lowerChar (c : Char) : List Char :=
  if c = dottedCapitalI then ['i', combiningDot]
  else
    match caseRuns.find? (fun run => run.holds c.toNat) with
    | some run => [Char.ofNat ((c.toNat : Int) + run.shift).toNat]
    | none => [c]

/-- The lower-case form of a text. -/
def lower (cs : List Char) : List Char :=
  cs.flatMap lowerChar

/-- The lower-case form of a text is made of those of its parts. -/
@[simp] theorem lower_append (as bs : List Char) : lower (as ++ bs) = lower as ++ lower bs := by
  simp [lower]

end HostVitals.Text
