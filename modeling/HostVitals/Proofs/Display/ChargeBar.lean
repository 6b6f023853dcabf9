import HostVitals.Display.Batteries
import HostVitals.Proofs.Number.Order

/-!
# Charge bars

The battery section has one line with a charge bar for each battery.  The cells that are filled are
counted by rounded arithmetic, and each of its steps keeps the order, so that a greater charge never
fills fewer cells.  What has to be known besides is what three charges fill: zero, a full charge,
and the greatest number below a full charge, which leaves a cell empty although two steps round.

Main results:

- `filledCells_positive`: the cells that a charge without a minus sign fills, by its rank.
- `filledCells_mono`: a greater charge does not fill fewer cells.
- `filledCells_eq_barWidth_iff`: which charges fill all cells.
- `filter_batteries`: the lines with a charge bar.
- `charge_bar`: what is drawn for a battery, for each number that its charge can be.
-/

namespace HostVitals.Display

open HostVitals.Number HostVitals.Text

/-! ## Cells by rank -/

/-- The rank of a full charge. -/
def fullRank : Rank :=
  Rank.nearest (100 * unitsPerOne) 1

/-- The rank of the number of cells. -/
def widthRank : Rank :=
  Rank.nearest (20 * unitsPerOne) 1

/-- The rank of the share of a full charge. -/
def shareRank (rank : Rank) : Rank :=
  Rank.nearest (rank.units * unitsPerOne) fullRank.units

/-- The cells that a rank up to that of a full charge fills. -/
def cellsOfRank (rank : Rank) : Nat :=
  (Rank.nearest ((shareRank rank).units * widthRank.units) unitsPerOne).units / unitsPerOne

/-- The charge and the number that the share is multiplied with. -/
theorem constants_eq :
    fullCharge = .signed false fullRank ∧ Binary64.ofInt barWidth = .signed false widthRank := by
  decide +kernel

/-- No step leads to an infinite number, and there is something to divide by. -/
theorem fixed_ranks :
    Rank.zero < fullRank ∧ fullRank < Rank.infinity ∧ widthRank < Rank.infinity ∧
      shareRank fullRank < Rank.infinity := by
  decide +kernel

theorem fullRank_units_pos : 0 < fullRank.units :=
  Nat.zero_lt_of_lt (unitsOfRank_lt (Fin.lt_def.1 fixed_ranks.1))

/-- What is filled by no charge, by the greatest charge that is not full, and by a full one. -/
theorem cellsOfRank_limits :
    cellsOfRank Rank.zero = 0 ∧ cellsOfRank ⟨fullRank.val - 1, by omega⟩ < barWidth ∧
      cellsOfRank fullRank = barWidth := by
  decide +kernel

theorem shareRank_mono {a b : Rank} (h : a ≤ b) : shareRank a ≤ shareRank b := by
  apply Rank.nearest_mono fullRank_units_pos fullRank_units_pos
  exact Nat.mul_le_mul_right _ (Nat.mul_le_mul_right _ (Rank.units_mono h))

/-- A higher rank does not fill fewer cells. -/
theorem cellsOfRank_mono {a b : Rank} (h : a ≤ b) : cellsOfRank a ≤ cellsOfRank b := by
  apply Nat.div_le_div_right
  apply Rank.units_mono
  apply Rank.nearest_mono unitsPerOne_pos unitsPerOne_pos
  exact Nat.mul_le_mul_right _ (Nat.mul_le_mul_right _ (Rank.units_mono (shareRank_mono h)))

/-- A rank below that of a full charge leaves a cell empty. -/
theorem cellsOfRank_lt {rank : Rank} (h : rank < fullRank) : cellsOfRank rank < barWidth := by
  -- the greatest of these ranks decides for all of them
  refine Nat.lt_of_le_of_lt (cellsOfRank_mono ?_) cellsOfRank_limits.2.1
  rw [Fin.le_def]
  exact Nat.le_sub_one_of_lt h

/-! ## Filled cells -/

theorem clamp_positive (rank : Rank) :
    Binary64.clamp .zero fullCharge (.signed false rank) = .signed false (min rank fullRank) := by
  have hnonneg : ¬(Binary64.signed false rank).lt .zero = true :=
    mt Binary64.lt_positive_iff.1 (not_lt.2 (Fin.zero_le rank))
  rw [Binary64.clamp, if_neg hnonneg, constants_eq.1]
  by_cases hrank : fullRank < rank
  · rw [if_pos (Binary64.lt_positive_iff.2 hrank), min_eq_right (le_of_lt hrank)]
  · rw [if_neg (mt Binary64.lt_positive_iff.1 hrank), min_eq_left (not_lt.1 hrank)]

/-- What a charge without a minus sign fills goes by its rank, up to that of a full charge. -/
theorem filledCells_positive (rank : Rank) :
    filledCells (.signed false rank) = cellsOfRank (min rank fullRank) := by
  obtain ⟨hpos, hfull, hwidth, hone⟩ := fixed_ranks
  have hcharge : min rank fullRank ≤ fullRank := min_le_right rank fullRank
  have hshare : shareRank (min rank fullRank) < Rank.infinity :=
    lt_of_le_of_lt (shareRank_mono hcharge) hone
  have hquotient : (Binary64.signed false (min rank fullRank)).div (.signed false fullRank) =
      .signed false (shareRank (min rank fullRank)) :=
    Binary64.div_positive (ne_of_lt (lt_of_le_of_lt hcharge hfull)) (ne_of_lt hfull)
      (ne_of_gt hpos)
  rw [filledCells, clamp_positive, constants_eq.1, hquotient, constants_eq.2,
    Binary64.mul_positive (ne_of_lt hshare) (ne_of_lt hwidth)]
  rfl

theorem filledCells_zero : filledCells .zero = 0 := by
  rw [Binary64.zero, filledCells_positive, min_eq_left (le_of_lt fixed_ranks.1)]
  exact cellsOfRank_limits.1

theorem filledCells_nan : filledCells .nan = 0 := rfl

/-- A minus sign leaves all cells empty. -/
theorem filledCells_negative (rank : Rank) : filledCells (.signed true rank) = 0 := by
  by_cases hbelow : (Binary64.signed true rank).lt .zero = true
  · have hleast : min Rank.zero fullRank = Rank.zero := min_eq_left (le_of_lt fixed_ranks.1)
    have hzero : Binary64.clamp .zero fullCharge .zero = .zero :=
      (clamp_positive Rank.zero).trans (congrArg (Binary64.signed false) hleast)
    have hclamp : Binary64.clamp .zero fullCharge (.signed true rank) = .zero := if_pos hbelow
    rw [filledCells, hclamp, ← hzero]
    exact filledCells_zero
  · -- the zero with a minus sign is not below zero, and keeps its sign
    have hzero : rank = Rank.zero := by
      simp [Binary64.lt, Binary64.compare, Binary64.place, Binary64.zero, Rank.zero] at hbelow
      exact hbelow
    rw [hzero]
    decide +kernel

section

variable {x y : Binary64}

theorem filledCells_le (x : Binary64) : filledCells x ≤ barWidth := by
  rcases x with _ | ⟨_ | _, rank⟩
  · rw [filledCells_nan]
    exact Nat.zero_le _
  · rw [filledCells_positive, ← cellsOfRank_limits.2.2]
    exact cellsOfRank_mono (min_le_right _ _)
  · rw [filledCells_negative]
    exact Nat.zero_le _

theorem filledCells_of_le_zero (h : x.le .zero = true) : filledCells x = 0 := by
  rcases x with _ | ⟨_ | _, rank⟩
  · exact filledCells_nan
  · rw [Binary64.eq_zero_of_le_zero h]
    exact filledCells_zero
  · exact filledCells_negative rank

/-- A greater charge does not fill fewer cells. -/
theorem filledCells_mono (h : x.le y = true) : filledCells x ≤ filledCells y := by
  rcases x with _ | ⟨s, a⟩
  · cases h
  · rcases y with _ | ⟨_ | _, b⟩
    · cases h
    · cases s with
      | true =>
          rw [filledCells_negative]
          exact Nat.zero_le _
      | false =>
          rw [filledCells_positive, filledCells_positive]
          exact cellsOfRank_mono (min_le_min_right _ (Binary64.le_positive_iff.1 h))
    · rw [filledCells_of_le_zero (Binary64.le_negative h)]
      exact Nat.zero_le _

/-- All cells are filled by a full charge and by greater ones, and only by these. -/
theorem filledCells_eq_barWidth_iff : filledCells x = barWidth ↔ fullCharge.le x = true := by
  rw [constants_eq.1]
  rcases x with _ | ⟨_ | _, rank⟩
  · rw [filledCells_nan]
    exact iff_of_false (by decide) nofun
  · rw [filledCells_positive, Binary64.le_positive_iff]
    by_cases hfull : fullRank ≤ rank
    · rw [min_eq_right hfull]
      exact iff_of_true cellsOfRank_limits.2.2 hfull
    · have hless := cellsOfRank_lt (not_le.1 hfull)
      rw [min_eq_left (le_of_not_ge hfull)]
      exact iff_of_false (Nat.ne_of_lt hless) hfull
  · rw [filledCells_negative]
    refine iff_of_false (by decide) ?_
    intro hle
    have hzero := Binary64.eq_zero_of_le_zero (Binary64.le_negative hle)
    exact absurd hzero (ne_of_gt fixed_ranks.1)

/-! ## Drawn cells -/

theorem count_chargeCells (x : Binary64) : (chargeCells x).count '#' = filledCells x := by
  simp [chargeCells, List.count_replicate]

end

/-! ## Lines -/

/-- The words in front of a charge bar. -/
def barCaption : Span :=
  say "    Charge: ["

/-- A line with a charge bar, which is told by the words in front. -/
def isChargeLine (line : Line) : Bool :=
  line.head? = some barCaption

/-- The lines about a battery have one with its charge bar. -/
theorem filter_battery (b : Battery) : (battery b).filter isChargeLine = [chargeLine b] := by
  have hcharge : isChargeLine (chargeLine b) = true := rfl
  have htime : (b.timeLeft.map
      (fun time => [say "    Time Remaining: ", say time])).toList.filter isChargeLine = [] := by
    cases b.timeLeft with
    | none => rfl
    | some time => rfl
  have hhealth : (b.health.map (fun health =>
      [say "    Condition: ", sayIn (conditionStyle health) health])).toList.filter isChargeLine =
        [] := by
    cases b.health with
    | none => rfl
    | some health => rfl
  have hcycles : (if 0 < b.cycleCount then
      [[say "    Cycle Count: ", ⟨cycleStyle b.cycleCount, natDigits b.cycleCount.toNat⟩]]
        else []).filter isChargeLine = [] := by
    split <;> rfl
  rw [battery, List.filter_append, List.filter_append, List.filter_append, htime, hhealth, hcycles,
    List.filter_cons_of_pos hcharge, List.filter_nil]
  rfl

theorem filter_batteriesFrom (numbered : Bool) (n : Nat) (bs : List Battery) :
    (batteriesFrom numbered n bs).filter isChargeLine = bs.map chargeLine := by
  induction bs generalizing n with
  | nil => rfl
  | cons b bs ih =>
      have hnumber : (if numbered then [batteryNumber n] else []).filter isChargeLine = [] := by
        split <;> rfl
      rw [batteriesFrom, List.filter_append, List.filter_append, hnumber, filter_battery, ih]
      rfl

/-- The battery section has one line with a charge bar for each battery, in their order. -/
theorem filter_batteries (bs : List Battery) :
    (batteries bs).filter isChargeLine = bs.map chargeLine := by
  rw [batteries, List.filter_append, filter_batteriesFrom]
  rfl

/-- The battery section has one line with a charge bar for each battery, and the bar in it is drawn
for the charge of the battery: 20 cells between brackets, first those that are filled and then those
that are not.  That holds for every number, the infinite ones and the one that is no number among
them.  A greater charge does not fill fewer cells; none is filled by a charge that is no number or
not above zero, and all of them are filled from a charge of 100 on, but not below it. -/
theorem charge_bar :
    (∀ bs : List Battery, (batteries bs).filter isChargeLine = bs.map chargeLine) ∧
    (∀ (b : Battery) (colours : Bool), ∃ rest, writeSpans colours (chargeLine b) =
      "    Charge: [".toList ++
        Span.write colours ⟨chargeStyle b.percent, chargeCells b.percent⟩ ++ ']' :: ' ' :: rest) ∧
    (∀ x, ∃ filled ≤ 20,
      chargeCells x = List.replicate filled '#' ++ List.replicate (20 - filled) '.') ∧
    (∀ x, (chargeCells x).length = 20) ∧
    (∀ x y, x.le y = true → (chargeCells x).count '#' ≤ (chargeCells y).count '#') ∧
    (chargeCells .nan).count '#' = 0 ∧
    (∀ x, x.le .zero = true → (chargeCells x).count '#' = 0) ∧
    ∀ x, (chargeCells x).count '#' = 20 ↔ (Binary64.ofInt 100).le x = true := by
  simp only [count_chargeCells]
  refine ⟨filter_batteries, ?_, ?_, ?_, fun _ _ => filledCells_mono, filledCells_nan,
    fun _ => filledCells_of_le_zero, fun _ => filledCells_eq_barWidth_iff⟩
  · intro b colours
    refine ⟨writeSpans colours ((chargeLine b).drop 3), ?_⟩
    simp [chargeLine, writeSpans, say]
  · intro x
    exact ⟨filledCells x, filledCells_le x, rfl⟩
  · intro x
    rw [length_chargeCells, Nat.max_eq_right (filledCells_le x), barWidth]

/-- The greatest charge below 100 leaves a cell empty. -/
example : (chargeCells (.ofBits 0x4058FFFFFFFFFFFF)).count '#' = 19 := by decide +kernel

end HostVitals.Display
