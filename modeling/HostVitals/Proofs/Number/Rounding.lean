import Mathlib.Algebra.Group.Int.Defs
import Mathlib.Algebra.Group.Nat.Defs
import HostVitals.Number.Binary64

/-!
# Bounds of rounded numbers

Powers of two from the smallest positive number on are numbers of the format, so rounding does not
go across them.  That gives bounds for every operation that rounds its exact result, as long as the
bounds are powers of two.

Main results:

- `Rank.le_units_nearest`, `Rank.units_nearest_le`: rounding stays between powers of two.
- `LiesIn.add`, `LiesIn.mul`, `LiesIn.div`: bounds of results from bounds of operands.
- `LiesIn.isPositive`: a number within positive bounds is finite and above zero.
-/

namespace HostVitals.Number

/-! ## Ranks -/

theorem binade_eq : binade = 2 ^ 52 := by decide

theorem unitsPerOne_pos : 0 < unitsPerOne := by decide +kernel

/-- Rounding to a whole number stays within one of the quotient. -/
theorem roundHalfEven_bounds (n d : Nat) :
    n / d ≤ roundHalfEven n d ∧ roundHalfEven n d ≤ n / d + 1 := by
  simp only [roundHalfEven]
  split
  · omega
  · split
    · omega
    · omega

/-- What is counted in the binade of a number has 53 binary digits at most. -/
theorem div_spacing_lt (q : Nat) : q / 2 ^ (q.log2 - 52) < 2 ^ 53 := by
  rw [Nat.div_lt_iff_lt_mul (Nat.two_pow_pos _), ← Nat.pow_add]
  calc
    q < 2 ^ (q.log2 + 1) := Nat.lt_log2_self
    _ ≤ 2 ^ (53 + (q.log2 - 52)) := Nat.pow_le_pow_right (by decide) (by omega)

/-- What is counted in the binade of a number that has 53 binary digits has 53 of them too. -/
theorem le_div_spacing {q : Nat} (h : 2 ^ 52 ≤ q) : 2 ^ 52 ≤ q / 2 ^ (q.log2 - 52) := by
  have hne : q ≠ 0 := Nat.ne_of_gt (Nat.lt_of_lt_of_le (Nat.two_pow_pos 52) h)
  have hlog : 52 ≤ q.log2 := (Nat.le_log2 hne).2 h
  rw [Nat.le_div_iff_mul_le (Nat.two_pow_pos _), ← Nat.pow_add]
  have hsum : 52 + (q.log2 - 52) = q.log2 := by omega
  rw [hsum]
  exact Nat.log2_self_le hne

/-- Rounding does not go below a power of two. -/
theorem le_nearestRank {n d k : Nat} (h : 2 ^ (52 + k) ≤ n / d) :
    (k + 1) * binade ≤ nearestRank n d := by
  have hne : n / d ≠ 0 := Nat.ne_of_gt (Nat.lt_of_lt_of_le (Nat.two_pow_pos _) h)
  have hspacing : k ≤ (n / d).log2 - 52 := by
    have hlog := (Nat.le_log2 hne).2 h
    omega
  have hsmall : 2 ^ 52 ≤ n / d :=
    Nat.le_trans (Nat.pow_le_pow_right (by decide) (Nat.le_add_right 52 k)) h
  have hcount : binade ≤ roundHalfEven n (d * 2 ^ ((n / d).log2 - 52)) := by
    rw [binade_eq]
    calc
      2 ^ 52 ≤ n / d / 2 ^ ((n / d).log2 - 52) := le_div_spacing hsmall
      _ = n / (d * 2 ^ ((n / d).log2 - 52)) := Nat.div_div_eq_div_mul ..
      _ ≤ roundHalfEven n (d * 2 ^ ((n / d).log2 - 52)) := (roundHalfEven_bounds ..).1
  -- neither the binades below nor the count within the binade is less than for the power itself
  have hbinades : k * binade ≤ ((n / d).log2 - 52) * binade := Nat.mul_le_mul_right _ hspacing
  simp only [nearestRank, Nat.pow_eq]
  rw [Nat.add_mul, Nat.one_mul]
  omega

/-- Rounding does not go above a power of two. -/
theorem nearestRank_le {n d k : Nat} (h : n / d < 2 ^ (53 + k)) :
    nearestRank n d ≤ (k + 2) * binade := by
  have hspacing : (n / d).log2 - 52 ≤ k := by
    by_cases hzero : n / d = 0
    · rw [hzero]
      simp
    · have hlog := (Nat.log2_lt hzero).2 h
      omega
  have hcount : roundHalfEven n (d * 2 ^ ((n / d).log2 - 52)) ≤ 2 * binade := by
    have hquotient := (roundHalfEven_bounds n (d * 2 ^ ((n / d).log2 - 52))).2
    rw [← Nat.div_div_eq_div_mul] at hquotient
    have hdigits := div_spacing_lt (n / d)
    rw [binade_eq]
    omega
  have hbinades : ((n / d).log2 - 52) * binade ≤ k * binade := Nat.mul_le_mul_right _ hspacing
  simp only [nearestRank, Nat.pow_eq]
  rw [Nat.add_mul]
  omega

/-! ## Units -/

/-- The units in a binade, between two powers of two. -/
theorem unitsOfRank_bounds {rank k : Nat} (h : rank / binade = k + 1) :
    2 ^ (52 + k) ≤ unitsOfRank rank ∧ unitsOfRank rank < 2 ^ (53 + k) := by
  have hlarge : ¬rank < binade := by
    intro hlt
    rw [Nat.div_eq_of_lt hlt] at h
    omega
  have hrest : rank % binade < binade := Nat.mod_lt _ (by decide)
  rw [unitsOfRank, if_neg hlarge, h, Nat.add_sub_cancel, Nat.pow_eq, Nat.pow_add, Nat.pow_add]
  constructor
  · apply Nat.mul_le_mul_right
    rw [binade_eq]
    omega
  · apply Nat.mul_lt_mul_of_pos_right _ (Nat.two_pow_pos k)
    rw [binade_eq] at hrest ⊢
    omega

theorem le_unitsOfRank {rank k : Nat} (h : (k + 1) * binade ≤ rank) :
    2 ^ (52 + k) ≤ unitsOfRank rank := by
  have hbinade : k + 1 ≤ rank / binade := (Nat.le_div_iff_mul_le (by decide)).2 h
  obtain ⟨j, hj⟩ : ∃ j, rank / binade = j + 1 := ⟨rank / binade - 1, by omega⟩
  have hpow : 2 ^ (52 + k) ≤ 2 ^ (52 + j) := Nat.pow_le_pow_right (by decide) (by omega)
  exact Nat.le_trans hpow (unitsOfRank_bounds hj).1

theorem unitsOfRank_le {rank k : Nat} (h : rank ≤ (k + 2) * binade) :
    unitsOfRank rank ≤ 2 ^ (53 + k) := by
  -- the bound is the first rank of a binade: a rank below it is in a lower binade
  rcases Nat.lt_or_eq_of_le h with hlt | rfl
  · have hbinade : rank / binade < k + 2 := (Nat.div_lt_iff_lt_mul (by decide)).2 hlt
    rcases hj : rank / binade with _ | j
    · have hsmall : rank < binade := by
        rcases (Nat.div_eq_zero_iff).1 hj with hzero | hsmall
        · cases hzero
        · exact hsmall
      have hpow : 2 ^ 52 ≤ 2 ^ (53 + k) := Nat.pow_le_pow_right (by decide) (by omega)
      rw [unitsOfRank, if_pos hsmall]
      rw [binade_eq] at hsmall
      omega
    · have hpow : 2 ^ (53 + j) ≤ 2 ^ (53 + k) := Nat.pow_le_pow_right (by decide) (by omega)
      have hunits := (unitsOfRank_bounds hj).2
      omega
  · have hbinade : (k + 2) * binade / binade = k + 2 := Nat.mul_div_cancel _ (by decide)
    have hrest : (k + 2) * binade % binade = 0 := Nat.mul_mod_left _ _
    have hlarge : ¬(k + 2) * binade < binade := by
      rw [Nat.not_lt]
      exact Nat.le_mul_of_pos_left _ (by omega)
    rw [unitsOfRank, if_neg hlarge, hbinade, hrest, Nat.add_zero, Nat.pow_eq, binade_eq,
      ← Nat.pow_add]
    exact Nat.pow_le_pow_right (by decide) (by omega)

namespace Rank

/-- A magnitude that is rounded from a number not below a power of two is not below it. -/
theorem le_units_nearest {n d k : Nat} (hk : k < 2046) (h : 2 ^ (52 + k) ≤ n / d) :
    2 ^ (52 + k) ≤ (nearest n d).units := by
  apply le_unitsOfRank
  have hfinite : (k + 1) * binade ≤ infinityRank := Nat.mul_le_mul_right _ (by omega)
  exact Nat.le_min.2 ⟨le_nearestRank h, hfinite⟩

/-- A magnitude that is rounded from a number below a power of two is not above it. -/
theorem units_nearest_le {n d k : Nat} (h : n / d < 2 ^ (53 + k)) :
    (nearest n d).units ≤ 2 ^ (53 + k) := by
  apply unitsOfRank_le
  exact Nat.le_trans (Nat.min_le_left _ _) (nearestRank_le h)

/-- Far below the greatest finite number nothing is rounded to infinity. -/
theorem nearest_lt_infinity {n d k : Nat} (hk : k < 2045) (h : n / d < 2 ^ (53 + k)) :
    (nearest n d).val < infinityRank := by
  have hrank := nearestRank_le h
  have hfinite : (k + 2) * binade < infinityRank :=
    Nat.mul_lt_mul_of_pos_right (by omega) (by decide)
  have hmin : (nearest n d).val ≤ nearestRank n d := Nat.min_le_left _ _
  omega

end Rank

/-! ## Numbers within bounds -/

namespace Binary64

/-- A finite number above zero. -/
def IsPositive (x : Binary64) : Prop :=
  ∃ rank : Rank, x = .signed false rank ∧ 0 < rank.val ∧ rank.val < infinityRank

section

variable {x : Binary64}

theorem IsPositive.isFinite (h : x.IsPositive) : x.isFinite = true := by
  obtain ⟨rank, rfl, -, hfinite⟩ := h
  simpa [Binary64.isFinite] using hfinite

theorem IsPositive.zero_lt (h : x.IsPositive) : zero.lt x = true := by
  obtain ⟨rank, rfl, hpos, -⟩ := h
  simpa [lt, compare, place, zero, Rank.zero] using hpos

theorem IsPositive.eq_zero (h : x.IsPositive) : x.eq zero = false := by
  obtain ⟨rank, rfl, hpos, -⟩ := h
  simp only [eq, compare, place, zero, Rank.zero, decide_eq_false_iff_not]
  omega

end

/-- A finite number without a minus sign, with a magnitude within bounds that are given in
units. -/
def LiesIn (low high : Nat) (x : Binary64) : Prop :=
  ∃ rank : Rank, x = .signed false rank ∧ rank.val < infinityRank ∧
    low ≤ rank.units ∧ rank.units ≤ high

instance (low high : Nat) (x : Binary64) : Decidable (LiesIn low high x) :=
  match x with
  | .nan => .isFalse (by simp [LiesIn])
  | .signed true _ => .isFalse (by simp [LiesIn])
  | .signed false rank =>
    decidable_of_iff
      (rank.val < infinityRank ∧ low ≤ rank.units ∧ rank.units ≤ high) (by simp [LiesIn])

section

variable {x y : Binary64} {a b c d : Nat}

/-- A number within positive bounds is positive. -/
theorem LiesIn.isPositive (h : LiesIn a b x) (ha : 0 < a) : x.IsPositive := by
  obtain ⟨rank, rfl, hfinite, hlow, -⟩ := h
  refine ⟨rank, rfl, ?_, hfinite⟩
  apply Nat.pos_of_ne_zero
  intro hzero
  have hunits : rank.units = 0 := by
    rw [Rank.units, hzero]
    rfl
  omega

/-- A number that is rounded from one below a power of two. -/
theorem liesIn_ofUnits_le {n d j : Nat} (hj : j < 2045) (hhigh : n / d < 2 ^ (53 + j)) :
    LiesIn 0 (2 ^ (53 + j)) (ofUnits false n d) :=
  ⟨Rank.nearest n d, rfl, Rank.nearest_lt_infinity hj hhigh, Nat.zero_le _,
    Rank.units_nearest_le hhigh⟩

/-- A number that is rounded from one between two powers of two. -/
theorem liesIn_ofUnits {n d i j : Nat} (hi : i < 2046) (hj : j < 2045)
    (hlow : 2 ^ (52 + i) ≤ n / d) (hhigh : n / d < 2 ^ (53 + j)) :
    LiesIn (2 ^ (52 + i)) (2 ^ (53 + j)) (ofUnits false n d) :=
  ⟨Rank.nearest n d, rfl, Rank.nearest_lt_infinity hj hhigh, Rank.le_units_nearest hi hlow,
    Rank.units_nearest_le hhigh⟩

/-- A finite magnitude is not infinity. -/
theorem ne_infinity {rank : Rank} (h : rank.val < infinityRank) : rank ≠ Rank.infinity := by
  rintro rfl
  exact Nat.lt_irrefl _ h

/-! ## Operations -/

/-- The product of finite numbers without a minus sign. -/
theorem mul_positive {first second : Rank} (hfirst : first ≠ Rank.infinity)
    (hsecond : second ≠ Rank.infinity) :
    (signed false first).mul (.signed false second) =
      ofUnits false (first.units * second.units) unitsPerOne := by
  simp only [Binary64.mul, hfirst, hsecond, decide_false, Bool.or_false, Bool.false_eq_true,
    if_false, bne_self_eq_false]

/-- The quotient of finite numbers without a minus sign. -/
theorem div_positive {first second : Rank} (hfirst : first ≠ Rank.infinity)
    (hsecond : second ≠ Rank.infinity) (hzero : second ≠ Rank.zero) :
    (signed false first).div (.signed false second) =
      ofUnits false (first.units * unitsPerOne) second.units := by
  simp only [Binary64.div, hfirst, hsecond, hzero, if_false, bne_self_eq_false]

theorem LiesIn.add (hx : LiesIn a b x) (hy : LiesIn c d y) (i j : Nat) (hi : i < 2046)
    (hj : j < 2045) (hlow : 2 ^ (52 + i) ≤ a + c) (hhigh : b + d < 2 ^ (53 + j)) :
    LiesIn (2 ^ (52 + i)) (2 ^ (53 + j)) (x.add y) := by
  obtain ⟨first, rfl, hfirst, hfirstLow, hfirstHigh⟩ := hx
  obtain ⟨second, rfl, hsecond, hsecondLow, hsecondHigh⟩ := hy
  have hpos : 0 < 2 ^ (52 + i) := Nat.two_pow_pos _
  have hsum : (first.units : Int) + second.units ≠ 0 := by omega
  have hsign : ¬(first.units : Int) + second.units < 0 := by omega
  have hunits : ((first.units : Int) + second.units).natAbs = first.units + second.units := by
    omega
  simp only [Binary64.add, ne_infinity hfirst, ne_infinity hsecond, signedUnits,
    if_false, Bool.false_eq_true, hsum, hsign, hunits, decide_false]
  apply liesIn_ofUnits hi hj
  · rw [Nat.div_one]
    omega
  · rw [Nat.div_one]
    omega

theorem LiesIn.mul (hx : LiesIn a b x) (hy : LiesIn c d y) (j : Nat) (hj : j < 2045)
    (hhigh : b * d < 2 ^ (53 + j) * unitsPerOne) : LiesIn 0 (2 ^ (53 + j)) (x.mul y) := by
  obtain ⟨first, rfl, hfirst, -, hfirstHigh⟩ := hx
  obtain ⟨second, rfl, hsecond, -, hsecondHigh⟩ := hy
  rw [mul_positive (ne_infinity hfirst) (ne_infinity hsecond)]
  apply liesIn_ofUnits_le hj
  rw [Nat.div_lt_iff_lt_mul unitsPerOne_pos]
  exact Nat.lt_of_le_of_lt (Nat.mul_le_mul hfirstHigh hsecondHigh) hhigh

theorem LiesIn.div (hx : LiesIn a b x) (hy : LiesIn c d y) (hc : 0 < c) (i j : Nat) (hi : i < 2046)
    (hj : j < 2045) (hlow : 2 ^ (52 + i) * d ≤ a * unitsPerOne)
    (hhigh : b * unitsPerOne < 2 ^ (53 + j) * c) :
    LiesIn (2 ^ (52 + i)) (2 ^ (53 + j)) (x.div y) := by
  obtain ⟨first, rfl, hfirst, hfirstLow, hfirstHigh⟩ := hx
  obtain ⟨second, rfl, hsecond, hsecondLow, hsecondHigh⟩ := hy
  have hpos : 0 < second.units := Nat.lt_of_lt_of_le hc hsecondLow
  have hzero : second ≠ Rank.zero := by
    rintro rfl
    exact Nat.lt_irrefl 0 hpos
  rw [div_positive (ne_infinity hfirst) (ne_infinity hsecond) hzero]
  apply liesIn_ofUnits hi hj
  · rw [Nat.le_div_iff_mul_le hpos]
    calc
      2 ^ (52 + i) * second.units ≤ 2 ^ (52 + i) * d := Nat.mul_le_mul_left _ hsecondHigh
      _ ≤ a * unitsPerOne := hlow
      _ ≤ first.units * unitsPerOne := Nat.mul_le_mul_right _ hfirstLow
  · rw [Nat.div_lt_iff_lt_mul hpos]
    calc
      first.units * unitsPerOne ≤ b * unitsPerOne := Nat.mul_le_mul_right _ hfirstHigh
      _ < 2 ^ (53 + j) * c := hhigh
      _ ≤ 2 ^ (53 + j) * second.units := Nat.mul_le_mul_left _ hsecondLow

end

/-! ## Whole numbers -/

section

variable {n : Int}

/-- A whole number of 63 binary digits that is not negative. -/
theorem liesIn_ofInt_nonneg (hn : 0 ≤ n) (hlt : n < 2 ^ 63) :
    LiesIn 0 (2 ^ (53 + 1084)) (ofInt n) := by
  have hsign : ¬n < 0 := Int.not_lt.2 hn
  have habs : n.natAbs < 2 ^ 63 := by omega
  have hunits : 2 ^ 63 * unitsPerOne = 2 ^ (53 + 1084) := by decide +kernel
  rw [ofInt, decide_eq_false hsign]
  apply liesIn_ofUnits_le (by decide)
  rw [Nat.div_one, ← hunits]
  exact Nat.mul_lt_mul_of_pos_right habs unitsPerOne_pos

/-- A whole number of 63 binary digits that is positive. -/
theorem liesIn_ofInt (hn : 0 < n) (hlt : n < 2 ^ 63) :
    LiesIn (2 ^ (52 + 1022)) (2 ^ (53 + 1084)) (ofInt n) := by
  have hsign : ¬n < 0 := by omega
  have habs : n.natAbs < 2 ^ 63 := by omega
  have hpos : 1 ≤ n.natAbs := by omega
  have hone : unitsPerOne = 2 ^ (52 + 1022) := by decide +kernel
  have hunits : 2 ^ 63 * unitsPerOne = 2 ^ (53 + 1084) := by decide +kernel
  rw [ofInt, decide_eq_false hsign]
  apply liesIn_ofUnits (by decide) (by decide)
  · rw [Nat.div_one, ← hone]
    exact Nat.le_mul_of_pos_left _ hpos
  · rw [Nat.div_one, ← hunits]
    exact Nat.mul_lt_mul_of_pos_right habs unitsPerOne_pos

end

end Binary64

end HostVitals.Number
