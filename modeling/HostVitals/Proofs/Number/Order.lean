import Mathlib.Algebra.Order.Field.Rat
import Mathlib.Algebra.Order.Ring.Cast
import Mathlib.Order.Fin.Basic
import HostVitals.Proofs.Number.Rounding

/-!
# Rounding and order

A fraction that is not less than another is not rounded to less.  So every operation that rounds its
exact result keeps the order of its operands, and what holds for all numbers up to a limit can be
read off the limit.  The order of the numbers is that of their exact values.

Main results:

- `unitsOfRank_lt`: a higher rank counts more units.
- `nearestRank_mono`, `Rank.nearest_mono`: rounding keeps the order.
- `LiesIn.value_eq`: the exact values of whole numbers.
- `lt_iff_value`, `le_iff_value`: the order of finite numbers is that of their exact values.
-/

namespace HostVitals.Number

/-! ## Ranks and units -/

/-- A rank below a binade counts fewer units than the binade starts with. -/
theorem unitsOfRank_lt_pow {rank k : Nat} (h : rank / binade < k + 1) :
    unitsOfRank rank < 2 ^ (52 + k) := by
  rcases hj : rank / binade with _ | j
  · have hsmall : rank < binade := (Nat.div_eq_zero_iff_lt (by decide)).1 hj
    have hpow : 2 ^ 52 ≤ 2 ^ (52 + k) := Nat.pow_le_pow_right (by decide) (by omega)
    rw [unitsOfRank, if_pos hsmall]
    rw [binade_eq] at hsmall
    omega
  · have hpow : 2 ^ (53 + j) ≤ 2 ^ (52 + k) := Nat.pow_le_pow_right (by decide) (by omega)
    have hunits := (unitsOfRank_bounds hj).2
    omega

/-- A higher rank counts more units. -/
theorem unitsOfRank_lt {r s : Nat} (h : r < s) : unitsOfRank r < unitsOfRank s := by
  have hbinades : r / binade ≤ s / binade := Nat.div_le_div_right (Nat.le_of_lt h)
  rcases Nat.lt_or_eq_of_le hbinades with hlt | heq
  · -- the binade of the higher rank starts with more
    obtain ⟨k, hk⟩ := Nat.exists_eq_add_one.2 (Nat.zero_lt_of_lt hlt)
    rw [hk] at hlt
    exact Nat.lt_of_lt_of_le (unitsOfRank_lt_pow hlt) (unitsOfRank_bounds hk).1
  · have hrest : r % binade < s % binade := by
      have hr := Nat.div_add_mod r binade
      have hs := Nat.div_add_mod s binade
      rw [heq] at hr
      omega
    by_cases hsmall : s < binade
    · rw [unitsOfRank, if_pos (Nat.lt_trans h hsmall), unitsOfRank, if_pos hsmall]
      exact h
    · have hlarge : ¬r < binade := by
        intro hlt
        rw [Nat.div_eq_of_lt hlt] at heq
        exact hsmall ((Nat.div_eq_zero_iff_lt (by decide)).1 heq.symm)
      rw [unitsOfRank, if_neg hlarge, unitsOfRank, if_neg hsmall, heq]
      exact Nat.mul_lt_mul_of_pos_right (by omega) (Nat.two_pow_pos _)

theorem unitsOfRank_le_iff {r s : Nat} : unitsOfRank r ≤ unitsOfRank s ↔ r ≤ s := by
  constructor
  · intro hle
    by_contra hlt
    exact absurd (unitsOfRank_lt (Nat.not_le.1 hlt)) (Nat.not_lt.2 hle)
  · intro hle
    rcases Nat.lt_or_eq_of_le hle with hlt | rfl
    · exact Nat.le_of_lt (unitsOfRank_lt hlt)
    · exact Nat.le_refl _

/-! ## Rounding -/

section

variable {n d m e : Nat}

theorem log2_mono (h : n ≤ m) : n.log2 ≤ m.log2 := by
  rcases Nat.eq_zero_or_pos n with rfl | hpos
  · exact Nat.zero_le _
  · have hpow : 2 ^ n.log2 ≤ m := Nat.le_trans (Nat.log2_self_le (Nat.ne_of_gt hpos)) h
    exact (Nat.le_log2 (by omega)).2 hpow

/-- The whole parts of fractions are ordered as the fractions are. -/
theorem div_le_div_of_mul_le (he : 0 < e) (h : n * e ≤ m * d) : n / d ≤ m / e := by
  rcases Nat.eq_zero_or_pos d with rfl | hd
  · simp
  · rw [Nat.le_div_iff_mul_le he]
    apply Nat.le_of_mul_le_mul_right _ hd
    calc
      n / d * e * d = n / d * d * e := Nat.mul_right_comm _ _ _
      _ ≤ n * e := Nat.mul_le_mul_right e (Nat.div_mul_le_self n d)
      _ ≤ m * d := h

/-- Rounding to a whole number keeps the order. -/
theorem roundHalfEven_mono (hd : 0 < d) (he : 0 < e) (h : n * e ≤ m * d) :
    roundHalfEven n d ≤ roundHalfEven m e := by
  rcases Nat.lt_or_eq_of_le (div_le_div_of_mul_le he h) with hlt | heq
  · have hupper := (roundHalfEven_bounds n d).2
    have hlower := (roundHalfEven_bounds m e).1
    omega
  · -- the same whole part, so that the rests decide
    have hrests : n % d * e ≤ m % e * d := by
      have hn := Nat.div_add_mod n d
      have hm := Nat.div_add_mod m e
      rw [← hn, ← hm, heq] at h
      have hwhole : d * (m / e) * e = e * (m / e) * d := by
        rw [Nat.mul_right_comm, Nat.mul_right_comm e, Nat.mul_comm d e]
      rw [Nat.add_mul, Nat.add_mul, hwhole] at h
      omega
    have hless : 2 * (m % e) < e → 2 * (n % d) < d := by
      intro hm
      apply Nat.lt_of_mul_lt_mul_right (a := e)
      calc
        2 * (n % d) * e = 2 * (n % d * e) := Nat.mul_assoc ..
        _ ≤ 2 * (m % e * d) := Nat.mul_le_mul_left 2 hrests
        _ = 2 * (m % e) * d := (Nat.mul_assoc ..).symm
        _ < e * d := Nat.mul_lt_mul_of_pos_right hm hd
        _ = d * e := Nat.mul_comm e d
    have hmore : d < 2 * (n % d) → e < 2 * (m % e) := by
      intro hn
      apply Nat.lt_of_mul_lt_mul_right (a := d)
      calc
        e * d = d * e := Nat.mul_comm e d
        _ < 2 * (n % d) * e := Nat.mul_lt_mul_of_pos_right hn he
        _ = 2 * (n % d * e) := Nat.mul_assoc ..
        _ ≤ 2 * (m % e * d) := Nat.mul_le_mul_left 2 hrests
        _ = 2 * (m % e) * d := (Nat.mul_assoc ..).symm
    simp only [roundHalfEven, heq]
    split_ifs <;> omega

/-- Rounding to a rank keeps the order. -/
theorem nearestRank_mono (hd : 0 < d) (he : 0 < e) (h : n * e ≤ m * d) :
    nearestRank n d ≤ nearestRank m e := by
  have hquotients : n / d ≤ m / e := div_le_div_of_mul_le he h
  have hspacings : (n / d).log2 - 52 ≤ (m / e).log2 - 52 :=
    Nat.sub_le_sub_right (log2_mono hquotients) 52
  rcases Nat.lt_or_eq_of_le hspacings with hlt | heq
  · -- between the two there is a power of two, which rounding does not go across
    have hne : m / e ≠ 0 := by
      intro hzero
      rw [hzero] at hlt
      simp at hlt
    have hbelow : n / d < 2 ^ (53 + ((n / d).log2 - 52)) := by
      refine Nat.lt_of_lt_of_le Nat.lt_log2_self (Nat.pow_le_pow_right (by decide) ?_)
      omega
    have habove : 2 ^ (52 + ((m / e).log2 - 52)) ≤ m / e := by
      refine Nat.le_trans (Nat.pow_le_pow_right (by decide) ?_) (Nat.log2_self_le hne)
      omega
    calc
      nearestRank n d ≤ ((n / d).log2 - 52 + 2) * binade := nearestRank_le hbelow
      _ ≤ ((m / e).log2 - 52 + 1) * binade := Nat.mul_le_mul_right _ (by omega)
      _ ≤ nearestRank m e := le_nearestRank habove
  · have hpow : 0 < 2 ^ ((m / e).log2 - 52) := Nat.two_pow_pos _
    simp only [nearestRank, heq, Nat.pow_eq]
    apply Nat.add_le_add_left
    apply roundHalfEven_mono (Nat.mul_pos hd hpow) (Nat.mul_pos he hpow)
    rw [← Nat.mul_assoc, ← Nat.mul_assoc]
    exact Nat.mul_le_mul_right _ h

end

namespace Rank

/-- Rounding to a magnitude keeps the order. -/
theorem nearest_mono {n d m e : Nat} (hd : 0 < d) (he : 0 < e) (h : n * e ≤ m * d) :
    nearest n d ≤ nearest m e := by
  rw [Fin.le_def]
  exact min_le_min_right _ (nearestRank_mono hd he h)

theorem units_le_iff {a b : Rank} : a.units ≤ b.units ↔ a ≤ b :=
  unitsOfRank_le_iff

theorem units_mono {a b : Rank} (h : a ≤ b) : a.units ≤ b.units :=
  units_le_iff.2 h

end Rank

namespace Binary64

/-! ## Numbers without a minus sign -/

theorem le_positive_iff {a b : Rank} : le (.signed false a) (.signed false b) = true ↔ a ≤ b := by
  simp [le, compare, place]

theorem lt_positive_iff {a b : Rank} : lt (.signed false a) (.signed false b) = true ↔ a < b := by
  simp [lt, compare, place]

/-- A number with a minus sign is not above zero. -/
theorem le_negative {s : Bool} {a b : Rank} (h : le (.signed s a) (.signed true b) = true) :
    le (.signed s a) .zero = true := by
  simp only [le, compare, place, zero, Rank.zero, decide_eq_true_eq] at h ⊢
  split_ifs at h ⊢ <;> omega

/-- Zero is the only number without a minus sign that is not above zero. -/
theorem eq_zero_of_le_zero {a : Rank} (h : le (.signed false a) .zero = true) : a = Rank.zero := by
  have hle : a ≤ Rank.zero := le_positive_iff.1 h
  exact le_antisymm hle (Fin.zero_le a)

/-! ## Exact values -/

/-- The exact value of a finite number. -/
def value : Binary64 → Option ℚ
  | .nan => none
  | .signed negative rank =>
    if rank = Rank.infinity then none else some (signedUnits negative rank / unitsPerOne)

section

variable {x y : Binary64} {a b : ℚ}

theorem value_eq_some_iff :
    x.value = some a ↔ ∃ (negative : Bool) (rank : Rank), x = .signed negative rank ∧
      rank ≠ Rank.infinity ∧ (signedUnits negative rank : ℚ) / unitsPerOne = a := by
  cases x with
  | nan =>
      refine iff_of_false nofun ?_
      rintro ⟨negative, rank, hnan, -⟩
      cases hnan
  | signed negative rank =>
      by_cases hrank : rank = Rank.infinity
      · rw [value, if_pos hrank]
        refine iff_of_false nofun ?_
        rintro ⟨_, _, hsigned, hfinite, -⟩
        cases hsigned
        exact hfinite hrank
      · rw [value, if_neg hrank, Option.some_inj]
        constructor
        · exact fun hvalue => ⟨negative, rank, rfl, hrank, hvalue⟩
        · rintro ⟨_, _, hsigned, -, hvalue⟩
          cases hsigned
          exact hvalue

/-- A number has an exact value when it is finite, and only then. -/
theorem isSome_value_iff : x.value.isSome = true ↔ x.isFinite = true := by
  cases x with
  | nan => exact iff_of_false (by decide) (by decide)
  | signed negative rank =>
      by_cases hrank : rank = Rank.infinity
      · have hlargest : ¬infinityRank < infinityRank := Nat.lt_irrefl infinityRank
        rw [value, if_pos hrank, hrank]
        exact iff_of_false nofun (fun hfinite => hlargest (of_decide_eq_true hfinite))
      · have hlt : rank.val < infinityRank := lt_of_le_of_ne (Nat.le_of_lt_succ rank.isLt)
          (fun heq => hrank (Fin.ext heq))
        rw [value, if_neg hrank]
        exact iff_of_true rfl (decide_eq_true hlt)

/-- A count of units that is a whole number of ones. -/
theorem LiesIn.value_eq {n : Nat} (h : LiesIn (n * unitsPerOne) (n * unitsPerOne) x) :
    x.value = some (n : ℚ) := by
  obtain ⟨rank, rfl, hfinite, hlow, hhigh⟩ := h
  have hunits : rank.units = n * unitsPerOne := Nat.le_antisymm hhigh hlow
  have hone : (unitsPerOne : ℚ) ≠ 0 := Nat.cast_ne_zero.2 (Nat.ne_of_gt unitsPerOne_pos)
  refine value_eq_some_iff.2 ⟨false, rank, rfl, ne_infinity hfinite, ?_⟩
  rw [signedUnits, if_neg Bool.false_ne_true, hunits, Int.cast_natCast, Nat.cast_mul,
    mul_div_cancel_right₀ _ hone]

/-- The order of finite numbers is that of their exact values. -/
theorem le_iff_value (hx : x.value = some a) (hy : y.value = some b) :
    x.le y = true ↔ a ≤ b := by
  obtain ⟨s, first, rfl, -, rfl⟩ := value_eq_some_iff.1 hx
  obtain ⟨t, second, rfl, -, rfl⟩ := value_eq_some_iff.1 hy
  have hone : (0 : ℚ) < unitsPerOne := Nat.cast_pos.2 unitsPerOne_pos
  rw [div_le_div_iff_of_pos_right hone, Int.cast_le]
  -- the counts of units are zero for the ranks that are, and ordered as the ranks
  have horder := unitsOfRank_le_iff (r := first.val) (s := second.val)
  have hreverse := unitsOfRank_le_iff (r := second.val) (s := first.val)
  have hfirst := unitsOfRank_le_iff (r := first.val) (s := 0)
  have hsecond := unitsOfRank_le_iff (r := second.val) (s := 0)
  have hzero : unitsOfRank 0 = 0 := rfl
  simp only [le, compare, place, signedUnits, Rank.units, decide_eq_true_eq]
  split_ifs <;> omega

theorem lt_iff_value (hx : x.value = some a) (hy : y.value = some b) :
    x.lt y = true ↔ a < b := by
  rw [← not_le, ← le_iff_value hy hx]
  obtain ⟨s, first, rfl, -, -⟩ := value_eq_some_iff.1 hx
  obtain ⟨t, second, rfl, -, -⟩ := value_eq_some_iff.1 hy
  simp only [lt, le, compare, place, decide_eq_true_eq, not_le]

end

end Binary64

end HostVitals.Number
