/-!
# Binary floating-point numbers of 64 bits

The numbers of the binary64 format, without hardware floating point.  The magnitudes of the
format stand in increasing order and are told apart by their rank in that order, from zero to
infinity; a finite magnitude is a whole number of units, the unit being the smallest positive
number, two to the power of minus 1074.  Every operation takes the exact result as a fraction and
rounds it once, to the nearest magnitude and between two equally near ones to the even rank.

Main results:

- `ofBits_toBits`: the bit pattern determines the number.
- `Rank.nearest_exact`: a whole number of units below two to the power of 53 is not rounded.
-/

namespace HostVitals.Number

/-! ## Magnitudes -/

/-- The count of magnitudes in a binade, two to the power of 52. -/
def binade : Nat := 0x10000000000000

/-- The rank of infinity: there are 2047 binades below it. -/
def infinityRank : Nat := 2047 * binade

/-- The unit in which finite magnitudes are counted is `1 / unitsPerOne`. -/
def unitsPerOne : Nat := Nat.pow 2 1074

/-- A magnitude of the format, by its place in increasing order. -/
abbrev Rank := Fin (infinityRank + 1)

/-- The rank of zero. -/
def Rank.zero : Rank := ⟨0, Nat.succ_pos _⟩

/-- The rank of infinity. -/
def Rank.infinity : Rank := ⟨infinityRank, Nat.lt_succ_self _⟩

/-- The number of units of the magnitude of a rank.  The two lowest binades count by one unit,
every further binade by twice the step of the one below.  Infinity counts as the number that
would follow the greatest finite one. -/
def unitsOfRank (rank : Nat) : Nat :=
  if rank < binade then rank else (binade + rank % binade) * Nat.pow 2 (rank / binade - 1)

/-- The number of units of a magnitude. -/
def Rank.units (rank : Rank) : Nat :=
  unitsOfRank rank.val

/-! ## Rounding -/

/-- The whole number nearest to `n / d`, and the even one of two that are equally near. -/
def roundHalfEven (n d : Nat) : Nat :=
  let quotient := n / d
  let rest := n % d
  if 2 * rest < d then quotient
  else if d < 2 * rest then quotient + 1
  else quotient + quotient % 2

/-- A multiple is its own quotient. -/
theorem roundHalfEven_mul {d : Nat} (h : 0 < d) (n : Nat) : roundHalfEven (n * d) d = n := by
  simp [roundHalfEven, Nat.mul_div_cancel _ h, h]

/-- The rank nearest to `n / d` units, were there no greatest finite number.  Above two to the
power of 53 units the ranks of a binade lie `2 ^ spacing` units apart. -/
def nearestRank (n d : Nat) : Nat :=
  let spacing := (n / d).log2 - 52
  spacing * binade + roundHalfEven n (d * Nat.pow 2 spacing)

/-- The magnitude nearest to `n / d` units. -/
def Rank.nearest (n d : Nat) : Rank :=
  ⟨min (nearestRank n d) infinityRank, Nat.lt_succ_of_le (Nat.min_le_right _ _)⟩

/-- A whole number of units in the two lowest binades is not rounded. -/
theorem Rank.nearest_exact {n : Nat} (h : n < 2 * binade) : (Rank.nearest n 1).val = n := by
  have hspacing : (n / 1).log2 - 52 = 0 := by
    rw [Nat.div_one]
    by_cases h0 : n = 0
    · subst h0
      simp
    · have := (Nat.log2_lt (k := 53) h0).2 (by unfold binade at h; omega)
      omega
  have hround : roundHalfEven n 1 = n := by
    simpa using roundHalfEven_mul (d := 1) (by decide) n
  simp only [Rank.nearest, nearestRank, hspacing, Nat.pow_eq, Nat.pow_zero, Nat.mul_one,
    Nat.zero_mul, Nat.zero_add, hround]
  apply Nat.min_eq_left
  unfold infinityRank
  unfold binade at *
  omega

/-! ## Numbers -/

/-- A number of the format: not a number, or a magnitude with a sign. -/
inductive Binary64 where
  /-- The result of an operation without one. -/
  | nan
  /-- A magnitude, negative or not; zero has both signs. -/
  | signed (negative : Bool) (rank : Rank)
  deriving DecidableEq

namespace Binary64

/-- Positive zero. -/
def zero : Binary64 := .signed false Rank.zero

/-- Infinity with a sign. -/
def infinite (negative : Bool) : Binary64 := .signed negative Rank.infinity

/-- The number with the given sign nearest to `n / d` units. -/
def ofUnits (negative : Bool) (n d : Nat) : Binary64 :=
  .signed negative (Rank.nearest n d)

instance : Inhabited Binary64 := ⟨zero⟩

/-! ## Bit patterns -/

/-- The bit that is set in the patterns of numbers with a minus sign. -/
def signBit : Nat := 0x8000000000000000

/-- The number with a bit pattern: the highest bit is the sign, the others are the rank, and
patterns above that of infinity are no numbers. -/
def ofBits (bits : Nat) : Binary64 :=
  let rank := bits % signBit
  if h : rank < infinityRank + 1 then .signed (decide (signBit ≤ bits)) ⟨rank, h⟩ else .nan

/-- The bit pattern of a number, and none for one that is not a number. -/
def toBits : Binary64 → Option Nat
  | .nan => none
  | .signed negative rank => some (cond negative signBit 0 + rank.val)

/-- A bit pattern gives its number back. -/
theorem ofBits_toBits {x : Binary64} {bits : Nat} (h : x.toBits = some bits) :
    ofBits bits = x := by
  cases x with
  | nan => simp [toBits] at h
  | signed negative rank =>
    obtain ⟨rank, hrank⟩ := rank
    have hlt : rank < signBit := by
      unfold infinityRank binade at hrank
      unfold signBit
      omega
    simp only [toBits, Option.some.injEq] at h
    subst h
    cases negative with
    | false =>
      have hmod : rank % signBit = rank := Nat.mod_eq_of_lt hlt
      have hsign : decide (signBit ≤ rank) = false := decide_eq_false (Nat.not_le.2 hlt)
      simp only [cond_false, Nat.zero_add, ofBits, hmod, hrank, dite_true, hsign]
    | true =>
      have hmod : (signBit + rank) % signBit = rank := by
        unfold signBit at *
        omega
      simp only [cond_true, ofBits, hmod, hrank, dite_true]
      simp

/-! ## Order and classes -/

/-- Whether the number is neither infinite nor missing. -/
def isFinite : Binary64 → Bool
  | .nan => false
  | .signed _ rank => rank.val < infinityRank

/-- The place of a number in increasing order; both zeros have place zero. -/
def place : Binary64 → Option Int
  | .nan => none
  | .signed negative rank => some (if negative then -(rank.val : Int) else rank.val)

/-- Whether a relation of places holds; it fails when one of the two is not a number. -/
def compare (relation : Int → Int → Bool) (x y : Binary64) : Bool :=
  match x.place, y.place with
  | some a, some b => relation a b
  | _, _ => false

/-- Whether one number is less than another. -/
def lt (x y : Binary64) : Bool := compare (fun a b => decide (a < b)) x y

/-- Whether one number is at most another. -/
def le (x y : Binary64) : Bool := compare (fun a b => decide (a ≤ b)) x y

/-- Whether two numbers are equal; the zeros are, and what is not a number equals nothing. -/
def eq (x y : Binary64) : Bool := compare (fun a b => decide (a = b)) x y

/-! ## Arithmetic -/

/-- The number of units of a finite number, with its sign. -/
def signedUnits (negative : Bool) (rank : Rank) : Int :=
  if negative then -(rank.units : Int) else rank.units

/-- The number nearest to a whole number. -/
def ofInt (n : Int) : Binary64 :=
  ofUnits (decide (n < 0)) (n.natAbs * unitsPerOne) 1

/-- The opposite number. -/
def neg : Binary64 → Binary64
  | .nan => .nan
  | .signed negative rank => .signed (!negative) rank

/-- The sum.  An exact sum of zero is positive unless both parts are negative. -/
def add : Binary64 → Binary64 → Binary64
  | .signed s a, .signed t b =>
    if a = Rank.infinity then
      if b = Rank.infinity && s != t then .nan else .signed s a
    else if b = Rank.infinity then .signed t b
    else
      let sum := signedUnits s a + signedUnits t b
      if sum = 0 then .signed (s && t) Rank.zero else ofUnits (decide (sum < 0)) sum.natAbs 1
  | _, _ => .nan

/-- The product. -/
def mul : Binary64 → Binary64 → Binary64
  | .signed s a, .signed t b =>
    if a = Rank.infinity || b = Rank.infinity then
      if a = Rank.zero || b = Rank.zero then .nan else infinite (s != t)
    else ofUnits (s != t) (a.units * b.units) unitsPerOne
  | _, _ => .nan

/-- The quotient. -/
def div : Binary64 → Binary64 → Binary64
  | .signed s a, .signed t b =>
    if a = Rank.infinity then
      if b = Rank.infinity then .nan else infinite (s != t)
    else if b = Rank.infinity then .signed (s != t) Rank.zero
    else if b = Rank.zero then
      if a = Rank.zero then .nan else infinite (s != t)
    else ofUnits (s != t) (a.units * unitsPerOne) b.units
  | _, _ => .nan

/-- The number of whole ones in a number, and zero below one and for what is not a number. -/
def wholePart : Binary64 → Nat
  | .signed false rank => rank.units / unitsPerOne
  | _ => 0

/-- The number, or the nearer limit when it lies outside of them. -/
def clamp (least greatest x : Binary64) : Binary64 :=
  if x.lt least then least else if greatest.lt x then greatest else x

end Binary64

end HostVitals.Number
