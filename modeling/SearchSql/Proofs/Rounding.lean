import Mathlib.Algebra.Order.Ring.Int
import SearchSql.Number.Binary64

/-!
# The double nearest to an integer

A double keeps fifty-three significant bits. Up to there an integer is its own nearest double;
above, the neighbouring doubles are a power of two apart, and the nearest one is found by rounding
to a multiple of it. Powers of two are doubles, so no integer is rounded across one.
-/

namespace SearchSql.Binary64

/-- How far apart doubles are at a natural number, where those with a fractional part do not
count. -/
def spacing (n : Nat) : Nat :=
  2 ^ (Nat.log2 n - 52)

/-- The double nearest to a natural number, as a natural number. -/
def nearest (n : Nat) : Nat :=
  roundHalfEven n (spacing n) * spacing n

/-- A natural number with at most fifty-three significant bits. -/
def FitsSignificand (n : Nat) : Prop :=
  ∃ m k : Nat, m < 2 ^ 53 ∧ n = m * 2 ^ k

/-! ### Rounding a quotient -/

/-- A quotient is rounded to itself or to the next number. -/
theorem roundHalfEven_bounds (num den : Nat) :
    num / den ≤ roundHalfEven num den ∧ roundHalfEven num den ≤ num / den + 1 := by
  unfold roundHalfEven
  dsimp only
  split <;> omega

/-- A quotient that leaves no rest is not rounded. -/
theorem roundHalfEven_of_dvd {num den : Nat} (hden : 0 < den) (h : den ∣ num) :
    roundHalfEven num den = num / den := by
  have hrest : num % den = 0 := Nat.mod_eq_zero_of_dvd h
  have hne : (0 == den) = false := by
    rw [beq_eq_false_iff_ne]
    omega
  unfold roundHalfEven
  simp [hrest, hne]

/-! ### Integers and doubles -/

/-- The distance of doubles is positive. -/
theorem spacing_pos (n : Nat) : 0 < spacing n :=
  Nat.two_pow_pos _

/-- Fifty-three bits reach to the next power of two. -/
theorem lt_two_pow_mul_spacing (n : Nat) : n < 2 ^ 53 * spacing n := by
  have hlog : n < 2 ^ (n.log2 + 1) := Nat.lt_log2_self
  have hpow : 2 ^ (n.log2 + 1) ≤ 2 ^ (53 + (n.log2 - 52)) :=
    Nat.pow_le_pow_right (by decide) (by omega)
  rw [spacing, ← Nat.pow_add]
  omega

/-- If doubles are more than one apart, a number has all fifty-three bits. -/
theorem two_pow_mul_spacing_le {n : Nat} (h : 52 < n.log2) : 2 ^ 52 * spacing n ≤ n := by
  have hne : n ≠ 0 := by
    rintro rfl
    simp at h
  have hlog : 2 ^ n.log2 ≤ n := Nat.log2_self_le hne
  rw [spacing, ← Nat.pow_add]
  rwa [show 52 + (n.log2 - 52) = n.log2 by omega]

/-- The significand of the nearest double has fifty-three bits, or is the next power of two. -/
theorem roundHalfEven_spacing_le (n : Nat) : roundHalfEven n (spacing n) ≤ 2 ^ 53 := by
  have hquotient : n / spacing n < 2 ^ 53 :=
    (Nat.div_lt_iff_lt_mul (spacing_pos n)).mpr (lt_two_pow_mul_spacing n)
  have hround := (roundHalfEven_bounds n (spacing n)).2
  omega

/-- If doubles are more than one apart, the significand of the nearest one has its first bit. -/
theorem two_pow_le_roundHalfEven_spacing {n : Nat} (h : 52 < n.log2) :
    2 ^ 52 ≤ roundHalfEven n (spacing n) := by
  have hquotient : 2 ^ 52 ≤ n / spacing n :=
    (Nat.le_div_iff_mul_le (spacing_pos n)).mpr (two_pow_mul_spacing_le h)
  exact hquotient.trans (roundHalfEven_bounds n (spacing n)).1

/-- A number is its own nearest double exactly if it has at most fifty-three significant bits. -/
theorem nearest_eq_self_iff (n : Nat) : nearest n = n ↔ FitsSignificand n := by
  constructor
  · intro h
    have hdvd : spacing n ∣ n := ⟨_, by rw [Nat.mul_comm]; exact h.symm⟩
    refine ⟨n / spacing n, n.log2 - 52, ?_, (Nat.div_mul_cancel hdvd).symm⟩
    exact (Nat.div_lt_iff_lt_mul (spacing_pos n)).mpr (lt_two_pow_mul_spacing n)
  · rintro ⟨m, k, hm, rfl⟩
    have hdvd : spacing (m * 2 ^ k) ∣ m * 2 ^ k := by
      by_cases hzero : m * 2 ^ k = 0
      · rw [hzero]
        exact Nat.dvd_zero _
      · have hlt : m * 2 ^ k < 2 ^ (53 + k) := by
          rw [Nat.pow_add]
          exact Nat.mul_lt_mul_of_pos_right hm (Nat.two_pow_pos k)
        have hlog : (m * 2 ^ k).log2 < 53 + k := (Nat.log2_lt hzero).mpr hlt
        exact Nat.dvd_mul_left_of_dvd (Nat.pow_dvd_pow 2 (by omega)) m
    rw [nearest, roundHalfEven_of_dvd (spacing_pos _) hdvd, Nat.div_mul_cancel hdvd]

/-- A number of at most fifty-three bits is a double. -/
theorem nearest_of_log2_le {n : Nat} (h : n.log2 ≤ 52) : nearest n = n := by
  have hlt : n < 2 ^ 53 :=
    Nat.lt_of_lt_of_le Nat.lt_log2_self (Nat.pow_le_pow_right (by decide) (by omega))
  exact (nearest_eq_self_iff n).mpr ⟨n, 0, hlt, (Nat.mul_one n).symm⟩

/-- A number is not rounded up across a power of two. -/
theorem nearest_le_two_pow {n k : Nat} (h : n ≤ 2 ^ k) : nearest n ≤ 2 ^ k := by
  by_cases hsmall : n.log2 ≤ 52
  · rwa [nearest_of_log2_le hsmall]
  · rcases Nat.lt_or_eq_of_le h with hlt | rfl
    · have hne : n ≠ 0 := by
        rintro rfl
        simp at hsmall
      have hlog : n.log2 < k := (Nat.log2_lt hne).mpr hlt
      calc nearest n ≤ 2 ^ 53 * spacing n :=
            Nat.mul_le_mul_right _ (roundHalfEven_spacing_le n)
        _ = 2 ^ (53 + (n.log2 - 52)) := (Nat.pow_add 2 53 _).symm
        _ ≤ 2 ^ k := Nat.pow_le_pow_right (by decide) (by omega)
    · exact ((nearest_eq_self_iff _).mpr ⟨1, k, by decide, (Nat.one_mul _).symm⟩).le

/-- A number is not rounded down across a power of two. -/
theorem two_pow_le_nearest {n k : Nat} (h : 2 ^ k ≤ n) : 2 ^ k ≤ nearest n := by
  by_cases hsmall : n.log2 ≤ 52
  · rwa [nearest_of_log2_le hsmall]
  · have hlog : k ≤ n.log2 := by
      have hlt : 2 ^ k < 2 ^ (n.log2 + 1) := Nat.lt_of_le_of_lt h Nat.lt_log2_self
      have hk := (Nat.pow_lt_pow_iff_right (by decide)).mp hlt
      omega
    calc 2 ^ k ≤ 2 ^ (52 + (n.log2 - 52)) := Nat.pow_le_pow_right (by decide) (by omega)
      _ = 2 ^ 52 * spacing n := Nat.pow_add 2 52 _
      _ ≤ nearest n :=
        Nat.mul_le_mul_right _ (two_pow_le_roundHalfEven_spacing (by omega))

/-- The sign of an integer that is not negative leaves its nearest double. -/
theorem sign_mul_nearest {i : Int} (h : 0 ≤ i) : i.sign * nearest i.natAbs = nearest i.natAbs := by
  rcases Int.lt_or_eq_of_le h with hpos | rfl
  · rw [Int.sign_eq_one_of_pos hpos, Int.one_mul]
  · decide

/-! ### From the pattern to the integer -/

/-- A pattern without its sign that holds a significand of fifty-three bits is finite, and its
exponent and significand are those it was made of. -/
theorem decode_bits {x : Binary64} {field significand : Nat}
    (hbits : x.bits.toNat % 0x8000000000000000 = field * 0x10000000000000 + significand)
    (hlow : 0x10000000000000 ≤ significand) (hhigh : significand < 0x20000000000000)
    (hfield : field < 2046) :
    x.isFinite = true ∧ x.exponent = (field : Int) - 1074 ∧ x.significand = significand := by
  have hexponent : x.exponentField = field + 1 := by
    unfold exponentField
    omega
  have hfraction : x.fraction = significand - 0x10000000000000 := by
    unfold fraction
    omega
  refine ⟨?_, ?_, ?_⟩
  · rw [isFinite, hexponent, bne_iff_ne]
    omega
  · rw [exponent, hexponent, if_neg (by omega)]
    omega
  · unfold Binary64.significand
    rw [hexponent, if_neg (by omega), hfraction]
    omega

/-- The pattern of a magnitude with a sign. -/
theorem bits_toNat_sign (negative : Bool) {magnitude : Nat} (h : magnitude < 0x8000000000000000) :
    let x : Binary64 := ⟨UInt64.ofNat (magnitude + if negative then 0x8000000000000000 else 0)⟩
    x.bits.toNat % 0x8000000000000000 = magnitude ∧ x.isNegative = negative := by
  intro x
  have hbits : x.bits.toNat = magnitude + if negative then 0x8000000000000000 else 0 := by
    apply UInt64.toNat_ofNat_of_lt'
    rw [UInt64.size]
    split <;> omega
  unfold isNegative
  rw [hbits]
  cases negative with
  | false =>
    rw [if_neg Bool.false_ne_true, decide_eq_false_iff_not]
    omega
  | true =>
    rw [if_pos rfl, decide_eq_true_iff]
    omega

/-- The whole part of a pattern that holds a significand. A significand that was rounded up to the
next power of two carries into the exponent, and the value is the same. -/
theorem whole_of_bits {x : Binary64} {field significand : Nat}
    (hbits : x.bits.toNat % 0x8000000000000000 = field * 0x10000000000000 + significand)
    (hlow : 0x10000000000000 ≤ significand) (hhigh : significand ≤ 0x20000000000000)
    (hcarry : significand = 0x20000000000000 → 1074 ≤ field) (hfield : field < 2045) :
    x.isFinite = true ∧
      x.numerator / x.denominator =
        significand * 2 ^ (field - 1074) / 2 ^ (1074 - field) := by
  unfold numerator denominator
  simp only [Nat.pow_eq]
  rcases Nat.lt_or_eq_of_le hhigh with hlt | rfl
  · obtain ⟨hfinite, hexponent, hsignificand⟩ := decode_bits hbits hlow hlt (by omega)
    refine ⟨hfinite, ?_⟩
    rw [hexponent, hsignificand, show ((field : Int) - 1074).toNat = field - 1074 by omega,
      show (-((field : Int) - 1074)).toNat = 1074 - field by omega]
  · have hnext := hcarry rfl
    obtain ⟨hfinite, hexponent, hsignificand⟩ := @decode_bits x (field + 1) 0x10000000000000
      (by omega) (by omega) (by omega) (by omega)
    have hdouble : 0x10000000000000 * 2 ^ (field - 1074 + 1) =
        0x20000000000000 * 2 ^ (field - 1074) := by
      rw [Nat.pow_succ]
      omega
    refine ⟨hfinite, ?_⟩
    rw [hexponent, hsignificand,
      show (((field + 1 : Nat) : Int) - 1074).toNat = field - 1074 + 1 by omega,
      show (-(((field + 1 : Nat) : Int) - 1074)).toNat = 0 by omega,
      show 1074 - field = 0 by omega, hdouble]

/-! ### The double of an integer -/

/-- The significand of the double nearest to a positive integer, with all fifty-three bits. -/
def fullSignificand (n : Nat) : Nat :=
  roundHalfEven (n * 2 ^ (52 - n.log2)) (spacing n)

/-- The last bit of a positive integer with fifty-three bits. -/
theorem lastBitExponent_one {n : Nat} (hn : n ≠ 0) :
    lastBitExponent n 1 = (n.log2 : Int) - 52 := by
  have hlog : Nat.log2 1 = 0 := by decide
  have hle : 2 ^ n.log2 ≤ n := Nat.log2_self_le hn
  have hreach : atLeastTwoPow n 1 ((n.log2 : Int) - (0 : Nat)) = true := by
    unfold atLeastTwoPow
    simp only [Nat.pow_eq, decide_eq_true_eq]
    rw [show ((n.log2 : Int) - (0 : Nat)).toNat = n.log2 by omega,
      show (-((n.log2 : Int) - (0 : Nat))).toNat = 0 by omega]
    omega
  unfold lastBitExponent
  simp only [hlog, hreach, if_true]
  omega

/-- The significand of the double nearest to a positive integer has fifty-three bits, or is the
next power of two if the integer was rounded up to it. It holds the whole value. -/
theorem fullSignificand_bounds {n : Nat} (hn : n ≠ 0) :
    0x10000000000000 ≤ fullSignificand n ∧ fullSignificand n ≤ 0x20000000000000 ∧
      (fullSignificand n = 0x20000000000000 → 52 < n.log2) ∧
      fullSignificand n * 2 ^ (n.log2 - 52) / 2 ^ (52 - n.log2) = nearest n := by
  unfold fullSignificand
  by_cases hsmall : n.log2 ≤ 52
  · have hone : spacing n = 1 := by
      rw [spacing, Nat.sub_eq_zero_of_le hsmall, Nat.pow_zero]
    have hlow : 2 ^ n.log2 * 2 ^ (52 - n.log2) ≤ n * 2 ^ (52 - n.log2) :=
      Nat.mul_le_mul_right _ (Nat.log2_self_le hn)
    have hhigh : n * 2 ^ (52 - n.log2) < 2 ^ (n.log2 + 1) * 2 ^ (52 - n.log2) :=
      Nat.mul_lt_mul_of_pos_right Nat.lt_log2_self (Nat.two_pow_pos _)
    rw [← Nat.pow_add, show n.log2 + (52 - n.log2) = 52 by omega] at hlow
    rw [← Nat.pow_add, show n.log2 + 1 + (52 - n.log2) = 53 by omega] at hhigh
    rw [hone, roundHalfEven_of_dvd Nat.one_pos (Nat.one_dvd _), Nat.div_one,
      Nat.sub_eq_zero_of_le hsmall, Nat.pow_zero, Nat.mul_one,
      Nat.mul_div_cancel _ (Nat.two_pow_pos _), nearest_of_log2_le hsmall]
    refine ⟨hlow, hhigh.le, ?_, rfl⟩
    intro hcarry
    exact absurd hcarry hhigh.ne
  · have hzero : 52 - n.log2 = 0 := by omega
    rw [hzero, Nat.pow_zero, Nat.mul_one, Nat.div_one]
    exact ⟨two_pow_le_roundHalfEven_spacing (by omega), roundHalfEven_spacing_le n,
      fun _ => by omega, rfl⟩

/-- The double nearest to an integer is finite, and cut to an integer it is the nearest one, if the
integer is not too large for a double. -/
theorem truncate_ofRatio (negative : Bool) {n : Nat} (hn : n ≠ 0) (hlog : n.log2 < 1023) :
    (ofRatio negative n 1).isFinite = true ∧ (ofRatio negative n 1).isNegative = negative ∧
      (ofRatio negative n 1).truncate = if negative then -(nearest n : Int) else nearest n := by
  obtain ⟨hlow, hhigh, hcarry, hvalue⟩ := fullSignificand_bounds hn
  have hratio : ofRatio negative n 1 =
      ⟨UInt64.ofNat (((n.log2 + 1022) * 0x10000000000000 + fullSignificand n) +
        if negative then 0x8000000000000000 else 0)⟩ := by
    unfold ofRatio
    simp only [if_neg hn, lastBitExponent_one hn, Nat.pow_eq, Nat.one_mul]
    rw [show (-((n.log2 : Int) - 52)).toNat = 52 - n.log2 by omega,
      show ((n.log2 : Int) - 52).toNat = n.log2 - 52 by omega]
    unfold magnitudeBits
    rw [show ((n.log2 : Int) - 52 + 1074).toNat = n.log2 + 1022 by omega, ← spacing,
      ← fullSignificand, Nat.min_eq_left (by omega)]
  obtain ⟨hbits, hsign⟩ := bits_toNat_sign negative
    (show (n.log2 + 1022) * 0x10000000000000 + fullSignificand n < 0x8000000000000000 by omega)
  rw [hratio]
  obtain ⟨hfinite, hwhole⟩ := whole_of_bits hbits hlow hhigh (by omega) (by omega)
  refine ⟨hfinite, hsign, ?_⟩
  rw [show n.log2 + 1022 - 1074 = n.log2 - 52 by omega,
    show 1074 - (n.log2 + 1022) = 52 - n.log2 by omega, hvalue] at hwhole
  unfold truncate
  rw [hsign, ← Int.natCast_ediv, hwhole]

/-- A quotient is never read as a pattern that is no number: too large a one gives infinity. -/
theorem isNaN_ofRatio (negative : Bool) (num den : Nat) :
    (ofRatio negative num den).isNaN = false := by
  unfold ofRatio
  dsimp only
  generalize hmagnitude : (if num = 0 then 0 else _) = magnitude
  have hle : magnitude ≤ 0x7FF0000000000000 := by
    rw [← hmagnitude]
    split
    · omega
    · exact Nat.min_le_right _ _
  obtain ⟨hbits, -⟩ := bits_toNat_sign negative (show magnitude < 0x8000000000000000 by omega)
  unfold isNaN exponentField fraction
  rw [Bool.and_eq_false_iff, beq_eq_false_iff_ne, bne_eq_false_iff_eq]
  omega

/-- Cut to a signed integer, the double nearest to an integer of sixty-four bits is the nearest
one, held within the range. -/
theorem toInt64_ofInt {i : Int} (h : i.natAbs < 2 ^ 64) :
    (ofInt i).toInt64 = Int64.ofIntClamp (i.sign * nearest i.natAbs) := by
  by_cases hzero : i = 0
  · subst hzero
    decide +kernel
  have hne : i.natAbs ≠ 0 := by omega
  have hlog : i.natAbs.log2 < 64 := (Nat.log2_lt hne).mpr h
  obtain ⟨hfinite, _, htruncate⟩ := truncate_ofRatio (decide (i < 0)) hne (by omega)
  have hvalue : (ofInt i).truncate = i.sign * nearest i.natAbs := by
    rw [ofInt, htruncate]
    rcases Int.lt_or_gt_of_ne hzero with hneg | hpos
    · rw [if_pos (decide_eq_true hneg), Int.sign_eq_neg_one_of_neg hneg]
      omega
    · have hnotNeg : ¬(decide (i < 0) = true) := by simpa using hpos.le
      rw [if_neg hnotNeg, Int.sign_eq_one_of_pos hpos]
      omega
  unfold toInt64
  rw [ofInt, isNaN_ofRatio, hfinite, ← ofInt, hvalue]
  rfl

end SearchSql.Binary64
