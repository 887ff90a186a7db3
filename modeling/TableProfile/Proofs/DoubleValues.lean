import Mathlib.Algebra.Order.Field.Power
import Mathlib.Data.Int.ConditionallyCompleteOrder
import Mathlib.Data.Rat.Cast.Order
import Mathlib.Order.Monotone.Odd
import TableProfile.Proofs.Doubles
import TableProfile.Proofs.SortedSample

/-!
# The exact values of doubles

A double has a place on the line of all doubles, which is read off its bits, and
a value, which its parts say. The order of the places is the order of the values
(`upTo_iff_exactValue_le`), so that the first and the last of some doubles are
the smallest and the largest of them in exact arithmetic, and nothing was
rounded to find them.

Every double is a multiple of the smallest positive one. Counted in multiples,
the values of magnitudes are natural numbers, and each is less than the next one
(`multiple_lt_succ`).
-/

namespace TableProfile.Number.Binary64

/-- **The exact value of a finite double**: its mantissa times a power of two,
with its sign. -/
def exactValue (x : Float) : ℚ :=
  (if isNegative x then -1 else 1) * ((parts x).1 * 2 ^ (parts x).2)

/-- A tenth is not the value of any double. -/
example : exactValue 0.1 = 3602879701896397 / 36028797018963968 := by decide +kernel

/-! ## Magnitudes -/

/-- **The value of a magnitude**, as a multiple of the smallest positive
double. -/
def multiple (magnitude : Nat) : Nat :=
  (partsOfBits magnitude).1 * 2 ^ ((partsOfBits magnitude).2 + 1074).toNat

variable {magnitude : Nat}

theorem multiple_of_lt (h : magnitude < mantissaLimit) : multiple magnitude = magnitude := by
  unfold multiple
  rw [partsOfBits_of_lt h]
  exact Nat.mul_one _

theorem multiple_of_le (h : mantissaLimit ≤ magnitude) :
    multiple magnitude
      = (mantissaLimit + magnitude % mantissaLimit) * 2 ^ (magnitude / mantissaLimit - 1) := by
  unfold multiple
  rw [partsOfBits_of_le h]
  congr 2
  omega

theorem multiple_zero : multiple 0 = 0 :=
  multiple_of_lt (by decide)

/-- **The value of a magnitude is less than that of the next one**, also where
the exponent grows. -/
theorem multiple_lt_succ (magnitude : Nat) : multiple magnitude < multiple (magnitude + 1) := by
  have hlimit : 0 < mantissaLimit := by decide
  rcases Nat.lt_or_ge magnitude mantissaLimit with hsmall | hlarge
  · rw [multiple_of_lt hsmall]
    rcases Nat.lt_or_ge (magnitude + 1) mantissaLimit with hnext | hnext
    · rw [multiple_of_lt hnext]
      exact Nat.lt_succ_self _
    · have hfirst : magnitude + 1 = mantissaLimit := Nat.le_antisymm hsmall hnext
      rw [multiple_of_le hnext, hfirst, Nat.mod_self, Nat.div_self hlimit]
      exact Nat.lt_of_succ_le hfirst.le
  · rw [multiple_of_le hlarge, multiple_of_le (Nat.le_succ_of_le hlarge)]
    have hexponent : 0 < magnitude / mantissaLimit := Nat.div_pos hlarge hlimit
    have hmod : magnitude % mantissaLimit < mantissaLimit := Nat.mod_lt _ hlimit
    rcases Nat.lt_or_eq_of_le (Nat.succ_le_of_lt hmod) with hstays | hgrows
    · have hnext : (magnitude + 1) % mantissaLimit = magnitude % mantissaLimit + 1 := by
        unfold mantissaLimit at *
        omega
      have hsame : (magnitude + 1) / mantissaLimit = magnitude / mantissaLimit := by
        unfold mantissaLimit at *
        omega
      rw [hnext, hsame]
      exact Nat.mul_lt_mul_of_pos_right (Nat.lt_succ_self _) (Nat.two_pow_pos _)
    · have hnext : (magnitude + 1) % mantissaLimit = 0 := by
        unfold mantissaLimit at *
        omega
      have hgrown : (magnitude + 1) / mantissaLimit - 1 = magnitude / mantissaLimit - 1 + 1 := by
        unfold mantissaLimit at *
        omega
      rw [hnext, hgrown, Nat.pow_succ, Nat.mul_comm (2 ^ _) 2, ← Nat.mul_assoc]
      exact Nat.mul_lt_mul_of_pos_right (by omega) (Nat.two_pow_pos _)

theorem strictMono_multiple : StrictMono multiple :=
  strictMono_nat_of_lt_succ multiple_lt_succ

/-- The exponent of a magnitude is that of the smallest one at least. -/
theorem le_exponent_partsOfBits (magnitude : Nat) : -1074 ≤ (partsOfBits magnitude).2 := by
  rcases Nat.lt_or_ge magnitude mantissaLimit with hsmall | hlarge
  · rw [partsOfBits_of_lt hsmall]
  · rw [partsOfBits_of_le hlarge]
    have hexponent : 0 < magnitude / mantissaLimit := Nat.div_pos hlarge (by decide)
    dsimp only
    omega

theorem partsOfBits_value (magnitude : Nat) :
    ((partsOfBits magnitude).1 * 2 ^ (partsOfBits magnitude).2 : ℚ)
      = multiple magnitude * 2 ^ (-1074 : Int) := by
  have hexponent := le_exponent_partsOfBits magnitude
  have hpower : ((2 ^ ((partsOfBits magnitude).2 + 1074).toNat : Nat) : ℚ)
      = 2 ^ ((partsOfBits magnitude).2 + 1074) := by
    rw [Nat.cast_pow, Nat.cast_ofNat, ← zpow_natCast, Int.toNat_of_nonneg (by omega)]
  unfold multiple
  rw [Nat.cast_mul, hpower, mul_assoc, ← zpow_add₀ two_ne_zero, Int.add_neg_cancel_right]

/-! ## Places -/

/-- The value at a place of the line. -/
def valueAt (place : Int) : ℚ :=
  place.sign * (multiple place.natAbs * 2 ^ (-1074 : Int))

theorem valueAt_neg (place : Int) : valueAt (-place) = -valueAt place := by
  unfold valueAt
  rw [Int.sign_neg, Int.natAbs_neg, Int.cast_neg, neg_mul]

theorem valueAt_natCast (n : Nat) : valueAt n = multiple n * 2 ^ (-1074 : Int) := by
  unfold valueAt
  rcases Nat.eq_zero_or_pos n with rfl | hpos
  · have hzero : (multiple 0 : ℚ) = 0 := by rw [multiple_zero, Nat.cast_zero]
    rw [Int.natAbs_natCast, hzero, zero_mul, mul_zero]
  · rw [Int.sign_eq_one_of_pos (Int.natCast_pos.mpr hpos), Int.natAbs_natCast, Int.cast_one,
      one_mul]

/-- **Values grow with their places.** -/
theorem strictMono_valueAt : StrictMono valueAt := by
  refine strictMono_of_odd_strictMonoOn_nonneg valueAt_neg fun i hi j hj hlt => ?_
  obtain ⟨m, rfl⟩ := Int.eq_ofNat_of_zero_le hi
  obtain ⟨n, rfl⟩ := Int.eq_ofNat_of_zero_le hj
  rw [valueAt_natCast, valueAt_natCast]
  have hmultiple : multiple m < multiple n := strictMono_multiple (Int.ofNat_lt.mp hlt)
  exact mul_lt_mul_of_pos_right (Nat.cast_lt.mpr hmultiple) (zpow_pos two_pos _)

theorem exactValue_eq (x : Float) : exactValue x = valueAt (place x) := by
  unfold exactValue place
  rw [parts_eq, partsOfBits_value]
  cases isNegative x with
  | true =>
    show -1 * _ = valueAt (-(Binary64.magnitude x : Int))
    rw [valueAt_neg, valueAt_natCast, neg_one_mul]
  | false =>
    show 1 * _ = valueAt (Binary64.magnitude x : Int)
    rw [valueAt_natCast, one_mul]

/-- **The order of doubles is the order of their values.** -/
theorem upTo_iff_exactValue_le {x y : Float} : UpTo x y ↔ exactValue x ≤ exactValue y := by
  rw [exactValue_eq, exactValue_eq]
  exact strictMono_valueAt.le_iff_le.symm

end TableProfile.Number.Binary64
