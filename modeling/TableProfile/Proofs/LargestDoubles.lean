import Mathlib.Tactic.Linarith
import Mathlib.Tactic.NormNum
import Mathlib.Tactic.Ring
import TableProfile.Proofs.DoubleArithmetic

/-!
# Where the range of doubles ends

A result below the middle between the largest double and the next power of two
is rounded to a double (`isFinite_roundWithAccuracy`). A product of two whole
numbers goes through three roundings, of its factors and of itself. Each can
add half of a last place, so the product has to stay five times as far away
from the end (`isFinite_mul_ofNat`).
-/

namespace TableProfile.Number.Binary64

open Float.Model Float.Model.UnpackedFloat

theorem isFinite_packed_zero (s : Sign) : isFinite (packed (.zero s)) = true := by
  cases s <;> rfl

/-- A finite result is packed as a finite double if its exponent fits. -/
theorem isFinite_packed (s : Sign) {m : Nat} {e : Int} (pos : 0 < m) (he : e ≤ 971) :
    isFinite (packed (.finite s m e pos)) = true := by
  have hmod : m % mantissaLimit < mantissaLimit := Nat.mod_lt _ (by decide)
  unfold isFinite
  rw [magnitude_packed_finite s pos he, decide_eq_true_iff]
  unfold infinityBits mantissaLimit at *
  split <;> omega

/-- A mantissa that is rounded has fifty-four bits at most. -/
theorem roundedOff_lt (m : Nat) (e : Int) : roundedOff m e .exact < 2 ^ 54 := by
  have hround := roundedMantissa_le (ExtendedMantissa.ofMantissaAndAccuracy m .exact >>> cutOff m e)
  rw [mantissa_shiftRight, mantissa_ofMantissaAndAccuracy] at hround
  have hlong : m < 2 ^ cutOff m e * 2 ^ 53 := by
    refine Nat.lt_log2_self.trans_le ?_
    rw [← Nat.pow_add]
    refine Nat.pow_le_pow_right (by decide) ?_
    unfold cutOff
    omega
  have hdiv : m / 2 ^ cutOff m e < 2 ^ 53 := Nat.div_lt_of_lt_mul hlong
  exact hround.trans_lt (by omega)

/-- **Below the middle to the next power of two**, rounding stays within the
range. -/
theorem isFinite_roundWithAccuracy (s : Sign) {m n : Nat} {e : Int} (he : e + n = 970)
    (h : m < 2 ^ n * (2 * (2 ^ 53 - 1) + 1)) :
    isFinite (packed (roundWithAccuracy Format.binary64 s m e .exact)) = true := by
  have hlog : m.log2 ≤ n + 53 := by
    refine log2_le (h.trans_le ?_)
    rw [show n + 53 + 1 = n + 54 by omega, Nat.pow_add]
    exact Nat.mul_le_mul_left _ (by decide)
  rcases roundWithAccuracy_eq s m e .exact with heq | ⟨e', k, pos, hexponent, hcut, heq⟩
  · rw [heq]
    exact isFinite_packed_zero s
  · rw [heq]
    refine isFinite_packed s pos ?_
    have hround : roundedOff m e .exact < 2 ^ 54 ∧ (cutOff m e = n + 1 →
        roundedOff m e .exact < 2 ^ 53) := by
      refine ⟨roundedOff_lt m e, fun hall => ?_⟩
      unfold roundedOff
      rw [hall]
      refine Nat.lt_succ_of_le (roundedMantissa_shiftRight_le ?_)
      rwa [mantissa_ofMantissaAndAccuracy]
    have hcutOff : cutOff m e ≤ n + 1 := by
      unfold cutOff
      omega
    have hlong : (roundedOff m e .exact).log2 ≤ 53 := log2_le hround.1
    have hshort : cutOff m e = n + 1 → (roundedOff m e .exact).log2 ≤ 52 :=
      fun hall => log2_le (hround.2 hall)
    rw [hcut]
    unfold cutOff at hexponent hcut hcutOff hshort ⊢
    omega

/-! ## Whole numbers -/

/-- The exponent of a quarter of the last place before the end of the range. -/
def endExponent : Nat :=
  969

/-- **Ten quarters of a last place before the end** of the range, which is at
`2 ^ 1024`. -/
def safeEnd : Nat :=
  2 ^ endExponent * (2 ^ 55 - 10)

theorem log2_le_of_le_safeEnd {n : Nat} (h : n ≤ safeEnd) : n.log2 ≤ endExponent + 54 := by
  refine log2_le (h.trans_lt ?_)
  unfold safeEnd
  rw [Nat.add_assoc, Nat.pow_add]
  have hpos : 0 < 2 ^ endExponent := Nat.two_pow_pos _
  generalize 2 ^ endExponent = p at *
  omega

/-- **The double nearest to a whole number** that is far enough from the end of
the range. -/
theorem isFinite_ofNat {n : Nat} (h : n ≤ safeEnd) : isFinite (ofNat n) = true := by
  rcases Nat.eq_zero_or_pos n with rfl | pos
  · exact (within_ofNat_zero 0).isFinite (by decide)
  · obtain ⟨q, -, hq, hround, hbits⟩ := magnitude_ofNat pos
    have hlog := log2_le_of_le_safeEnd h
    have hlast : n.log2 = endExponent + 54 → q < 2 ^ 53 := by
      intro hlast
      unfold safeEnd at h
      rw [hlast, Nat.pow_add] at hround
      have hpos : 0 < 2 ^ endExponent := Nat.two_pow_pos _
      generalize 2 ^ endExponent = p at *
      refine Nat.lt_of_mul_lt_mul_left (a := p) ?_
      rw [show q * (p * 2 ^ 54) = p * q * 2 ^ 54 by ring] at hround
      omega
    unfold isFinite
    rw [hbits, decide_eq_true_iff]
    unfold infinityBits mantissaLimit
    unfold endExponent at hlog hlast
    omega

/-- **What the double of a whole number holds**: a mantissa and an exponent that
say half of a last place more than the number, at most. -/
theorem unpack_ofNat {n : Nat} (pos : 0 < n) (finite : isFinite (ofNat n) = true) :
    ∃ (s : Sign) (m j : Nat) (mpos : 0 < m),
      (ofNat n).toModel.unpack = .finite s m ((n.log2 : Int) - 52 + j) mpos
      ∧ j ≤ 1 ∧ 2 * (m * 2 ^ (j + n.log2)) ≤ n * (2 ^ 53 + 1) := by
  obtain ⟨q, hq, hq', hround, hbits⟩ := magnitude_ofNat pos
  have hlog : 2 ^ n.log2 ≤ n := ((Nat.log2_eq_iff pos.ne').mp rfl).1
  have hmagnitude : magnitude (ofNat n) = (n.log2 + 1022) * mantissaLimit + q := by
    have hfinite := of_decide_eq_true finite
    omega
  rw [unpack_of_isFinite finite, parts_eq, hmagnitude]
  rcases Nat.lt_or_eq_of_le hq' with hlt | rfl
  · have hparts : partsOfBits ((n.log2 + 1022) * mantissaLimit + q) = (q, (n.log2 : Int) - 52) := by
      unfold partsOfBits mantissaLimit
      rw [if_neg (by omega)]
      refine Prod.ext ?_ ?_
      · show _ + _ % _ = q
        omega
      · show ((_ / _ : Nat) : Int) - 1075 = _
        omega
    rw [hparts]
    dsimp only
    rw [dif_pos (by omega)]
    refine ⟨_, q, 0, _, finite_congr rfl (Int.add_zero _).symm _, by decide, ?_⟩
    rw [Nat.zero_add]
    omega
  · have hparts : partsOfBits ((n.log2 + 1022) * mantissaLimit + 2 ^ 53)
        = (2 ^ 52, (n.log2 : Int) - 52 + 1) := by
      unfold partsOfBits mantissaLimit
      rw [if_neg (by omega)]
      refine Prod.ext ?_ ?_
      · show _ + _ % _ = 2 ^ 52
        omega
      · show ((_ / _ : Nat) : Int) - 1075 = _
        omega
    rw [hparts]
    dsimp only
    rw [dif_pos (by decide)]
    refine ⟨_, 2 ^ 52, 1, _, rfl, by decide, ?_⟩
    rw [Nat.pow_add]
    omega

/-- **A product of whole numbers** that is far enough from the end of the range
is finite. -/
theorem isFinite_mul_ofNat {a b : Nat} (ha : 0 < a) (hb : 0 < b) (h : a * b ≤ safeEnd) :
    isFinite (ofNat a * ofNat b) = true := by
  obtain ⟨s₁, m₁, j₁, pos₁, hunpack₁, hj₁, hm₁⟩ :=
    unpack_ofNat ha (isFinite_ofNat ((Nat.le_mul_of_pos_right a hb).trans h))
  obtain ⟨s₂, m₂, j₂, pos₂, hunpack₂, hj₂, hm₂⟩ :=
    unpack_ofNat hb (isFinite_ofNat ((Nat.le_mul_of_pos_left b ha).trans h))
  have hlogs : a.log2 + b.log2 ≤ endExponent + 54 := by
    have hproduct : 2 ^ (a.log2 + b.log2) ≤ a * b := by
      rw [Nat.pow_add]
      exact Nat.mul_le_mul ((Nat.log2_eq_iff ha.ne').mp rfl).1 ((Nat.log2_eq_iff hb.ne').mp rfl).1
    have hne : a * b ≠ 0 := (Nat.mul_pos ha hb).ne'
    exact ((Nat.le_log2 hne).mpr hproduct).trans (log2_le_of_le_safeEnd h)
  show isFinite (packed (UnpackedFloat.mul Format.binary64 (ofNat a).toModel.unpack
    (ofNat b).toModel.unpack)) = true
  rw [hunpack₁, hunpack₂]
  obtain ⟨n, hn⟩ : ∃ n, n + (j₁ + a.log2 + (j₂ + b.log2)) = endExponent + 105 :=
    ⟨_, Nat.sub_add_cancel (by omega)⟩
  refine isFinite_roundWithAccuracy _ (n := n) ?_ ?_
  · unfold endExponent at hn
    omega
  · -- the product of both bounds, and what remains of it after a common power is taken out
    have hproduct := Nat.mul_le_mul hm₁ hm₂
    have hpos : 0 < 2 ^ (j₁ + a.log2 + (j₂ + b.log2)) := Nat.two_pow_pos _
    refine Nat.lt_of_mul_lt_mul_right (a := 4 * 2 ^ (j₁ + a.log2 + (j₂ + b.log2))) ?_
    calc m₁ * m₂ * (4 * 2 ^ (j₁ + a.log2 + (j₂ + b.log2)))
        = 2 * (m₁ * 2 ^ (j₁ + a.log2)) * (2 * (m₂ * 2 ^ (j₂ + b.log2))) := by
          rw [Nat.pow_add 2 (j₁ + a.log2)]
          ring
      _ ≤ a * (2 ^ 53 + 1) * (b * (2 ^ 53 + 1)) := hproduct
      _ = a * b * ((2 ^ 53 + 1) * (2 ^ 53 + 1)) := by ring
      _ ≤ 2 ^ endExponent * (2 ^ 55 - 10) * ((2 ^ 53 + 1) * (2 ^ 53 + 1)) :=
          Nat.mul_le_mul_right _ h
      _ < 2 ^ endExponent * (2 ^ 105 * (2 * (2 ^ 53 - 1) + 1) * 4) := by
          have hend : 0 < 2 ^ endExponent := Nat.two_pow_pos _
          generalize 2 ^ endExponent = p at *
          omega
      _ = 2 ^ (endExponent + 105) * (2 * (2 ^ 53 - 1) + 1) * 4 := by
          rw [Nat.pow_add]
          ring
      _ = _ := by
          rw [← hn, Nat.pow_add]
          ring

/-- Nothing times a finite double is finite. -/
theorem isFinite_ofNat_zero_mul {y : Float} (hy : isFinite y = true) :
    isFinite (ofNat 0 * y) = true := by
  have hzero : (ofNat 0).toModel.unpack = .zero .positive := rfl
  show isFinite (packed (UnpackedFloat.mul Format.binary64 (ofNat 0).toModel.unpack
    y.toModel.unpack)) = true
  rw [hzero, unpack_of_isFinite hy]
  by_cases pos : 0 < (parts y).1
  · rw [dif_pos pos]
    exact isFinite_packed_zero _
  · rw [dif_neg pos]
    exact isFinite_packed_zero _

end TableProfile.Number.Binary64
