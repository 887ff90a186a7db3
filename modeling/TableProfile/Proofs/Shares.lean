import TableProfile.Proofs.DoubleValues
import TableProfile.Proofs.LargestDoubles
import TableProfile.Column.Profile

/-!
# Shares are between nothing and one

A share is a quotient of two counts, and it is rounded three times: each count is
made a double, and so is the quotient. A part that is not above its whole may come
out above it in exact arithmetic once the one is rounded up and the other down,
were it not that rounding keeps the order (`magnitude_ofNat_mono`). So the doubles
are in the order of the counts, and their exact quotient is one at most. That is a
double itself, and rounding does not go beyond it (`within_zero_div`).
-/

namespace TableProfile

namespace Number.Binary64

open Float.Model Float.Model.UnpackedFloat

/-! ## Rounding keeps the order -/

/-- **Rounding to a whole number keeps the order.** -/
theorem roundHalfEven_mono {n n' : Nat} (h : n ≤ n') (d : Nat) :
    roundHalfEven n d ≤ roundHalfEven n' d := by
  rcases Nat.lt_or_eq_of_le (Nat.div_le_div_right (c := d) h) with hlt | heq
  · -- one more than the lesser quotient is the greater one at most
    have hstep : roundHalfEven n d ≤ n / d + 1 := by
      unfold roundHalfEven
      dsimp only
      split
      · exact Nat.le_refl _
      · exact Nat.le_succ _
    exact hstep.trans (hlt.trans_le (le_roundHalfEven n' d))
  · have hdivision := Nat.div_add_mod n d
    have hdivision' := Nat.div_add_mod n' d
    rw [← heq] at hdivision'
    unfold roundHalfEven
    dsimp only
    rw [← heq]
    split
    · rename_i hup
      rw [Bool.or_eq_true, decide_eq_true_iff, Bool.and_eq_true, beq_iff_eq, beq_iff_eq] at hup
      rw [if_pos]
      rw [Bool.or_eq_true, decide_eq_true_iff, Bool.and_eq_true, beq_iff_eq, beq_iff_eq]
      omega
    · split
      · exact Nat.le_succ _
      · exact Nat.le_refl _

theorem magnitude_ofNat_zero : magnitude (ofNat 0) = 0 :=
  magnitude_ofMagnitude (Nat.zero_le _) false

/-- **The doubles of counts are in the order of the counts.** -/
theorem magnitude_ofNat_mono {m n : Nat} (h : m ≤ n) :
    magnitude (ofNat m) ≤ magnitude (ofNat n) := by
  rcases Nat.eq_zero_or_pos m with rfl | hm
  · rw [magnitude_ofNat_zero]
    exact Nat.zero_le _
  have hn : 0 < n := hm.trans_le h
  have hlog : m.log2 ≤ n.log2 :=
    (Nat.le_log2 hn.ne').mpr (((Nat.log2_eq_iff hm.ne').mp rfl).1.trans h)
  rcases Nat.lt_or_eq_of_le hlog with hlt | heq
  · -- the mantissa of the lesser one reaches up to the next power of two at most
    obtain ⟨q, -, hq, -, hbits⟩ := magnitude_ofNat hm
    obtain ⟨q', hq', -, -, hbits'⟩ := magnitude_ofNat hn
    rw [hbits, hbits']
    refine min_le_min_left _ ?_
    calc (m.log2 + 1022) * mantissaLimit + q
        ≤ (m.log2 + 1022) * mantissaLimit + 2 * mantissaLimit := Nat.add_le_add_left hq _
      _ = (m.log2 + 1 + 1022) * mantissaLimit + mantissaLimit := by
          rw [← Nat.add_mul, ← Nat.succ_mul]
      _ ≤ (n.log2 + 1022) * mantissaLimit + q' :=
          Nat.add_le_add (Nat.mul_le_mul_right _ (Nat.add_le_add_right hlt _)) hq'
  · have hbits : ∀ k, magnitude (ofNat k) = magnitudeBits k 1 := fun k =>
      magnitude_ofMagnitude (magnitudeBits_le k 1) false
    rw [hbits, hbits]
    unfold magnitudeBits
    rw [if_neg hm.ne', if_neg hn.ne', lastPlace_one hm, lastPlace_one hn, heq]
    dsimp only
    refine min_le_min_left _ (Nat.add_le_add_left ?_ _)
    split
    · exact roundHalfEven_mono h _
    · refine roundHalfEven_mono ?_ _
      rw [Nat.shiftLeft_eq, Nat.shiftLeft_eq]
      exact Nat.mul_le_mul_right _ h

/-! ## Quotients of at most one -/

/-- **The leading bits** of two numbers are in their order. -/
theorem log2_add_le {m₁ m₂ a b : Nat} (pos₁ : 0 < m₁) (pos₂ : 0 < m₂)
    (h : m₁ * 2 ^ a ≤ m₂ * 2 ^ b) : m₁.log2 + a ≤ m₂.log2 + b := by
  have hlower : 2 ^ m₁.log2 ≤ m₁ := ((Nat.log2_eq_iff pos₁.ne').mp rfl).1
  have hupper : m₂ < 2 ^ (m₂.log2 + 1) := ((Nat.log2_eq_iff pos₂.ne').mp rfl).2
  have hpower : 2 ^ (m₁.log2 + a) < 2 ^ (m₂.log2 + 1 + b) := by
    rw [Nat.pow_add, Nat.pow_add 2 (m₂.log2 + 1)]
    calc 2 ^ m₁.log2 * 2 ^ a ≤ m₁ * 2 ^ a := Nat.mul_le_mul_right _ hlower
      _ ≤ m₂ * 2 ^ b := h
      _ < 2 ^ (m₂.log2 + 1) * 2 ^ b := Nat.mul_lt_mul_of_pos_right hupper (Nat.two_pow_pos b)
  have hlog := (Nat.pow_lt_pow_iff_right (by decide)).mp hpower
  omega

variable {x y : Float}

/-- **A quotient by what is at least as large is at most one**, however it is
rounded. -/
theorem within_zero_div (finite : isFinite y = true) (pos : 0 < magnitude y)
    (h : magnitude x ≤ magnitude y) : Within 0 (x / y) := by
  have hx : isFinite x = true := decide_eq_true (h.trans_lt (of_decide_eq_true finite))
  have hmultiple : multiple (magnitude x) ≤ multiple (magnitude y) := strictMono_multiple.monotone h
  have hleast₁ := le_exponent_partsOfBits (magnitude x)
  have hleast₂ := le_exponent_partsOfBits (magnitude y)
  have pos₂ : 0 < (parts y).1 := by
    have hpos : multiple 0 < multiple (magnitude y) := strictMono_multiple pos
    rw [multiple_zero] at hpos
    exact Nat.pos_of_mul_pos_right hpos
  unfold multiple at hmultiple
  rw [← parts_eq, ← parts_eq] at hmultiple
  rw [← parts_eq] at hleast₁ hleast₂
  refine within_packed ?_ (by decide)
  show WithinPower 0 (UnpackedFloat.div Format.binary64 x.toModel.unpack y.toModel.unpack)
  rw [unpack_of_isFinite hx, unpack_of_isFinite finite, dif_pos pos₂]
  by_cases pos₁ : 0 < (parts x).1
  · rw [dif_pos pos₁]
    have hlog := log2_add_le pos₁ pos₂ hmultiple
    refine withinPower_div_finite _ _ pos₁ pos₂ (Int.le_refl 0) (by omega) fun e he _ => ?_
    -- both sides are taken to the place of the smallest double
    refine Nat.le_of_mul_le_mul_right (c := 2 ^ ((parts y).2 + 1074).toNat) ?_ (Nat.two_pow_pos _)
    calc (parts x).1 <<< ((parts x).2 - (parts y).2 - e).toNat * 2 ^ ((parts y).2 + 1074).toNat
        = (parts x).1 * 2 ^ ((parts x).2 + 1074).toNat * 2 ^ (0 - e).toNat := by
          rw [Nat.shiftLeft_eq, Nat.mul_assoc, Nat.mul_assoc, ← Nat.pow_add, ← Nat.pow_add]
          congr 2
          omega
      _ ≤ (parts y).1 * 2 ^ ((parts y).2 + 1074).toNat * 2 ^ (0 - e).toNat :=
          Nat.mul_le_mul_right _ hmultiple
      _ = (parts y).1 * 2 ^ (0 - e).toNat * 2 ^ ((parts y).2 + 1074).toNat :=
          Nat.mul_right_comm _ _ _
  · rw [dif_neg pos₁]
    trivial

/-! ## Values between nothing and one -/

/-- **A double is a share**: it is finite, and its value is between nothing and
one. -/
structure IsShare (x : Float) : Prop where
  /-- It is finite. -/
  finite : isFinite x = true
  /-- It is not below zero. -/
  nonneg : 0 ≤ exactValue x
  /-- It is one at most. -/
  le_one : exactValue x ≤ 1

/-- **What is within one and not negative is a share.** -/
theorem Within.isShare (h : Within 0 x) (positive : isNegative x = false) : IsShare x := by
  have hplace : place x = magnitude x := by
    unfold place
    rw [positive]
    rfl
  have hone : exactValue 1 = 1 := by decide +kernel
  refine ⟨h.isFinite (by decide), ?_, ?_⟩
  · rw [exactValue_eq, hplace, valueAt_natCast]
    exact mul_nonneg (Nat.cast_nonneg _) (zpow_nonneg zero_le_two _)
  · rw [← hone, ← upTo_iff_exactValue_le]
    unfold UpTo
    rw [hplace]
    exact (Int.ofNat_le.mpr h).trans (by decide +kernel)

end Number.Binary64

namespace ColumnProfile

open Number Binary64

/-- **The share of a part in its whole** is between nothing and one, as long as the
whole is within the range of doubles. -/
theorem isShare_fraction {part whole : Nat} (h : part ≤ whole)
    (inRange : Binary64.isFinite (Binary64.ofNat whole) = true) : IsShare (fraction part whole) := by
  unfold fraction
  split
  · exact ⟨by decide, by decide +kernel, by decide +kernel⟩
  · rename_i hne
    have hlarge := (isLarge_ofNat (Nat.pos_of_ne_zero hne)).1
    have hwithin : Within 0 (Binary64.ofNat part / Binary64.ofNat whole) :=
      within_zero_div inRange ((by decide : 0 < 1023 * mantissaLimit).trans_le hlarge)
        (magnitude_ofNat_mono h)
    exact hwithin.isShare (isNegative_div (isNegative_ofNat part) (isNegative_ofNat whole))

end ColumnProfile

end TableProfile
