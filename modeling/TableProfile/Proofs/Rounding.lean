import Mathlib.Tactic.Ring
import TableProfile.Number.Binary64

/-!
# How far rounding can go

The result of an operation on doubles is the exact result, rounded to a
mantissa of fifty-three bits. Nothing here says which double is nearest. What
is said is that rounding does not go beyond a bound that is itself a double: a
mantissa below `B + 1/2` is rounded to `B` at most, wherever its bits are cut
off (`roundedMantissa_shiftRight_le`).

A power of two is such a bound (`withinPower_roundWithAccuracy`), and it is one
even for exact results that go beyond it by less than half of a last place. So
a sum to which small numbers are added stops growing, however many there are.
-/

namespace TableProfile.Number.Binary64

open Float.Model Float.Model.UnpackedFloat

/-! ## Mantissas -/

theorem mantissa_shiftRight (em : ExtendedMantissa) (n : Nat) :
    (em >>> n).mantissa = em.mantissa / 2 ^ n := by
  induction n with
  | zero => exact (Nat.div_one _).symm
  | succ n ih =>
    show (em >>> n).mantissa / 2 = _
    rw [ih, Nat.div_div_eq_div_mul, Nat.pow_succ]

/-- Rounding adds one at most. -/
theorem roundedMantissa_le (em : ExtendedMantissa) : em.roundedMantissa ≤ em.mantissa + 1 := by
  obtain ⟨m, roundBit, stickyBit⟩ := em
  cases roundBit <;> cases stickyBit
  · exact Nat.le_succ m
  · exact Nat.le_succ m
  · show m + m % 2 ≤ m + 1
    omega
  · exact Nat.le_refl _

/-- Without a round bit, rounding adds nothing. -/
theorem roundedMantissa_of_roundBit {em : ExtendedMantissa} (h : em.roundBit = false) :
    em.roundedMantissa = em.mantissa := by
  obtain ⟨m, roundBit, stickyBit⟩ := em
  obtain rfl : roundBit = false := h
  cases stickyBit <;> rfl

/-- **A mantissa below `B + 1/2` is rounded to `B` at most**, once bits are cut
off. -/
theorem roundedMantissa_shiftRight_le {em : ExtendedMantissa} {n B : Nat}
    (h : em.mantissa < 2 ^ n * (2 * B + 1)) : (em >>> (n + 1)).roundedMantissa ≤ B := by
  have hfloor : (em >>> n).mantissa ≤ 2 * B := by
    rw [mantissa_shiftRight]
    exact Nat.le_of_lt_succ (Nat.div_lt_of_lt_mul h)
  show (em >>> n).shiftRightOne.roundedMantissa ≤ B
  rcases Nat.lt_or_eq_of_le hfloor with hlt | heq
  · have hround := roundedMantissa_le (em >>> n).shiftRightOne
    have hhalf : (em >>> n).shiftRightOne.mantissa = (em >>> n).mantissa / 2 := rfl
    omega
  · have hbit : (em >>> n).shiftRightOne.roundBit = false := by
      show ((em >>> n).mantissa % 2 != 0) = false
      rw [heq, Nat.mul_mod_right]
      rfl
    rw [roundedMantissa_of_roundBit hbit]
    show (em >>> n).mantissa / 2 ≤ B
    omega

/-- How much an inexact mantissa is short of the exact value, at most. -/
def surplus : Accuracy → Nat
  | .exact => 0
  | .inexact _ => 1

theorem surplus_le_one (accuracy : Accuracy) : surplus accuracy ≤ 1 := by
  cases accuracy with
  | exact => exact Nat.zero_le 1
  | inexact o => exact Nat.le_refl 1

theorem mantissa_ofMantissaAndAccuracy (m : Nat) (accuracy : Accuracy) :
    (ExtendedMantissa.ofMantissaAndAccuracy m accuracy).mantissa = m := by
  cases accuracy with
  | exact => rfl
  | inexact o => cases o <;> rfl

theorem roundedMantissa_ofMantissaAndAccuracy_le (m : Nat) (accuracy : Accuracy) :
    (ExtendedMantissa.ofMantissaAndAccuracy m accuracy).roundedMantissa ≤ m + surplus accuracy := by
  cases accuracy with
  | exact => exact Nat.le_refl m
  | inexact o =>
    have hround := roundedMantissa_le (ExtendedMantissa.ofMantissaAndAccuracy m (.inexact o))
    rwa [mantissa_ofMantissaAndAccuracy] at hround

/-! ## Exponents -/

/-- **The exponent that rounding chooses.** -/
theorem targetExponent_eq (m : Nat) (e : Int) :
    Format.binary64.targetExponent (totalExponent m e) = max (m.log2 + e - 52) (-1074) := by
  unfold Format.targetExponent totalExponent
  have hbits : (Format.binary64.mantissaBits : Int) = 53 := rfl
  have hleast : Format.binary64.minExponent = -1074 := rfl
  rw [hbits, hleast]
  congr 1
  omega

theorem log2_le {m K : Nat} (h : m < 2 ^ (K + 1)) : m.log2 ≤ K := by
  rcases Nat.eq_zero_or_pos m with rfl | hpos
  · exact Nat.zero_le K
  · exact Nat.lt_succ_iff.mp ((Nat.log2_lt hpos.ne').mpr h)

/-- How many bits are cut off a mantissa. -/
def cutOff (m : Nat) (e : Int) : Nat :=
  (max (m.log2 + e - 52) (-1074) - e).toNat

/-- The mantissa once bits are cut off and it is rounded. -/
def roundedOff (m : Nat) (e : Int) (accuracy : Accuracy) : Nat :=
  (ExtendedMantissa.ofMantissaAndAccuracy m accuracy >>> cutOff m e).roundedMantissa

/-- Two finite floats of the same parts. -/
theorem finite_congr {s : Sign} {m m' : Nat} {e e' : Int} (hm : m = m') (he : e = e')
    (pos : 0 < m) : UnpackedFloat.finite s m e pos = .finite s m' e' (hm ▸ pos) := by
  subst hm he
  rfl

/-- **What rounding gives**: a zero, or the rounded mantissa, from which a bit
is cut off once more if it has become too long. -/
theorem roundWithAccuracy_eq (s : Sign) (m : Nat) (e : Int) (accuracy : Accuracy) :
    roundWithAccuracy Format.binary64 s m e accuracy = .zero s
      ∨ ∃ (e' : Int) (n : Nat) (pos : 0 < roundedOff m e accuracy / 2 ^ n),
        e' = e + cutOff m e ∧ n = cutOff (roundedOff m e accuracy) e'
          ∧ roundWithAccuracy Format.binary64 s m e accuracy
            = .finite s (roundedOff m e accuracy / 2 ^ n) (e' + n) pos := by
  have hfirst : shiftToTargetExponent Format.binary64 m e accuracy
      = (ExtendedMantissa.ofMantissaAndAccuracy m accuracy >>> cutOff m e, e + cutOff m e) := by
    unfold shiftToTargetExponent
    rw [targetExponent_eq]
    rfl
  have hsecond : ∀ (m : Nat) (e : Int), shiftToTargetExponent Format.binary64 m e .exact
      = (ExtendedMantissa.ofMantissaAndAccuracy m .exact >>> cutOff m e, e + cutOff m e) := by
    intro m e
    unfold shiftToTargetExponent
    rw [targetExponent_eq]
    rfl
  have hmantissa := mantissa_shiftRight
    (ExtendedMantissa.ofMantissaAndAccuracy (roundedOff m e accuracy) .exact)
    (cutOff (roundedOff m e accuracy) (e + cutOff m e))
  rw [mantissa_ofMantissaAndAccuracy] at hmantissa
  unfold roundWithAccuracy
  rw [hfirst]
  dsimp only
  rw [hsecond]
  rcases Nat.eq_zero_or_pos (roundedOff m e accuracy
      / 2 ^ cutOff (roundedOff m e accuracy) (e + cutOff m e)) with hzero | hpos
  · exact Or.inl (dif_pos (hmantissa.trans hzero))
  · refine Or.inr ⟨_, _, hpos, rfl, rfl, ?_⟩
    exact (dif_neg (hmantissa.trans_ne hpos.ne')).trans (finite_congr hmantissa rfl _)

/-- **A float within a power of two.** -/
def WithinPower (k : Int) : UnpackedFloat → Prop
  | .zero _ => True
  | .finite _ m e _ => ∃ d : Nat, e + d = k ∧ m ≤ 2 ^ d
  | .infinity _ => False
  | .notANumber => False

/-- Such a float is a zero or has a bounded mantissa. -/
theorem WithinPower.eq_zero_or_finite {u : UnpackedFloat} {k : Int} (h : WithinPower k u) :
    (∃ s, u = .zero s)
      ∨ ∃ s m e pos d, u = .finite s m e pos ∧ e + (d : Nat) = k ∧ m ≤ 2 ^ d := by
  cases u with
  | zero s => exact Or.inl ⟨s, rfl⟩
  | infinity s => exact h.elim
  | notANumber => exact h.elim
  | finite s m e pos =>
    obtain ⟨d, hd, hm⟩ := h
    exact Or.inr ⟨s, m, e, pos, d, rfl, hd, hm⟩

/-- Cutting off what is too long keeps a float within a power of two. -/
theorem withinPower_of_roundedOff_le (s : Sign) {m D : Nat} {e : Int} {accuracy : Accuracy}
    (h : roundedOff m e accuracy ≤ 2 ^ D) (hk : 0 ≤ e + cutOff m e + D) :
    WithinPower (e + cutOff m e + D) (roundWithAccuracy Format.binary64 s m e accuracy) := by
  rcases roundWithAccuracy_eq s m e accuracy with heq | ⟨e', n, pos, rfl, rfl, heq⟩
  · rw [heq]
    trivial
  · rw [heq]
    generalize e + (cutOff m e : Int) = e' at *
    generalize roundedOff m e accuracy = r at *
    have hlog : r.log2 ≤ D := log2_le (h.trans_lt (Nat.pow_lt_pow_succ (by decide)))
    have hcut : cutOff r e' ≤ D := by
      unfold cutOff
      omega
    refine ⟨D - cutOff r e', by omega, ?_⟩
    rw [Nat.div_le_iff_le_mul_add_pred (Nat.two_pow_pos _)]
    calc r ≤ 2 ^ D := h
      _ = 2 ^ cutOff r e' * 2 ^ (D - cutOff r e') := by
        rw [← Nat.pow_add, Nat.add_sub_cancel' hcut]
      _ ≤ _ := Nat.le_add_right _ _

/-- A mantissa beyond a power of two is long enough for bits to be cut off. -/
theorem le_cutOff {m K : Nat} {e : Int} (h : 2 ^ K ≤ m) : (K : Int) - 52 ≤ cutOff m e := by
  have hne : m ≠ 0 := (Nat.lt_of_lt_of_le (Nat.two_pow_pos K) h).ne'
  have hlog : K ≤ m.log2 := (Nat.le_log2 hne).mpr h
  unfold cutOff
  omega

/-- **Rounding stays within a power of two**, as long as the exact result
exceeds it by less than half of a last place. -/
theorem withinPower_roundWithAccuracy (s : Sign) {m K : Nat} {e : Int} {accuracy : Accuracy}
    (h : m + surplus accuracy ≤ 2 ^ K + 2 ^ K / 2 ^ 54) (hk : 0 ≤ e + K) :
    WithinPower (e + K) (roundWithAccuracy Format.binary64 s m e accuracy) := by
  have hsmall : 2 ^ K / 2 ^ 54 < 2 ^ K := Nat.div_lt_self (Nat.two_pow_pos K) (by decide)
  have hlog : m.log2 ≤ K := log2_le (by rw [Nat.pow_succ]; omega)
  have hcut : cutOff m e ≤ K := by
    unfold cutOff
    omega
  have hhalf : 2 ^ K < m + surplus accuracy → 54 ≤ K ∧ K - 52 ≤ cutOff m e
      ∧ m ≤ 2 ^ K + 2 ^ (K - 54) := by
    intro hlt
    have hlong : 54 ≤ K := by
      by_contra hshort
      rw [Nat.div_eq_of_lt (Nat.pow_lt_pow_right (by decide) (by omega))] at h
      omega
    have hsurplus : surplus accuracy ≤ 1 := surplus_le_one accuracy
    have hle : 2 ^ K ≤ m := by omega
    have hcutOff := le_cutOff (e := e) hle
    rw [Nat.pow_div hlong (by decide)] at h
    exact ⟨hlong, by omega, by omega⟩
  have hround : roundedOff m e accuracy ≤ 2 ^ (K - cutOff m e) := by
    unfold roundedOff
    cases hn : cutOff m e with
    | zero =>
      have hadded := roundedMantissa_ofMantissaAndAccuracy_le m accuracy
      refine hadded.trans (Nat.not_lt.mp fun hlt => ?_)
      have hcut := hhalf hlt
      omega
    | succ n =>
      refine roundedMantissa_shiftRight_le ?_
      rw [mantissa_ofMantissaAndAccuracy, Nat.mul_add, Nat.mul_one, ← Nat.mul_assoc, ← Nat.pow_succ,
        ← Nat.pow_add, show n + 1 + (K - (n + 1)) = K by omega]
      rcases Nat.lt_or_ge (2 ^ K) (m + surplus accuracy) with hlt | hge
      · obtain ⟨hlong, hcutOff, hle⟩ := hhalf hlt
        have hpow : 2 ^ (K - 54) < 2 ^ n := Nat.pow_lt_pow_right (by decide) (by omega)
        omega
      · have hpos : 0 < 2 ^ n := Nat.two_pow_pos n
        omega
  have hwithin := withinPower_of_roundedOff_le s hround (by omega)
  rwa [show e + (cutOff m e : Int) + (K - cutOff m e : Nat) = e + K by omega] at hwithin

end TableProfile.Number.Binary64
