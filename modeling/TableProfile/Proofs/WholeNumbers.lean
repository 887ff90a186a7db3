import Mathlib.Data.List.TakeWhile
import TableProfile.Number.Decimal
import TableProfile.Proofs.DoubleArithmetic

/-!
# Whole numbers are numbers

A text that reads as a signed number of sixty-four bits also reads as a finite
number (`isSome_finite?_of_isSome_int64?`). The two readers know nothing of each
other: one folds digits and checks a range, the other looks for a point and a
power of ten and rounds. What makes one grammar part of the other is that a sign
and digits are a decimal number without either (`read?_of_integer?`). Leading
zeros are digits as well, so that the text may be of any length; it is the
number, and not the text, that keeps the double in range.
-/

namespace TableProfile.Number

open Binary64

/-- The digits of a natural number are a decimal number without a sign. -/
theorem unsigned?_of_natural? {s : List Char} {n : Nat} (h : natural? s = some n) :
    Decimal.unsigned? s = some (n, 0) := by
  unfold natural? at h
  split at h
  · rename_i hdigits
    obtain ⟨hne, hall⟩ := hdigits
    have htake : s.takeWhile Char.isDigit = s :=
      List.takeWhile_eq_self_iff.mpr (List.all_eq_true.mp hall)
    have hdrop : s.dropWhile Char.isDigit = [] :=
      List.dropWhile_eq_nil_iff.mpr (List.all_eq_true.mp hall)
    unfold Decimal.unsigned?
    rw [htake, hdrop]
    simp only [hne, false_and, if_false, Decimal.power?, Option.map_some, List.append_nil]
    rw [Option.some.inj h]
    rfl
  · cases h

/-- **A whole number is a decimal number** without a point and a power. -/
theorem read?_of_integer? {s : List Char} {n : Int} (h : integer? s = some n) :
    ∃ negative, Decimal.read? s = some ⟨negative, n.natAbs, 0⟩ := by
  have hread : ∀ {negative : Bool} {rest : List Char} {k : Nat},
      Decimal.splitSign s = (negative, rest) → natural? rest = some k → n.natAbs = k →
        Decimal.read? s = some ⟨negative, n.natAbs, 0⟩ := by
    rintro negative rest k hsign hnatural rfl
    unfold Decimal.read?
    rw [hsign]
    dsimp only
    rw [unsigned?_of_natural? hnatural]
    rfl
  revert h
  fun_cases integer? s with
  | case1 rest =>
    intro h
    obtain ⟨k, hk, rfl⟩ := Option.map_eq_some_iff.mp h
    exact ⟨false, hread rfl hk rfl⟩
  | case2 rest =>
    intro h
    obtain ⟨_, hvalue, rfl⟩ := Option.map_eq_some_iff.mp h
    obtain ⟨k, hk, hcast⟩ := Option.bind_eq_some_iff.mp hvalue
    obtain rfl := Option.some.inj hcast
    exact ⟨true, hread rfl hk (Int.natAbs_neg _)⟩
  | case3 _ hplus hminus =>
    intro h
    obtain ⟨k, hk, rfl⟩ := Option.map_eq_some_iff.mp h
    exact ⟨false, hread (Decimal.splitSign.eq_3 s hminus hplus) hk rfl⟩

/-- The double of a whole number of sixty-four bits is finite. -/
theorem isFinite_toFloat_of_lt {n : Nat} (h : n < 2 ^ 64) (negative : Bool) :
    isFinite (Decimal.toFloat ⟨negative, n, 0⟩) = true := by
  have hlength : (naturalText n).length ≤ 20 :=
    (Nat.length_toDigits_le_iff (b := 10) (by decide) (by decide)).mpr (h.trans (by decide))
  have hpow : n * tenTo (0 : Int).toNat = n := Nat.mul_one n
  unfold Decimal.toFloat
  dsimp only
  split
  · unfold isFinite
    rw [magnitude_ofMagnitude (Nat.zero_le _), decide_eq_true_iff]
    decide
  · split
    · omega
    · rw [if_pos (le_refl _), hpow]
      have hmagnitude : magnitude (ofRatio negative n 1) = magnitude (ofNat n) :=
        (magnitude_ofMagnitude (magnitudeBits_le n 1) negative).trans
          (magnitude_ofMagnitude (magnitudeBits_le n 1) false).symm
      unfold isFinite
      rw [hmagnitude]
      exact (within_ofNat h).isFinite (by decide)

/-- **A whole number of sixty-four bits is a finite number.** -/
theorem isSome_finite?_of_isSome_int64? {s : List Char} (h : (int64? s).isSome = true) :
    (finite? s).isSome = true := by
  obtain ⟨n, hn⟩ := Option.isSome_iff_exists.mp h
  obtain ⟨hinteger, hrange⟩ := Option.filter_eq_some_iff.mp hn
  obtain ⟨negative, hread⟩ := read?_of_integer? hinteger
  have hbits : n.natAbs < 2 ^ 64 := by
    have := of_decide_eq_true hrange
    unfold IsInt64 int64Limit at this
    omega
  have hdouble : double? s = some (Decimal.toFloat ⟨negative, n.natAbs, 0⟩) := by
    unfold double?
    rw [hread]
  unfold finite?
  rw [hdouble, Option.filter_some, if_pos (isFinite_toFloat_of_lt hbits negative)]
  rfl

end TableProfile.Number
