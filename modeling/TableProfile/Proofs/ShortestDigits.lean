import Mathlib.Algebra.Order.Field.Power
import Mathlib.Data.Rat.Cast.Order
import Mathlib.Tactic.NormNum
import Mathlib.Tactic.Positivity
import Mathlib.Tactic.Ring
import TableProfile.Proofs.NumberText

/-!
# The shortest digits stay close

The digits that a double is written with are not far above it: what they say is
at most half of a last place more than the double (`value_shortest_le`). For
each grid of decimals this is how a point of it is chosen. That some grid has
such a point takes a comparison of powers: the finest grid that is tried is
finer than a quarter of the last place of any double from `2 ^ 53` on
(`unit_le_scale`).
-/

namespace TableProfile.Number

/-- **The value of a decimal.** -/
def Magnitude.value (d : Magnitude) : ℚ :=
  d.digits * 10 ^ d.exponent

theorem Magnitude.value_reduced (d : Magnitude) : d.reduced.value = d.value := by
  unfold reduced
  split
  · rename_i hzero
    obtain ⟨n, hn⟩ := Nat.dvd_of_mod_eq_zero hzero
    unfold value
    rw [hn, Nat.mul_div_cancel_left n (by decide), zpow_add₀ (by norm_num)]
    push_cast
    ring
  · rfl

/-! ## One grid -/

/-- A point of a grid as a whole number of units. -/
def gridUnit (e k : Int) : Nat :=
  tenTo k.toNat <<< (-(e - 2)).toNat

/-- A quarter of a last place as a whole number of the same units. -/
def gridScale (e k : Int) : Nat :=
  tenTo (-k).toNat <<< (e - 2).toNat

theorem gridScale_pos (e k : Int) : 0 < gridScale e k := by
  unfold gridScale tenTo
  rw [Nat.shiftLeft_eq]
  exact Nat.mul_pos (Nat.pow_pos (by decide)) (Nat.two_pow_pos _)

theorem gridUnit_pos (e k : Int) : 0 < gridUnit e k := by
  unfold gridUnit tenTo
  rw [Nat.shiftLeft_eq]
  exact Nat.mul_pos (Nat.pow_pos (by decide)) (Nat.two_pow_pos _)

/-- **A point that is chosen** is at most half of a last place above the
double. -/
theorem onGrid?_le {m : Nat} {e k : Int} {d : Magnitude} (h : onGrid? m e k = some d) :
    d.exponent = k ∧ d.digits * gridUnit e k ≤ (4 * m + 2) * gridScale e k := by
  unfold onGrid? at h
  extract_lets e' unit scale value low high meets c down up pickUp at h
  have hmeets : ∀ c, meets c = true → c * unit ≤ high := by
    intro c hc
    simp only [meets] at hc
    split at hc
    · exact of_decide_eq_true (Bool.and_eq_true_iff.mp hc).2
    · exact (of_decide_eq_true (Bool.and_eq_true_iff.mp hc).2).le
  split at h
  · cases h
  · split at h
    · rename_i hboth
      obtain ⟨hdown, hup⟩ := Bool.and_eq_true_iff.mp hboth
      obtain rfl := Option.some.inj h
      refine ⟨rfl, ?_⟩
      show (if pickUp then c + 1 else c) * unit ≤ high
      split
      · exact hmeets _ hup
      · exact hmeets _ hdown
    · split at h
      · rename_i hdown
        obtain rfl := Option.some.inj h
        exact ⟨rfl, hmeets _ hdown⟩
      · split at h
        · rename_i hup
          obtain rfl := Option.some.inj h
          exact ⟨rfl, hmeets _ hup⟩
        · cases h

/-- **A grid that is fine enough has a point** for the double. -/
theorem isSome_onGrid? {m : Nat} (pos : 0 < m) {e k : Int} (h : gridUnit e k ≤ gridScale e k) :
    (onGrid? m e k).isSome = true := by
  unfold onGrid?
  extract_lets e' unit scale value low high meets c down up pickUp
  have hpos : 0 < unit := gridUnit_pos e k
  have hscale : 0 < scale := gridScale_pos e k
  have hunit : unit ≤ scale := h
  have hvalue : scale ≤ value := Nat.le_mul_of_pos_left _ (by omega)
  have hc : c ≠ 0 := (Nat.div_pos (hunit.trans hvalue) hpos).ne'
  have hdown : c * unit ≤ value := Nat.div_mul_le_self _ _
  have hup : value < c * unit + unit := Nat.lt_div_mul_add hpos
  have hlow : low + scale ≤ value := by
    refine (Nat.succ_mul _ _).symm.le.trans (Nat.mul_le_mul_right _ ?_)
    split <;> omega
  have hhigh : value < high := Nat.mul_lt_mul_of_pos_right (by omega) hscale
  have hmeets : meets c = true := by
    simp only [meets]
    split
    · rw [Bool.and_eq_true, decide_eq_true_iff, decide_eq_true_iff]
      omega
    · rw [Bool.and_eq_true, decide_eq_true_iff, decide_eq_true_iff]
      omega
  rw [if_neg hc]
  split
  · rfl
  · rfl

/-! ## All grids -/

/-- The finest grid that is tried for a mantissa of fifty-three bits. -/
def finest (e : Int) : Int :=
  (52 + e) * 30103 / 100000 + 2 - 21

/-- **The finest grid is fine enough** for the doubles above `2 ^ 53`. -/
theorem gridUnit_finest_le {e : Int} (hlow : 1 ≤ e) (hhigh : e ≤ 971) :
    gridUnit e (finest e) ≤ gridScale e (finest e) := by
  have hall : ∀ n : Nat, n < 971 →
      gridUnit (n + 1) (finest (n + 1)) ≤ gridScale (n + 1) (finest (n + 1)) := by
    decide +kernel
  obtain ⟨n, hn⟩ := Int.eq_ofNat_of_zero_le (Int.sub_nonneg.mpr hlow)
  have heq : e = n + 1 := by omega
  rw [heq]
  exact hall n (by omega)

theorem natCast_pow_toNat {b : ℚ} (hb : b ≠ 0) (k : Int) :
    b ^ k.toNat = b ^ k * b ^ (-k).toNat := by
  rw [← zpow_natCast, ← zpow_natCast, ← zpow_add₀ hb]
  congr 1
  omega

/-- The value of a point of a grid. -/
theorem value_le_of_onGrid? {m : Nat} {e k : Int} {d : Magnitude} (h : onGrid? m e k = some d) :
    d.value ≤ (4 * m + 2 : Nat) * 2 ^ (e - 2) := by
  obtain ⟨rfl, hle⟩ := onGrid?_le h
  unfold gridUnit gridScale tenTo at hle
  rw [Nat.shiftLeft_eq, Nat.shiftLeft_eq] at hle
  have hcast : (d.digits : ℚ) * (10 ^ d.exponent.toNat * 2 ^ (-(e - 2)).toNat)
      ≤ (4 * m + 2 : Nat) * (10 ^ (-d.exponent).toNat * 2 ^ (e - 2).toNat) := by
    exact_mod_cast hle
  rw [natCast_pow_toNat (by norm_num) d.exponent, natCast_pow_toNat (by norm_num) (e - 2)] at hcast
  have hcommon : (0 : ℚ) < 10 ^ (-d.exponent).toNat * 2 ^ (-(e - 2)).toNat := by positivity
  refine le_of_mul_le_mul_right ?_ hcommon
  calc d.value * (10 ^ (-d.exponent).toNat * 2 ^ (-(e - 2)).toNat)
      = d.digits * (10 ^ d.exponent * 10 ^ (-d.exponent).toNat * 2 ^ (-(e - 2)).toNat) := by
        unfold Magnitude.value
        ring
    _ ≤ _ := hcast
    _ = _ := by ring

/-- **The digits that a double is written with** are at most half of a last
place above it. -/
theorem value_shortest_le {m : Nat} {e : Int} (pos : 0 < m) (hm : m < 2 ^ 53) (he : e ≤ 971)
    (ordinary : 1 ≤ e → 2 ^ 52 ≤ m) :
    (shortest m e).value ≤ (4 * m + 2 : Nat) * 2 ^ (e - 2) := by
  unfold shortest
  dsimp only
  rw [Magnitude.value_reduced]
  cases hhit : (List.range 22).findSome? fun (i : Nat) =>
      onGrid? m e (((m.log2 : Int) + e) * 30103 / 100000 + 2 - i) with
  | some d =>
    obtain ⟨_, _, hgrid⟩ := List.exists_of_findSome?_eq_some hhit
    exact value_le_of_onGrid? hgrid
  | none =>
    rcases lt_or_ge e 1 with hsmall | hlarge
    · obtain ⟨n, hn⟩ := Int.eq_ofNat_of_zero_le (show 0 ≤ -e by omega)
      have hpower : (10 : ℚ) ^ e ≤ 2 ^ e := by
        rw [show e = -(n : Int) by omega, zpow_neg, zpow_neg, zpow_natCast, zpow_natCast]
        exact inv_anti₀ (by positivity) (pow_le_pow_left₀ (by norm_num) (by norm_num) n)
      calc (m : ℚ) * 10 ^ e ≤ m * 2 ^ e := mul_le_mul_of_nonneg_left hpower (Nat.cast_nonneg m)
        _ = (4 * m : Nat) * 2 ^ (e - 2) := by
          rw [zpow_sub₀ (by norm_num)]
          push_cast
          ring
        _ ≤ _ := mul_le_mul_of_nonneg_right (Nat.cast_le.mpr (Nat.le_add_right _ _)) (by positivity)
    · -- the last grid would have had a point
      exfalso
      have hlog : m.log2 = 52 := (Nat.log2_eq_iff pos.ne').mpr ⟨ordinary hlarge, hm⟩
      have hlast := List.findSome?_eq_none_iff.mp hhit 21 (by decide)
      rw [hlog] at hlast
      have hnone : onGrid? m e (finest e) = none := hlast
      have hsome := isSome_onGrid? pos (gridUnit_finest_le hlarge he)
      rw [hnone] at hsome
      exact Bool.false_ne_true hsome

end TableProfile.Number
