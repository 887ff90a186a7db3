import TableProfile.Proofs.LargestDoubles
import TableProfile.Proofs.ShortestDigits
import TableProfile.Proofs.Codecs

/-!
# Every finite float is read

A float is read in a plain way, with roundings of its digits, of a power of ten
and of their product. So it may come back as a neighbour of itself. What cannot
happen is that a finite float is written with digits that are then refused as
out of range (`isSome_quantity?_floatLiteral`): the digits are at most half of a
last place above the float, and the three roundings have room for two more. Only
the two largest doubles are too close to the end for that, and of those it is
computed.
-/

namespace TableProfile

open Number

namespace Json

/-! ## Significands -/

theorem le_foldl_digits (ds : List Char) (n : Nat) :
    n * 10 ^ ds.length ≤ ds.foldl (fun n c => 10 * n + digitValue c) n := by
  induction ds generalizing n with
  | nil => exact (Nat.mul_one n).le
  | cons c rest ih =>
    refine le_trans ?_ (ih (10 * n + digitValue c))
    rw [List.length_cons, Nat.pow_succ']
    calc n * (10 * 10 ^ rest.length) = 10 * n * 10 ^ rest.length := by ring
      _ ≤ _ := Nat.mul_le_mul_right _ (Nat.le_add_right _ _)

/-- **A significand does not say more** than the digits that it was made of. -/
theorem extend_le (ds : List Char) (n : Nat) :
    (extend n ds).2 ≤ ds.length
      ∧ (extend n ds).1 * 10 ^ (extend n ds).2
        ≤ ds.foldl (fun n c => 10 * n + digitValue c) n := by
  induction ds generalizing n with
  | nil => exact ⟨Nat.le_refl 0, (Nat.mul_one n).le⟩
  | cons c rest ih =>
    unfold extend
    dsimp only
    split
    · exact ⟨(ih _).1.trans (Nat.le_succ _), (ih _).2⟩
    · exact ⟨Nat.le_refl _, le_foldl_digits (c :: rest) n⟩

theorem extend_lt {n : Nat} (h : n < UInt64.size) (ds : List Char) :
    (extend n ds).1 < UInt64.size := by
  induction ds generalizing n with
  | nil => exact h
  | cons c rest ih =>
    unfold extend
    dsimp only
    split
    · rename_i hlt
      exact ih hlt
    · exact h

/-! ## Scaling -/

theorem isFinite_powerOfTen {power : Nat} (h : power ≤ largestPower) :
    Binary64.isFinite (powerOfTen power) = true := by
  refine Binary64.isFinite_ofNat (le_trans (Nat.pow_le_pow_right (by decide) h) ?_)
  decide +kernel

/-- **A significand is not out of range** if its value is far enough from the
end of it. -/
theorem isSome_scaled? {significand : Nat} {power : Int} (hpower : power ≤ largestPower)
    (h : 0 ≤ power → significand * 10 ^ power.toNat ≤ Binary64.safeEnd) :
    (scaled? significand power).isSome = true := by
  rcases Int.lt_or_le power 0 with hneg | hnonneg
  · unfold scaled?
    rw [if_pos hneg]
    rfl
  · have hfinite : Binary64.isFinite (Binary64.ofNat significand * powerOfTen power.toNat)
        = true := by
      rcases Nat.eq_zero_or_pos significand with rfl | pos
      · exact Binary64.isFinite_ofNat_zero_mul (isFinite_powerOfTen (Int.toNat_le.mpr hpower))
      · exact Binary64.isFinite_mul_ofNat pos (Nat.pow_pos (by decide)) (h hnonneg)
    unfold scaled?
    rw [if_neg (Int.not_lt.mpr hnonneg), if_pos hpower]
    show (Option.filter Binary64.isFinite (some _)).isSome = true
    rw [Option.filter_some, if_pos hfinite]
    rfl

/-! ## Decimals -/

theorem digits_le (l : Literal) : l.digits.1 < UInt64.size ∧ l.digits.2 ≤ l.whole.length := by
  have hwhole := extend_le l.whole 0
  have hlt := extend_lt (by decide : 0 < UInt64.size) l.whole
  unfold Literal.digits
  cases l.fraction with
  | none => exact ⟨hlt, Int.ofNat_le.mpr hwhole.1⟩
  | some fraction =>
    dsimp only
    exact ⟨extend_lt hlt fraction, by omega⟩

/-- **Without an exponent** a number of sixteen digits before the point is in
range. -/
theorem isSome_magnitude?_of_positional {l : Literal} (h : l.exponent = none)
    (short : l.whole.length ≤ 16) : l.magnitude?.isSome = true := by
  obtain ⟨hlt, hpower⟩ := digits_le l
  unfold Literal.magnitude?
  rw [h]
  refine isSome_scaled? (hpower.trans (Int.ofNat_le.mpr (short.trans (by decide)))) fun _ => ?_
  calc l.digits.1 * 10 ^ l.digits.2.toNat ≤ UInt64.size * 10 ^ 16 :=
        Nat.mul_le_mul hlt.le (Nat.pow_le_pow_right (by decide) (by omega))
    _ ≤ _ := by decide +kernel

/-- **A small number** is in range. -/
theorem isSome_magnitude?_of_negative {l : Literal} (text : List Char)
    (h : l.exponent = some (true, text)) (short : l.whole.length ≤ digitsValue text) :
    l.magnitude?.isSome = true := by
  obtain ⟨hlt, hpower⟩ := digits_le l
  unfold Literal.magnitude?
  rw [h]
  dsimp only
  split
  · rw [if_neg (fun h => Bool.false_ne_true h.2)]
    rfl
  · have hnone : l.digits.2 - digitsValue text ≤ 0 := by omega
    rw [if_pos rfl]
    refine isSome_scaled? (hnone.trans (by decide)) fun _ => ?_
    rw [Int.toNat_of_nonpos hnone, Nat.pow_zero, Nat.mul_one]
    exact hlt.le.trans (by decide +kernel)

theorem length_naturalText {n : Nat} (pos : 0 < n) :
    10 ^ ((naturalText n).length - 1) ≤ n := by
  rcases Nat.eq_zero_or_pos ((naturalText n).length - 1) with hone | hlong
  · rw [hone]
    exact pos
  · refine Nat.not_lt.mp fun hlt => ?_
    have hle := (Nat.length_toDigits_le_iff (b := 10) (by decide) hlong).mpr hlt
    change (naturalText n).length ≤ _ at hle
    omega

/-- The power of ten of the leading digit. -/
theorem leading_lt {d : Magnitude} (pos : 0 < d.digits) {n : Nat} (h : d.value < (10 ^ n : Nat)) :
    d.exponent + (naturalText d.digits).length - 1 < n := by
  have hlength := List.length_pos_iff.mpr (isDigits_naturalText d.digits).1
  by_contra hge
  refine absurd h (not_lt.mpr ?_)
  calc ((10 ^ n : Nat) : ℚ) = 10 ^ (n : Int) := by
        rw [zpow_natCast]
        push_cast
        rfl
    _ ≤ 10 ^ ((((naturalText d.digits).length - 1 : Nat) : Int) + d.exponent) :=
        zpow_le_zpow_right₀ (by norm_num) (by omega)
    _ = (10 ^ ((naturalText d.digits).length - 1) : Nat) * 10 ^ d.exponent := by
        rw [zpow_add₀ (by norm_num), zpow_natCast]
        push_cast
        rfl
    _ ≤ d.value :=
        mul_le_mul_of_nonneg_right (Nat.cast_le.mpr (length_naturalText pos)) (by positivity)

/-- The significand and the power of a number with one digit before the point. -/
theorem digits_of_take {l : Literal} {c : Char} {rest : List Char} (hwhole : l.whole = [c])
    (hfraction : l.fraction = if rest = [] then none else some rest) :
    l.digits = ((extend (10 * 0 + digitValue c) rest).1,
      -((rest.length - (extend (10 * 0 + digitValue c) rest).2 : Nat) : Int)) := by
  have hdigit : 10 * 0 + digitValue c < UInt64.size := by
    have hc : c.toNat < UInt32.size := c.val.toNat_lt
    unfold digitValue
    exact (Nat.zero_add _).trans_lt ((Nat.sub_le _ _).trans_lt (hc.trans (by decide)))
  have hfirst : extend 0 [c] = (10 * 0 + digitValue c, 0) := if_pos hdigit
  unfold Literal.digits
  rw [hwhole, hfraction, hfirst]
  cases rest with
  | nil => rfl
  | cons c' rest =>
    rw [if_neg (List.cons_ne_nil _ _)]
    generalize c' :: rest = fraction
    show ((extend (10 * 0 + digitValue c) fraction).1,
      (0 : Int) - (fraction.length - (extend (10 * 0 + digitValue c) fraction).2 : Nat)) = _
    rw [Int.zero_sub]

/-- **How a large number is laid out**: with one digit before the point, and
with the power of ten of this digit. -/
theorem literal_of_large {d : Magnitude} {c : Char} {rest : List Char}
    (hdigits : naturalText d.digits = c :: rest) (large : 15 < d.exponent + rest.length)
    (negative : Bool) :
    d.literal reportNotation negative = {
      negative
      whole := [c]
      fraction := if rest = [] then none else some rest
      exponent := some (false, naturalText (d.exponent + rest.length).toNat) } := by
  have hleading : d.exponent + (c :: rest).length - 1 = d.exponent + rest.length := by
    rw [List.length_cons]
    omega
  have hfraction : (if (c :: rest).length = 1 then none else some ((c :: rest).drop 1))
      = if rest = [] then none else some rest := by
    cases rest <;> rfl
  have habs : (d.exponent + rest.length).natAbs = (d.exponent + rest.length).toNat := by
    omega
  have houtside : ¬ (reportNotation.least ≤ d.exponent + rest.length
      ∧ d.exponent + rest.length ≤ reportNotation.greatest) := by
    rintro ⟨-, hle⟩
    change d.exponent + rest.length ≤ 15 at hle
    omega
  unfold Magnitude.literal
  rw [hdigits]
  dsimp only
  rw [hleading, if_neg houtside, hfraction, habs, decide_eq_false (by omega)]
  rfl

/-- **The digits that a significand holds** say no more than the decimal they
were taken from. -/
theorem extend_mul_le {d : Magnitude} {c : Char} {rest : List Char}
    (hdigits : naturalText d.digits = c :: rest) {n : Nat} (h : d.value ≤ n)
    (hnonneg : 0 ≤ ((extend (10 * 0 + digitValue c) rest).2 : Int) + d.exponent) :
    (extend (10 * 0 + digitValue c) rest).1
      * 10 ^ ((extend (10 * 0 + digitValue c) rest).2 + d.exponent).toNat ≤ n := by
  obtain ⟨-, hle⟩ := extend_le rest (10 * 0 + digitValue c)
  change _ ≤ digitsValue (c :: rest) at hle
  rw [← hdigits, digitsValue_naturalText] at hle
  generalize extend (10 * 0 + digitValue c) rest = extended at *
  obtain ⟨significand, unused⟩ := extended
  dsimp only at hnonneg hle ⊢
  have hcast : ((significand * 10 ^ (unused + d.exponent).toNat : Nat) : ℚ) ≤ n := by
    refine le_trans ?_ h
    calc ((significand * 10 ^ (unused + d.exponent).toNat : Nat) : ℚ)
        = significand * 10 ^ (unused + d.exponent) := by
          push_cast
          rw [← zpow_natCast, Int.toNat_of_nonneg hnonneg]
      _ = (significand * 10 ^ unused : Nat) * 10 ^ d.exponent := by
          rw [zpow_add₀ (by norm_num), zpow_natCast]
          push_cast
          ring
      _ ≤ d.value := mul_le_mul_of_nonneg_right (Nat.cast_le.mpr hle) (by positivity)
  exact Nat.cast_le.mp hcast

/-- **A large number** is in range if its value is far enough from the end of
it. -/
theorem isSome_magnitude?_of_large {d : Magnitude} (pos : 0 < d.digits)
    (h : d.value ≤ Binary64.safeEnd) {negative : Bool}
    (large : 15 < d.exponent + (naturalText d.digits).length - 1) :
    (d.literal reportNotation negative).magnitude?.isSome = true := by
  cases hdigits : naturalText d.digits with
  | nil => exact absurd hdigits (isDigits_naturalText d.digits).1
  | cons c rest =>
    have hleading : d.exponent + rest.length < 309 := by
      have hlt := leading_lt pos (n := 309) (h.trans_lt (Nat.cast_lt.mpr (by decide +kernel)))
      rw [hdigits, List.length_cons] at hlt
      omega
    have hlarge : 15 < d.exponent + rest.length := by
      rw [hdigits, List.length_cons] at large
      omega
    rw [literal_of_large hdigits hlarge]
    unfold Literal.magnitude?
    rw [digits_of_take rfl rfl]
    dsimp only
    rw [digitsValue_naturalText, if_neg (by unfold exponentLimit; omega), if_neg Bool.false_ne_true]
    -- the power of ten is that of the digits and of those that were left out
    have hunused := (extend_le rest (10 * 0 + digitValue c)).1
    have hpower : -((rest.length - (extend (10 * 0 + digitValue c) rest).2 : Nat) : Int)
        + (d.exponent + rest.length).toNat
        = (extend (10 * 0 + digitValue c) rest).2 + d.exponent := by
      omega
    rw [hpower]
    exact isSome_scaled? (by unfold largestPower; omega) (extend_mul_le hdigits h)

/-- **A decimal is in range** if its value is far enough from the end of it. -/
theorem isSome_magnitude?_literal {d : Magnitude} (pos : 0 < d.digits)
    (h : d.value ≤ Binary64.safeEnd) (negative : Bool) :
    (d.literal reportNotation negative).magnitude?.isSome = true := by
  rcases Int.lt_or_le 15 (d.exponent + (naturalText d.digits).length - 1) with hlarge | hle
  · exact isSome_magnitude?_of_large pos h hlarge
  · unfold Magnitude.literal
    dsimp only
    split
    · split
      · refine isSome_magnitude?_of_positional rfl ?_
        rw [List.length_append, List.length_replicate]
        omega
      · split
        · refine isSome_magnitude?_of_positional rfl ((List.length_take_le _ _).trans ?_)
          omega
        · exact isSome_magnitude?_of_positional rfl (show ['0'].length ≤ 16 by decide)
    · rename_i houtside
      have hsmall : d.exponent + (naturalText d.digits).length - 1 < -5 :=
        Int.not_le.mp fun hge => houtside ⟨hge, hle⟩
      refine isSome_magnitude?_of_negative
        (naturalText (d.exponent + (naturalText d.digits).length - 1).natAbs) ?_ ?_
      · rw [decide_eq_true (by omega)]
      · rw [digitsValue_naturalText]
        refine (List.length_take_le _ _).trans ?_
        omega

/-! ## Floats -/

/-- The decimal of a finite double is far enough from the end of the range,
unless the double is one of the two largest. -/
theorem value_shortest_le_safeEnd {m : Nat} {e : Int} (pos : 0 < m) (hm : m < 2 ^ 53)
    (he : e ≤ 971) (ordinary : 1 ≤ e → 2 ^ 52 ≤ m) (hlargest : e = 971 → m + 2 < 2 ^ 53) :
    (shortest m e).value ≤ Binary64.safeEnd := by
  refine (value_shortest_le pos hm he ordinary).trans ?_
  have hend : (Binary64.safeEnd : ℚ) = 2 ^ (Binary64.endExponent : Int) * (2 ^ 55 - 10 : Nat) := by
    unfold Binary64.safeEnd
    rw [zpow_natCast, Nat.cast_mul, Nat.cast_pow, Nat.cast_ofNat]
  rw [hend, mul_comm]
  rcases Int.lt_or_eq_of_le he with hlt | heq
  · calc (2 : ℚ) ^ (e - 2) * (4 * m + 2 : Nat)
        ≤ 2 ^ ((Binary64.endExponent : Int) - 1) * (2 ^ 55 : Nat) := by
          refine mul_le_mul (zpow_le_zpow_right₀ (by norm_num) ?_) (Nat.cast_le.mpr (by omega))
            (Nat.cast_nonneg _) (by positivity)
          unfold Binary64.endExponent
          omega
      _ = 2 ^ (Binary64.endExponent : Int) * (2 ^ 54 : Nat) := by
          rw [zpow_sub₀ (by norm_num)]
          push_cast
          ring
      _ ≤ _ := mul_le_mul_of_nonneg_left (Nat.cast_le.mpr (by decide)) (by positivity)
  · have hexponent : e - 2 = (Binary64.endExponent : Int) := by
      unfold Binary64.endExponent
      omega
    rw [hexponent]
    refine mul_le_mul_of_nonneg_left (Nat.cast_le.mpr ?_) (by positivity)
    have hbelow := hlargest heq
    omega

theorem isSome_quantity?_of_magnitude? {l : Literal} (h : l.magnitude?.isSome = true) :
    l.quantity?.isSome = true := by
  unfold Literal.quantity?
  split
  · rfl
  · rwa [Option.isSome_map]

/-- **A finite float is read**, as itself or as another. -/
theorem isSome_quantity?_floatLiteral {x : Float} (finite : Binary64.isFinite x = true) :
    (floatLiteral x).quantity?.isSome = true := by
  refine isSome_quantity?_of_magnitude? ?_
  unfold floatLiteral
  split
  · exact isSome_magnitude?_of_positional rfl (show ['0'].length ≤ 16 by decide)
  · rename_i hne
    have hparts := Binary64.parts_bounds finite
    generalize Binary64.parts x = p at *
    obtain ⟨m, e⟩ := p
    obtain ⟨hm, he, ordinary⟩ := hparts
    have pos : 0 < m := Nat.pos_of_ne_zero hne
    by_cases hlargest : e = 971 → m + 2 < 2 ^ 53
    · exact isSome_magnitude?_literal (digits_shortest_pos pos e)
        (value_shortest_le_safeEnd pos hm he ordinary hlargest) _
    · -- one of the two largest doubles
      rw [Classical.not_imp] at hlargest
      obtain ⟨rfl, htop⟩ := hlargest
      have htwo : ∀ negative : Bool, ∀ i < 2, ((shortest (2 ^ 53 - 1 - i) 971).literal
          reportNotation negative).magnitude?.isSome = true := by
        decide +kernel
      have heq : m = 2 ^ 53 - 1 - (2 ^ 53 - 1 - m) := by omega
      rw [heq]
      exact htwo _ _ (by omega)

/-- **What comes back of a float**: a float if it is finite. -/
theorem Codec.exists_recode_number {x : Float} (finite : Binary64.isFinite x = true) :
    ∃ y, number.recode x = .ok y := by
  obtain ⟨quantity, hquantity⟩ := Option.isSome_iff_exists.mp (isSome_quantity?_floatLiteral finite)
  refine ⟨quantity.toFloat, ?_⟩
  show number.decode (if Binary64.isFinite x then .number (floatLiteral x) else .null) = _
  rw [if_pos finite]
  unfold number
  dsimp only
  rw [hquantity]

/-- A float that is not finite is written as no value, and that is refused. -/
theorem Codec.recode_number_of_not_isFinite {x : Float} (h : Binary64.isFinite x = false) :
    number.recode x = .error .dataError := by
  show number.decode (if Binary64.isFinite x then .number (floatLiteral x) else .null) = _
  rw [if_neg (Bool.not_eq_true _ ▸ h)]
  rfl

end Json

end TableProfile
