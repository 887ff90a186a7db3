import TableProfile.Proofs.Doubles

/-!
# Arithmetic within bounds

What the operations on doubles make of bounds. A product is within the product
of the bounds, a quotient by one or more and a square root within the bound of
what is divided. A sum is within twice the bound, and within the bound itself if what is
added is small enough to be lost beside it (`Within.add_small`): so a sum of
any number of doubles is within `2 ^ 54` times their bound
(`within_foldl_add`).
-/

namespace TableProfile.Number.Binary64

open Float.Model Float.Model.UnpackedFloat

/-! ## Results within powers of two -/

variable {u v : UnpackedFloat} {k j : Int}

theorem WithinPower.mono (h : WithinPower k u) (hk : k ≤ j) : WithinPower j u := by
  rcases h.eq_zero_or_finite with ⟨s, rfl⟩ | ⟨s, m, e, pos, d, rfl, hd, hm⟩
  · trivial
  · refine ⟨d + (j - k).toNat, by omega, hm.trans (Nat.pow_le_pow_right (by decide) ?_)⟩
    exact Nat.le_add_right _ _

theorem WithinPower.neg (h : WithinPower k u) : WithinPower k u.neg := by
  cases u <;> exact h

/-- **Rounding stays within a power of two**, whether it adds bits or cuts them
off. -/
theorem withinPower_round (s : Sign) {m K : Nat} {e : Int} (h : m ≤ 2 ^ K + 2 ^ K / 2 ^ 54)
    (hk : 0 ≤ e + K) : WithinPower (e + K) (UnpackedFloat.round Format.binary64 s m e) := by
  unfold UnpackedFloat.round decreaseExponent
  dsimp only
  generalize (e - Format.binary64.targetExponent (totalExponent m e)).toNat = n
  have hlonger : m <<< n + surplus .exact ≤ 2 ^ (K + n) + 2 ^ (K + n) / 2 ^ 54 := by
    rw [Nat.shiftLeft_eq, Nat.pow_add]
    calc m * 2 ^ n + 0 ≤ (2 ^ K + 2 ^ K / 2 ^ 54) * 2 ^ n := Nat.mul_le_mul_right _ h
      _ = 2 ^ K * 2 ^ n + 2 ^ K / 2 ^ 54 * 2 ^ n := Nat.add_mul _ _ _
      _ ≤ _ := by
        refine Nat.add_le_add_left ?_ _
        rw [Nat.mul_comm, Nat.mul_comm (2 ^ K)]
        exact Nat.mul_div_le_mul_div_assoc _ _ _
  have hwithin := withinPower_roundWithAccuracy s hlonger (e := e - n) (by omega)
  rwa [show e - n + ((K + n : Nat) : Int) = e + K by omega] at hwithin

theorem withinPower_normalize {m : Int} {K : Nat} {e : Int}
    (h : m.natAbs ≤ 2 ^ K + 2 ^ K / 2 ^ 54) (hk : 0 ≤ e + K) (s : Sign) :
    WithinPower (e + K) (UnpackedFloat.normalize Format.binary64 m e s) := by
  unfold UnpackedFloat.normalize
  split
  · exact withinPower_round _ (by omega) hk
  · trivial
  · exact withinPower_round _ (by omega) hk

/-- The mantissa of a sum of two floats within powers of two. -/
theorem natAbs_add_apply_le (s₁ s₂ : Sign) {m₁ m₂ d₁ d₂ : Nat} (h₁ : m₁ ≤ 2 ^ d₁)
    (h₂ : m₂ ≤ 2 ^ d₂) (n₁ n₂ : Nat) :
    (s₁.apply ((m₁ <<< n₁ : Nat) : Int) + s₂.apply ((m₂ <<< n₂ : Nat) : Int)).natAbs
      ≤ 2 ^ (d₁ + n₁) + 2 ^ (d₂ + n₂) := by
  have hnatAbs : ∀ (s : Sign) (m : Nat), (s.apply (m : Int)).natAbs = m := by
    rintro (_ | _) m
    · exact Int.natAbs_neg _
    · rfl
  refine (Int.natAbs_add_le _ _).trans ?_
  rw [hnatAbs, hnatAbs, Nat.shiftLeft_eq, Nat.shiftLeft_eq, Nat.pow_add, Nat.pow_add]
  exact Nat.add_le_add (Nat.mul_le_mul_right _ h₁) (Nat.mul_le_mul_right _ h₂)

/-- **A sum within a power of two**: the bounds of what is added make it up,
except for what rounding loses. -/
theorem WithinPower.add {a b c : Int} (hu : WithinPower a u) (hv : WithinPower b v)
    (hac : a ≤ c) (hbc : b ≤ c) (hc : 0 ≤ c)
    (fits : ∀ e : Int, e ≤ a → e ≤ b → 2 ^ (a - e).toNat + 2 ^ (b - e).toNat
      ≤ 2 ^ (c - e).toNat + 2 ^ (c - e).toNat / 2 ^ 54) :
    WithinPower c (UnpackedFloat.add Format.binary64 u v) := by
  rcases hu.eq_zero_or_finite with ⟨s₁, rfl⟩ | ⟨s₁, m₁, e₁, pos₁, d₁, rfl, hd₁, hm₁⟩
  · rcases hv.eq_zero_or_finite with ⟨s₂, rfl⟩ | ⟨s₂, m₂, e₂, pos₂, d₂, rfl, -, -⟩
    · show WithinPower c (if s₁ == s₂ then .zero s₁ else .zero .positive)
      split <;> trivial
    · exact hv.mono hbc
  · rcases hv.eq_zero_or_finite with ⟨s₂, rfl⟩ | ⟨s₂, m₂, e₂, pos₂, d₂, rfl, hd₂, hm₂⟩
    · exact hu.mono hac
    · -- both mantissas are brought to the lesser exponent
      have hmantissa := natAbs_add_apply_le s₁ s₂ hm₁ hm₂ (e₁ - min e₁ e₂).toNat
        (e₂ - min e₁ e₂).toNat
      have hfits := fits (min e₁ e₂) (by omega) (by omega)
      rw [show (a - min e₁ e₂).toNat = d₁ + (e₁ - min e₁ e₂).toNat by omega,
        show (b - min e₁ e₂).toNat = d₂ + (e₂ - min e₁ e₂).toNat by omega] at hfits
      have hwithin := withinPower_normalize (hmantissa.trans hfits) (e := min e₁ e₂) (by omega)
        .positive
      rwa [show min e₁ e₂ + ((c - min e₁ e₂).toNat : Int) = c by omega] at hwithin

/-- A difference is the sum with the opposite. -/
theorem sub_eq_add_neg (u v : UnpackedFloat) :
    UnpackedFloat.sub Format.binary64 u v = UnpackedFloat.add Format.binary64 u v.neg := by
  have happly : ∀ (s : Sign) (m : Int), (-s).apply m = -s.apply m := by
    rintro (_ | _) m
    · exact (Int.neg_neg m).symm
    · rfl
  cases u with
  | infinity s => cases v <;> rfl
  | notANumber => cases v <;> rfl
  | zero s => cases v <;> rfl
  | finite s₁ m₁ e₁ pos₁ =>
    cases v with
    | infinity s => rfl
    | notANumber => rfl
    | zero s => rfl
    | finite s₂ m₂ e₂ pos₂ =>
      show UnpackedFloat.normalize _ (_ - s₂.apply _) _ _
        = UnpackedFloat.normalize _ (_ + (-s₂).apply _) _ _
      rw [happly, Int.sub_eq_add_neg]

theorem WithinPower.mul (hu : WithinPower k u) (hv : WithinPower j v) (hk : 0 ≤ k + j) :
    WithinPower (k + j) (UnpackedFloat.mul Format.binary64 u v) := by
  rcases hu.eq_zero_or_finite with ⟨s₁, rfl⟩ | ⟨s₁, m₁, e₁, pos₁, d₁, rfl, hd₁, hm₁⟩
  · rcases hv.eq_zero_or_finite with ⟨s₂, rfl⟩ | ⟨s₂, m₂, e₂, pos₂, d₂, rfl, -, -⟩ <;> trivial
  · rcases hv.eq_zero_or_finite with ⟨s₂, rfl⟩ | ⟨s₂, m₂, e₂, pos₂, d₂, rfl, hd₂, hm₂⟩
    · trivial
    · have hproduct : m₁ * m₂ + surplus .exact ≤ 2 ^ (d₁ + d₂) + 2 ^ (d₁ + d₂) / 2 ^ 54 := by
        rw [Nat.pow_add]
        exact (Nat.mul_le_mul hm₁ hm₂).trans (Nat.le_add_right _ _)
      have hwithin := withinPower_roundWithAccuracy (s₁ * s₂) hproduct (e := e₁ + e₂) (by omega)
      rwa [show e₁ + e₂ + ((d₁ + d₂ : Nat) : Int) = k + j by omega] at hwithin

/-- **A float of at least one**, not a zero or a fraction. -/
def AtLeastOne : UnpackedFloat → Prop
  | .zero _ => False
  | .finite _ m e _ => 2 ^ 52 ≤ m ∧ -52 ≤ e
  | .infinity _ => True
  | .notANumber => False

/-- The exponent that rounding chooses for a number within a power of two. -/
theorem targetExponent_le {x : Int} (h : x ≤ k + 53) (hk : 0 ≤ k) :
    Format.binary64.targetExponent x ≤ k := by
  unfold Format.targetExponent
  have hbits : (Format.binary64.mantissaBits : Int) = 53 := rfl
  have hleast : Format.binary64.minExponent = -1074 := rfl
  rw [hbits, hleast]
  omega

/-- A quotient that is rounded up. -/
theorem ceilDiv_le {m d n : Nat} (h : m ≤ d * n) :
    m / d + surplus (accuracyOfFraction (m % d) d) ≤ n := by
  have hquotient := Nat.div_add_mod m d
  unfold accuracyOfFraction
  split
  · exact Nat.div_le_of_le_mul h
  · rename_i hrem
    exact Nat.succ_le_of_lt (Nat.lt_of_mul_lt_mul_left (a := d) (by omega))

/-- **A quotient is within a power of two** if the divisor times the power is not
below what is divided, to whichever place both are taken. -/
theorem withinPower_div_finite (s₁ s₂ : Sign) {m₁ m₂ : Nat} {e₁ e₂ : Int} (pos₁ : 0 < m₁)
    (pos₂ : 0 < m₂) (hk : 0 ≤ k)
    (leading : (m₁.log2 : Int) + e₁ ≤ m₂.log2 + e₂ + k + 53)
    (bounded : ∀ e : Int, e ≤ e₁ - e₂ → e ≤ k →
      m₁ <<< (e₁ - e₂ - e).toNat ≤ m₂ * 2 ^ (k - e).toNat) :
    WithinPower k (UnpackedFloat.div Format.binary64 (.finite s₁ m₁ e₁ pos₁)
      (.finite s₂ m₂ e₂ pos₂)) := by
  -- the quotient is exact to the place `e`, and one more than it is below the bound
  let e : Int := min (e₁ - e₂) (Format.binary64.targetExponent
    (totalExponent m₁ e₁ - totalExponent m₂ e₂))
  have he : e ≤ e₁ - e₂ ∧ e ≤ k := by
    refine ⟨Int.min_le_left _ _, (Int.min_le_right _ _).trans (targetExponent_le ?_ hk)⟩
    unfold totalExponent
    omega
  have hround := ceilDiv_le (bounded e he.1 he.2)
  have hwithin := withinPower_roundWithAccuracy (s₁ / s₂) (hround.trans (Nat.le_add_right _ _))
    (e := e) (by omega)
  rwa [show e + ((k - e).toNat : Int) = k by omega] at hwithin

theorem WithinPower.div (hu : WithinPower k u) (hv : AtLeastOne v) (hk : 0 ≤ k) :
    WithinPower k (UnpackedFloat.div Format.binary64 u v) := by
  rcases hu.eq_zero_or_finite with ⟨s₁, rfl⟩ | ⟨s₁, m₁, e₁, pos₁, d, rfl, hd, hm⟩
  · cases v <;> first | exact hv.elim | trivial
  · cases v with
    | infinity s => trivial
    | notANumber => exact hv.elim
    | zero s => exact hv.elim
    | finite s₂ m₂ e₂ pos₂ =>
      obtain ⟨hm₂, he₂⟩ := hv
      have hlog₁ : m₁.log2 ≤ d := log2_le (hm.trans_lt (Nat.pow_lt_pow_succ (by decide)))
      have hlog₂ : 52 ≤ m₂.log2 := (Nat.le_log2 pos₂.ne').mpr hm₂
      refine withinPower_div_finite s₁ s₂ pos₁ pos₂ hk (by omega) fun e _ _ => ?_
      have hpower : 2 ^ (d + (e₁ - e₂ - e).toNat) ≤ 2 ^ (52 + (k - e).toNat) :=
        Nat.pow_le_pow_right (by decide) (by omega)
      rw [Nat.pow_add, Nat.pow_add] at hpower
      rw [Nat.shiftLeft_eq]
      exact (Nat.mul_le_mul_right _ hm).trans (hpower.trans (Nat.mul_le_mul_right _ hm₂))

theorem ceilSqrt_le {m n : Nat} (h : m ≤ n * n) :
    m.sqrt + surplus (if m - m.sqrt * m.sqrt = 0 then .exact
      else .inexact (if m - m.sqrt * m.sqrt ≤ m.sqrt then .lt else .gt)) ≤ n := by
  have hroot := Nat.sqrt_le m
  split
  · exact Nat.mul_self_le_mul_self_iff.mp (hroot.trans h)
  · rename_i hrem
    refine Nat.succ_le_of_lt (Nat.mul_self_lt_mul_self_iff.mp ?_)
    omega

theorem WithinPower.sqrt (hu : WithinPower k u) (hs : ∀ m e pos, u ≠ .finite .negative m e pos)
    (hk : 0 ≤ k) : WithinPower k (UnpackedFloat.sqrt Format.binary64 u) := by
  rcases hu.eq_zero_or_finite with ⟨s, rfl⟩ | ⟨s, m, e, pos, d, rfl, hd, hm⟩
  · trivial
  · cases s with
    | negative => exact absurd rfl (hs m e pos)
    | positive =>
      let t : Int := min (e.ediv 2) (Format.binary64.targetExponent
        ((totalExponent m e + 1).ediv 2))
      have ht : 2 * t ≤ e ∧ t ≤ k := by
        have hhalf : t ≤ e / 2 := Int.min_le_left _ _
        omega
      have hradicand : m <<< (e - 2 * t).toNat ≤ 2 ^ (k - t).toNat * 2 ^ (k - t).toNat := by
        rw [Nat.shiftLeft_eq, ← Nat.pow_add]
        calc m * 2 ^ (e - 2 * t).toNat ≤ 2 ^ d * 2 ^ (e - 2 * t).toNat :=
              Nat.mul_le_mul_right _ hm
          _ = 2 ^ (d + (e - 2 * t).toNat) := (Nat.pow_add _ _ _).symm
          _ ≤ _ := Nat.pow_le_pow_right (by decide) (by omega)
      have hround := ceilSqrt_le hradicand
      have hwithin := withinPower_roundWithAccuracy .positive
        (hround.trans (Nat.le_add_right _ _)) (e := t) (by omega)
      rwa [show t + ((k - t).toNat : Int) = k by omega] at hwithin

/-! ## Signs -/

/-- The sign of a float; what is not a number has the sign that it is packed
with. -/
def signOf : UnpackedFloat → Sign
  | .zero s => s
  | .finite s _ _ _ => s
  | .infinity s => s
  | .notANumber => .positive

theorem signOf_roundWithAccuracy (s : Sign) (m : Nat) (e : Int) (accuracy : Accuracy) :
    signOf (roundWithAccuracy Format.binary64 s m e accuracy) = s := by
  rcases roundWithAccuracy_eq s m e accuracy with heq | ⟨e', n, pos, -, -, heq⟩
  · rw [heq]
    rfl
  · rw [heq]
    rfl

theorem signOf_normalize {m : Int} (h : 0 ≤ m) (e : Int) :
    signOf (UnpackedFloat.normalize Format.binary64 m e .positive) = .positive := by
  unfold UnpackedFloat.normalize
  split
  · rename_i hlt
    exact absurd (Int.compare_eq_lt.mp hlt) (Int.not_lt.mpr h)
  · rfl
  · exact signOf_roundWithAccuracy _ _ _ _

theorem signOf_mul_self (u : UnpackedFloat) :
    signOf (UnpackedFloat.mul Format.binary64 u u) = .positive := by
  have hsquare : ∀ s : Sign, s * s = .positive := by rintro (_ | _) <;> rfl
  cases u with
  | infinity s => exact hsquare s
  | notANumber => rfl
  | zero s => exact hsquare s
  | finite s m e pos => exact (signOf_roundWithAccuracy _ _ _ _).trans (hsquare s)

theorem signOf_add (hu : signOf u = .positive) (hv : signOf v = .positive) :
    signOf (UnpackedFloat.add Format.binary64 u v) = .positive := by
  cases u with
  | infinity s =>
    obtain rfl : s = .positive := hu
    cases v with
    | infinity s' =>
      obtain rfl : s' = .positive := hv
      rfl
    | _ => rfl
  | notANumber => cases v <;> rfl
  | zero s =>
    obtain rfl : s = .positive := hu
    cases v with
    | zero s' =>
      obtain rfl : s' = .positive := hv
      rfl
    | _ => exact hv
  | finite s m e pos =>
    obtain rfl : s = .positive := hu
    cases v with
    | finite s' m' e' pos' =>
      obtain rfl : s' = .positive := hv
      exact signOf_normalize (Int.add_nonneg (Int.natCast_nonneg _) (Int.natCast_nonneg _)) _
    | infinity s' => exact hv
    | _ => rfl

theorem signOf_div (hu : signOf u = .positive) (hv : signOf v = .positive) :
    signOf (UnpackedFloat.div Format.binary64 u v) = .positive := by
  have hquotient : ∀ s s' : Sign, s = .positive → s' = .positive → s / s' = .positive := by
    rintro _ _ rfl rfl
    rfl
  cases u with
  | infinity s =>
    cases v with
    | infinity s' => rfl
    | notANumber => rfl
    | _ => exact hquotient _ _ hu hv
  | notANumber => cases v <;> rfl
  | zero s =>
    cases v with
    | zero s' => rfl
    | notANumber => rfl
    | _ => exact hquotient _ _ hu hv
  | finite s m e pos =>
    cases v with
    | notANumber => rfl
    | finite s' m' e' pos' => exact (signOf_roundWithAccuracy _ _ _ _).trans (hquotient _ _ hu hv)
    | _ => exact hquotient _ _ hu hv

/-! ## Doubles -/

section Doubles

variable {x y : Float} {k j : Nat}

theorem Within.add_of {i : Nat} (hx : Within k x) (hy : Within j y) (hki : k ≤ i) (hji : j ≤ i)
    (hi : i ≤ 971)
    (fits : ∀ e : Int, e ≤ k → e ≤ j → 2 ^ (k - e).toNat + 2 ^ (j - e).toNat
      ≤ 2 ^ (i - e).toNat + 2 ^ (i - e).toNat / 2 ^ 54) : Within i (x + y) :=
  within_packed ((hx.unpack (by omega)).add (hy.unpack (by omega)) (by omega) (by omega) (by omega)
    fits) hi

/-- A sum of two doubles is within twice their bound. -/
theorem Within.add (hx : Within k x) (hy : Within k y) (hk : k < 971) : Within (k + 1) (x + y) := by
  refine hx.add_of hy (by omega) (by omega) hk fun e he _ => ?_
  rw [show ((k + 1 : Nat) - e : Int).toNat = (k - e).toNat + 1 by omega, Nat.pow_succ]
  omega

/-- **What is small enough is lost** beside the bound of a sum. -/
theorem Within.add_small (hx : Within (k + 54) x) (hy : Within k y) (hk : k + 54 ≤ 971) :
    Within (k + 54) (x + y) := by
  refine hx.add_of hy (by omega) (by omega) hk fun e _ he => ?_
  rw [show ((k + 54 : Nat) - e : Int).toNat = (k - e).toNat + 54 by omega, Nat.pow_add (2) _ 54,
    Nat.mul_div_cancel _ (by decide)]

/-- A difference of two doubles is within twice their bound. -/
theorem Within.sub (hx : Within k x) (hy : Within k y) (hk : k < 971) : Within (k + 1) (x - y) := by
  show Within (k + 1) (packed (UnpackedFloat.sub Format.binary64 x.toModel.unpack y.toModel.unpack))
  rw [sub_eq_add_neg]
  refine within_packed ((hx.unpack (by omega)).add (hy.unpack (by omega)).neg (by omega) (by omega)
    (by omega) fun e he _ => ?_) hk
  rw [show ((k + 1 : Nat) - e : Int).toNat = (k - e).toNat + 1 by omega, Nat.pow_succ]
  omega

/-- A product of two doubles is within the product of their bounds. -/
theorem Within.mul (hx : Within k x) (hy : Within j y) (hkj : k + j ≤ 971) :
    Within (k + j) (x * y) :=
  within_packed ((hx.unpack (by omega)).mul (hy.unpack (by omega)) (by omega)) hkj

/-- **A double of at least one**, infinite or not. -/
def IsLarge (x : Float) : Prop :=
  1023 * mantissaLimit ≤ magnitude x ∧ isNumber x = true

theorem IsLarge.unpack (h : IsLarge y) : AtLeastOne y.toModel.unpack := by
  obtain ⟨hlarge, hnumber⟩ := h
  rcases Nat.lt_or_eq_of_le (of_decide_eq_true hnumber) with hfinite | hinfinite
  · have hmantissa : mantissaLimit ≤ magnitude y :=
      (Nat.le_mul_of_pos_left _ (by decide)).trans hlarge
    have hexponent : 1023 ≤ magnitude y / mantissaLimit :=
      (Nat.le_div_iff_mul_le (by decide)).mpr hlarge
    rw [unpack_of_isFinite (decide_eq_true hfinite), parts_eq, partsOfBits_of_le hmantissa,
      dif_pos (Nat.add_pos_left (by decide) _)]
    exact ⟨Nat.le_add_right _ _, by omega⟩
  · have hunpack : y.toModel.unpack = .infinity (sign y) := unpack_of_eq_infinityBits hinfinite
    rw [hunpack]
    trivial

/-- A quotient by one or more is within the bound of what is divided. -/
theorem Within.div (hx : Within k x) (hy : IsLarge y) (hk : k ≤ 971) : Within k (x / y) :=
  within_packed ((hx.unpack (by omega)).div hy.unpack (by omega)) hk

theorem signOf_unpack {b : BitVec Format.binary64.numBits} (h : b.toNat < signBit) :
    signOf (UnpackedFloat.unpack Format.binary64 b) = .positive := by
  have hsign : signOfBits b = .positive := if_neg (Nat.not_le.mpr h)
  unfold UnpackedFloat.unpack
  dsimp only
  rw [ofBitVec_unpackSign, hsign]
  by_cases hones : unpackExponent b = -BitVec.ofNat Format.binary64.exponentBits 1
  · rw [if_pos hones]
    split <;> rfl
  · rw [if_neg hones]
    by_cases hzero : unpackExponent b = BitVec.ofNat Format.binary64.exponentBits 0
    · rw [if_pos hzero]
      by_cases hnone : unpackMantissa b
          = BitVec.ofNat Format.binary64.mantissaBitsWithoutImplicit 0
      · rw [dif_pos hnone]
        rfl
      · rw [dif_neg hnone]
        rfl
    · rw [if_neg hzero]
      rfl

theorem signOf_toModel (h : isNegative x = false) : signOf x.toModel.unpack = .positive :=
  signOf_unpack (Nat.not_le.mp (of_decide_eq_false h))

theorem Within.sqrt (hx : Within k x) (h : isNegative x = false) (hk : k ≤ 971) :
    Within k x.sqrt := by
  refine within_packed ((hx.unpack (by omega)).sqrt (fun m e pos heq => ?_) (by omega)) hk
  have hsign := signOf_toModel h
  rw [heq] at hsign
  exact Sign.noConfusion hsign

theorem isNegative_packed {u : UnpackedFloat} (h : signOf u = .positive) :
    isNegative (packed u) = false := by
  have hcomponents : ∃ (e : BitVec 11) (m : BitVec 52), UnpackedFloat.pack Format.binary64 u
      = packComponents Format.binary64 (signOf u) e m := by
    cases u with
    | zero s => exact ⟨_, _, rfl⟩
    | infinity s => exact ⟨_, _, rfl⟩
    | notANumber => exact ⟨_, _, rfl⟩
    | finite s m e pos =>
      show ∃ (e' : BitVec 11) (m' : BitVec 52),
        UnpackedFloat.pack Format.binary64 (.finite s m e pos) = packComponents _ s e' m'
      unfold UnpackedFloat.pack
      dsimp only
      split
      · exact ⟨_, _, rfl⟩
      · split
        · exact ⟨_, _, rfl⟩
        · exact ⟨_, _, rfl⟩
  obtain ⟨e, m, hpack⟩ := hcomponents
  have hm : m.toNat < 2 ^ 52 := m.isLt
  have he : e.toNat < 2 ^ 11 := e.isLt
  unfold isNegative
  rw [toBits_packed, hpack, toNat_packComponents, h, decide_eq_false_iff_not]
  show ¬ signBit ≤ 0 * signBit + (e.toNat * mantissaLimit + m.toNat)
  unfold signBit mantissaLimit
  omega

theorem isNegative_mul_self (x : Float) : isNegative (x * x) = false :=
  isNegative_packed (signOf_mul_self _)

theorem isNegative_add (hx : isNegative x = false) (hy : isNegative y = false) :
    isNegative (x + y) = false :=
  isNegative_packed (signOf_add (signOf_toModel hx) (signOf_toModel hy))

theorem isNegative_div (hx : isNegative x = false) (hy : isNegative y = false) :
    isNegative (x / y) = false :=
  isNegative_packed (signOf_div (signOf_toModel hx) (signOf_toModel hy))

theorem isNegative_ofMagnitude {bits : Nat} (h : bits ≤ infinityBits) :
    isNegative (ofMagnitude false bits) = false := by
  refine isNegative_packed (signOf_unpack ?_)
  show bits % 2 ^ 64 < signBit
  unfold infinityBits at h
  unfold signBit
  omega

/-! ## Sums -/

/-- **A sum of any number of doubles** is within `2 ^ 54` times their bound. -/
theorem within_foldl_add {α : Type} {values : List α} {f : α → Float} (hk : k + 54 ≤ 971)
    (h : ∀ a ∈ values, Within k (f a)) {start : Float} (hstart : Within (k + 54) start) :
    Within (k + 54) (values.foldl (fun sum a => sum + f a) start) := by
  induction values generalizing start with
  | nil => exact hstart
  | cons a rest ih =>
    exact ih (fun b hb => h b (List.mem_cons_of_mem a hb))
      (hstart.add_small (h a List.mem_cons_self) hk)

theorem isNegative_foldl_add {α : Type} {values : List α} {f : α → Float}
    (h : ∀ a ∈ values, isNegative (f a) = false) {start : Float}
    (hstart : isNegative start = false) :
    isNegative (values.foldl (fun sum a => sum + f a) start) = false := by
  induction values generalizing start with
  | nil => exact hstart
  | cons a rest ih =>
    exact ih (fun b hb => h b (List.mem_cons_of_mem a hb))
      (isNegative_add hstart (h a List.mem_cons_self))

end Doubles

/-! ## Whole numbers -/

theorem lastPlace_one {n : Nat} (pos : 0 < n) : lastPlace n 1 = (n.log2 : Int) - 52 := by
  have hlog : 2 ^ n.log2 ≤ n := (Nat.le_log2 pos.ne').mp (Nat.le_refl _)
  have hone : ((Nat.log2 1 : Nat) : Int) = 0 := rfl
  have hreached : 1 <<< n.log2 ≤ n := by rwa [Nat.one_shiftLeft]
  unfold lastPlace
  dsimp only
  rw [hone, Int.sub_zero, Int.toNat_natCast]
  simp only [Int.natCast_nonneg, if_true, hreached]
  omega

/-- Rounding goes up by one half at most. -/
theorem roundHalfEven_le (n d : Nat) : 2 * (roundHalfEven n d * d) ≤ 2 * n + d := by
  have hdivision : n / d * d + n % d = n := Nat.div_add_mod' n d
  unfold roundHalfEven
  dsimp only
  split
  · rename_i hup
    rw [Bool.or_eq_true, decide_eq_true_iff, Bool.and_eq_true, beq_iff_eq] at hup
    have hnext : (n / d + 1) * d = n / d * d + d := Nat.succ_mul _ _
    omega
  · omega

theorem le_roundHalfEven (n d : Nat) : n / d ≤ roundHalfEven n d := by
  unfold roundHalfEven
  dsimp only
  split
  · exact Nat.le_succ _
  · exact Nat.le_refl _

theorem roundHalfEven_one (n : Nat) : roundHalfEven n 1 = n := by
  unfold roundHalfEven
  rw [Nat.div_one, Nat.mod_one]
  rfl

/-- No double is beyond infinity. -/
theorem magnitudeBits_le (num den : Nat) : magnitudeBits num den ≤ infinityBits := by
  unfold magnitudeBits
  split
  · exact Nat.zero_le _
  · exact Nat.min_le_left _ _

/-- **The bits of a whole number**: a mantissa, which is the number rounded to
the last place, and the exponent of that place. -/
theorem magnitude_ofNat {n : Nat} (pos : 0 < n) :
    ∃ q, 2 ^ 52 ≤ q ∧ q ≤ 2 ^ 53 ∧ 2 * (q * 2 ^ n.log2) ≤ 2 * (n * 2 ^ 52) + 2 ^ n.log2
      ∧ magnitude (ofNat n) = min infinityBits ((n.log2 + 1022) * mantissaLimit + q) := by
  have hlog : 2 ^ n.log2 ≤ n ∧ n < 2 ^ (n.log2 + 1) := (Nat.log2_eq_iff pos.ne').mp rfl
  have hbits : magnitude (ofNat n) = magnitudeBits n 1 :=
    magnitude_ofMagnitude (magnitudeBits_le n 1) false
  rw [hbits]
  unfold magnitudeBits
  rw [if_neg pos.ne', lastPlace_one pos]
  dsimp only
  have hweight : ((n.log2 : Int) - 52 + 1074).toNat = n.log2 + 1022 := by omega
  rw [hweight]
  rcases Nat.lt_or_ge n.log2 52 with hshort | hlong
  · obtain ⟨d, hd⟩ := Nat.exists_eq_add_of_le hshort.le
    rw [if_neg (by omega), show (-((n.log2 : Int) - 52)).toNat = d by omega, roundHalfEven_one,
      Nat.shiftLeft_eq]
    have hpower : 2 ^ n.log2 * 2 ^ d = 2 ^ 52 := by rw [← Nat.pow_add, ← hd]
    have hlower : 2 ^ n.log2 * 2 ^ d ≤ n * 2 ^ d := Nat.mul_le_mul_right _ hlog.1
    have hupper : n * 2 ^ d ≤ 2 ^ (n.log2 + 1) * 2 ^ d := Nat.mul_le_mul_right _ hlog.2.le
    rw [Nat.pow_succ, Nat.mul_right_comm, hpower] at hupper
    refine ⟨n * 2 ^ d, by omega, hupper, ?_, rfl⟩
    rw [Nat.mul_assoc, Nat.mul_comm (2 ^ d), hpower]
    exact Nat.le_add_right _ _
  · obtain ⟨d, hd⟩ := Nat.exists_eq_add_of_le hlong
    rw [if_pos (by omega), show ((n.log2 : Int) - 52).toNat = d by omega, Nat.one_shiftLeft]
    have hround := roundHalfEven_le n (2 ^ d)
    have hdown := le_roundHalfEven n (2 ^ d)
    have hpos : 0 < 2 ^ d := Nat.two_pow_pos d
    generalize roundHalfEven n (2 ^ d) = q at *
    rw [hd, Nat.pow_succ, Nat.pow_add] at hlog
    have hlower : 2 ^ 52 ≤ n / 2 ^ d := (Nat.le_div_iff_mul_le hpos).mpr hlog.1
    have hupper : 2 * q < 2 * 2 ^ 53 + 1 := by
      refine Nat.lt_of_mul_lt_mul_right (a := 2 ^ d) ?_
      rw [Nat.add_mul, Nat.mul_assoc, Nat.mul_assoc]
      omega
    refine ⟨q, hlower.trans hdown, by omega, ?_, rfl⟩
    calc 2 * (q * 2 ^ n.log2) = 2 * (q * 2 ^ d) * 2 ^ 52 := by rw [hd]; ring
      _ ≤ (2 * n + 2 ^ d) * 2 ^ 52 := Nat.mul_le_mul_right _ hround
      _ = _ := by rw [hd]; ring

theorem isNegative_ofNat (n : Nat) : isNegative (ofNat n) = false :=
  isNegative_ofMagnitude (magnitudeBits_le n 1)

theorem isLarge_ofNat {n : Nat} (pos : 0 < n) : IsLarge (ofNat n) := by
  obtain ⟨q, hq, -, -, hbits⟩ := magnitude_ofNat pos
  refine ⟨?_, ?_⟩
  · rw [hbits]
    refine Nat.le_min.mpr ⟨by decide, ?_⟩
    unfold mantissaLimit
    omega
  · unfold isNumber
    rw [hbits, decide_eq_true_iff]
    exact Nat.min_le_left _ _

theorem within_ofNat_zero (k : Nat) : Within k (ofNat 0) := by
  show magnitude (ofMagnitude false 0) ≤ _
  rw [magnitude_ofMagnitude (Nat.zero_le _)]
  exact Nat.zero_le _

/-- A whole number is within the powers of two above it. -/
theorem within_ofNat {n k : Nat} (h : n < 2 ^ k) : Within k (ofNat n) := by
  rcases Nat.eq_zero_or_pos n with rfl | pos
  · exact within_ofNat_zero k
  · obtain ⟨q, -, hq, -, hbits⟩ := magnitude_ofNat pos
    have hlog : n.log2 < k := (Nat.log2_lt pos.ne').mpr h
    unfold Within
    rw [hbits]
    refine (Nat.min_le_right _ _).trans ?_
    calc (n.log2 + 1022) * mantissaLimit + q
        ≤ (n.log2 + 1022) * mantissaLimit + 2 * mantissaLimit := Nat.add_le_add_left hq _
      _ = (n.log2 + 1 + 1023) * mantissaLimit := by rw [← Nat.add_mul]
      _ ≤ _ := Nat.mul_le_mul_right _ (by omega)

end TableProfile.Number.Binary64
