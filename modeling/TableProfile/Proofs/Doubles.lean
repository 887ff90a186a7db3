import TableProfile.Proofs.Rounding

/-!
# Doubles within bounds

A double is a sign, a mantissa and an exponent (`unpack_of_isFinite`), and the
bits of its magnitude grow with its value. So a double is within a power of two
if the bits of its magnitude are those of the power at most (`Within`). Both
ways between doubles and what they are made of keep such a bound
(`Within.unpack`, `within_packed`), and a double within a power below the range
of doubles is finite.
-/

namespace TableProfile.Number.Binary64

open Float.Model Float.Model.UnpackedFloat

/-! ## The parts of a double -/

section Bits

variable (b : BitVec Format.binary64.numBits)

theorem toNat_unpackMantissa :
    (unpackMantissa b).toNat = b.toNat % signBit % mantissaLimit := by
  unfold unpackMantissa
  rw [BitVec.toNat_cast, BitVec.extractLsb_toNat, Nat.shiftRight_zero]
  show b.toNat % 2 ^ 52 = b.toNat % signBit % mantissaLimit
  unfold signBit mantissaLimit
  omega

theorem toNat_unpackExponent :
    (unpackExponent b).toNat = b.toNat % signBit / mantissaLimit := by
  unfold unpackExponent
  rw [BitVec.toNat_cast, BitVec.extractLsb_toNat, Nat.shiftRight_eq_div_pow]
  show b.toNat / 2 ^ 52 % 2 ^ 11 = b.toNat % signBit / mantissaLimit
  unfold signBit mantissaLimit
  omega

theorem toNat_unpackSign : (unpackSign b).toNat = b.toNat / signBit := by
  have hbits : b.toNat < 2 ^ 64 := b.isLt
  unfold unpackSign
  rw [BitVec.toNat_cast, BitVec.extractLsb_toNat, Nat.shiftRight_eq_div_pow]
  show b.toNat / 2 ^ 63 % 2 ^ 1 = _
  unfold signBit
  omega

/-- The sign that bits hold. -/
def signOfBits : Sign :=
  if signBit ≤ b.toNat then .negative else .positive

theorem ofBitVec_unpackSign : Sign.ofBitVec (unpackSign b) = signOfBits b := by
  have hsign : unpackSign b = 0#1 ↔ ¬ signBit ≤ b.toNat := by
    rw [← BitVec.toNat_inj, toNat_unpackSign]
    show b.toNat / signBit = 0 ↔ _
    unfold signBit
    omega
  unfold Sign.ofBitVec signOfBits
  simp only [hsign, ite_not]

/-- The mantissa and the exponent that the bits of a magnitude hold. -/
def partsOfBits (magnitude : Nat) : Nat × Int :=
  if magnitude < mantissaLimit then (magnitude, -1074)
  else (mantissaLimit + magnitude % mantissaLimit, (magnitude / mantissaLimit : Nat) - 1075)

theorem partsOfBits_of_lt {magnitude : Nat} (h : magnitude < mantissaLimit) :
    partsOfBits magnitude = (magnitude, -1074) :=
  if_pos h

theorem partsOfBits_of_le {magnitude : Nat} (h : mantissaLimit ≤ magnitude) :
    partsOfBits magnitude = (mantissaLimit + magnitude % mantissaLimit,
      ((magnitude / mantissaLimit : Nat) : Int) - 1075) :=
  if_neg (Nat.not_lt.mpr h)

theorem parts_eq (x : Float) : parts x = partsOfBits (magnitude x) :=
  rfl

variable {b}

/-- The bits of infinity. -/
theorem unpack_of_eq_infinityBits (h : b.toNat % signBit = infinityBits) :
    UnpackedFloat.unpack Format.binary64 b = .infinity (signOfBits b) := by
  have hones : unpackExponent b = -BitVec.ofNat Format.binary64.exponentBits 1 := by
    rw [← BitVec.toNat_inj, toNat_unpackExponent, h]
    rfl
  have hzero : unpackMantissa b = BitVec.ofNat Format.binary64.mantissaBitsWithoutImplicit 0 := by
    rw [← BitVec.toNat_inj, toNat_unpackMantissa, h]
    rfl
  unfold UnpackedFloat.unpack
  dsimp only
  rw [ofBitVec_unpackSign, if_pos hones, if_pos hzero]

/-- **What the bits of a finite double hold**: a sign and two parts. -/
theorem unpack_of_lt (h : b.toNat % signBit < infinityBits) :
    UnpackedFloat.unpack Format.binary64 b
      = if pos : 0 < (partsOfBits (b.toNat % signBit)).1 then
          .finite (signOfBits b) _ (partsOfBits (b.toNat % signBit)).2 pos
        else .zero (signOfBits b) := by
  have hmantissa := toNat_unpackMantissa b
  have hexponent := toNat_unpackExponent b
  have hordinary : unpackExponent b ≠ -BitVec.ofNat Format.binary64.exponentBits 1 := by
    intro hones
    rw [← BitVec.toNat_inj, hexponent] at hones
    have hlast : (-BitVec.ofNat Format.binary64.exponentBits 1).toNat = 2047 := rfl
    unfold infinityBits mantissaLimit at *
    omega
  unfold UnpackedFloat.unpack
  dsimp only
  rw [ofBitVec_unpackSign, if_neg hordinary]
  rcases Nat.lt_or_ge (b.toNat % signBit) mantissaLimit with hsmall | hlarge
  · have hzero : unpackExponent b = BitVec.ofNat Format.binary64.exponentBits 0 := by
      rw [← BitVec.toNat_inj, hexponent]
      exact Nat.div_eq_of_lt hsmall
    rw [Nat.mod_eq_of_lt hsmall] at hmantissa
    have hleast : ((unpackExponent b).toNat : Int)
        - (Format.binary64.exponentBias + (52 : Nat)) + 1 = -1074 := by
      rw [hzero]
      rfl
    rw [if_pos hzero, partsOfBits_of_lt hsmall]
    dsimp only
    rcases Nat.eq_zero_or_pos (b.toNat % signBit) with hnone | hsome
    · rw [dif_pos (by rw [← BitVec.toNat_inj, hmantissa]; exact hnone), dif_neg (by omega)]
    · rw [dif_neg (by rw [← BitVec.toNat_inj, hmantissa]; exact hsome.ne'), dif_pos hsome]
      exact finite_congr hmantissa hleast _
  · have hnonzero : unpackExponent b ≠ BitVec.ofNat Format.binary64.exponentBits 0 := by
      intro hzero
      rw [← BitVec.toNat_inj, hexponent] at hzero
      exact (Nat.div_pos hlarge (by decide)).ne' hzero
    have hfull : (1#1 ++ unpackMantissa b).toNat
        = mantissaLimit + b.toNat % signBit % mantissaLimit := by
      rw [BitVec.toNat_append, ← Nat.shiftLeft_add_eq_or_of_lt (unpackMantissa b).isLt, hmantissa]
      rfl
    rw [if_neg hnonzero, partsOfBits_of_le hlarge, dif_pos (Nat.add_pos_left (by decide) _)]
    refine finite_congr hfull ?_ _
    rw [hexponent]
    rfl

end Bits

/-- The sign of a double. -/
def sign (x : Float) : Sign :=
  signOfBits x.toModel.toBits.toBitVec

/-- **What the model of a finite double holds**: its sign and its parts. -/
theorem unpack_of_isFinite {x : Float} (h : isFinite x = true) :
    x.toModel.unpack = if pos : 0 < (parts x).1 then .finite (sign x) _ (parts x).2 pos
      else .zero (sign x) :=
  unpack_of_lt (of_decide_eq_true h)

/-- The bounds of the parts of a finite double. -/
theorem parts_bounds {x : Float} (h : isFinite x = true) :
    (parts x).1 < 2 ^ 53 ∧ (parts x).2 ≤ 971 ∧ (1 ≤ (parts x).2 → 2 ^ 52 ≤ (parts x).1) := by
  have hfinite := of_decide_eq_true h
  unfold infinityBits at hfinite
  rw [parts_eq]
  unfold partsOfBits mantissaLimit
  split
  · dsimp only
    omega
  · dsimp only
    omega

/-! ## Bounds -/

/-- **A double within a power of two**, whichever its sign. -/
def Within (k : Nat) (x : Float) : Prop :=
  magnitude x ≤ (k + 1023) * mantissaLimit

instance (k : Nat) (x : Float) : Decidable (Within k x) :=
  inferInstanceAs (Decidable (_ ≤ _))

variable {x y : Float} {k j : Nat}

theorem Within.isFinite (h : Within k x) (hk : k < 1024) : isFinite x = true := by
  unfold Within mantissaLimit at h
  unfold Binary64.isFinite infinityBits
  rw [decide_eq_true_iff]
  omega

theorem Within.mono (h : Within k x) (hk : k ≤ j) : Within j x :=
  h.trans (Nat.mul_le_mul_right _ (Nat.add_le_add_right hk _))

/-- The parts of a double within a power of two. -/
theorem Within.parts_le (h : Within k x) :
    ∃ d : Nat, (parts x).2 + d = k ∧ (parts x).1 ≤ 2 ^ d := by
  unfold Within at h
  unfold parts
  dsimp only
  rcases Nat.lt_or_ge (magnitude x) mantissaLimit with hsmall | hlarge
  · rw [if_pos hsmall]
    refine ⟨k + 1074, by omega, ?_⟩
    calc magnitude x ≤ 2 ^ 52 := hsmall.le
      _ ≤ 2 ^ (k + 1074) := Nat.pow_le_pow_right (by decide) (by omega)
  · rw [if_neg (Nat.not_lt.mpr hlarge)]
    have hle : magnitude x / mantissaLimit ≤ k + 1023 :=
      Nat.div_le_of_le_mul (by rwa [Nat.mul_comm])
    have hmod : magnitude x % mantissaLimit < 2 ^ 52 := Nat.mod_lt _ (by decide)
    have hparts := Nat.div_add_mod (magnitude x) mantissaLimit
    refine ⟨k + 1075 - magnitude x / mantissaLimit, by dsimp only; omega, ?_⟩
    dsimp only
    rcases Nat.lt_or_eq_of_le hle with hlt | heq
    · calc mantissaLimit + magnitude x % mantissaLimit
          ≤ 2 ^ 53 := by unfold mantissaLimit at *; omega
        _ ≤ _ := Nat.pow_le_pow_right (by decide) (by omega)
    · rw [heq, show k + 1075 - (k + 1023) = 52 by omega]
      rw [heq, Nat.mul_comm] at hparts
      unfold mantissaLimit at *
      omega

/-- The model of a double within a power of two. -/
theorem Within.unpack (h : Within k x) (hk : k < 1024) : WithinPower k x.toModel.unpack := by
  rw [unpack_of_isFinite (h.isFinite hk)]
  by_cases pos : 0 < (parts x).1
  · rw [dif_pos pos]
    exact h.parts_le
  · rw [dif_neg pos]
    trivial

/-! ## Results -/

theorem toNat_packComponents (s : Sign) (e : BitVec 11) (m : BitVec 52) :
    (packComponents Format.binary64 s e m).toNat
      = s.toBitVec.toNat * signBit + (e.toNat * mantissaLimit + m.toNat) := by
  have hm : m.toNat < 2 ^ 52 := m.isLt
  have he : e.toNat < 2 ^ 11 := e.isLt
  unfold packComponents
  rw [BitVec.toNat_append, BitVec.toNat_append, ← Nat.shiftLeft_add_eq_or_of_lt hm,
    ← Nat.shiftLeft_add_eq_or_of_lt he, Nat.shiftLeft_eq, Nat.shiftLeft_eq]
  show (s.toBitVec.toNat * 2 ^ 11 + e.toNat) * 2 ^ 52 + m.toNat = _
  unfold signBit mantissaLimit
  omega

/-- **The double of a result.** -/
def packed (u : UnpackedFloat) : Float :=
  Float.ofModel (Float.Model.pack u)

theorem toBits_packed (u : UnpackedFloat) :
    (packed u).toBits.toNat = (UnpackedFloat.pack Format.binary64 u).toNat :=
  rfl

/-- The magnitude of a double made of components. -/
theorem magnitude_of_components {u : UnpackedFloat} {s : Sign} {e : BitVec 11} {m : BitVec 52}
    (h : UnpackedFloat.pack Format.binary64 u = packComponents Format.binary64 s e m) :
    magnitude (packed u) = e.toNat * mantissaLimit + m.toNat := by
  have hm : m.toNat < 2 ^ 52 := m.isLt
  have he : e.toNat < 2 ^ 11 := e.isLt
  unfold magnitude
  rw [toBits_packed, h, toNat_packComponents]
  unfold signBit mantissaLimit
  omega

/-- The magnitude of a finite result, as long as its exponent fits. -/
theorem magnitude_packed_finite (s : Sign) {m : Nat} {e : Int} (pos : 0 < m) (he : e ≤ 971) :
    magnitude (packed (.finite s m e pos))
      = (if m.log2 = 52 then (e + 1075).toNat * mantissaLimit else 0) + m % mantissaLimit := by
  have hbiased : (e + Format.binary64.exponentBias + Format.binary64.mantissaBitsWithoutImplicit)
      = e + 1075 := Int.add_assoc _ _ _
  have hcomponents : UnpackedFloat.pack Format.binary64 (.finite s m e pos)
      = packComponents Format.binary64 s
        (if m.log2 = 52 then BitVec.ofNat 11 (e + 1075).toNat else 0#11) (BitVec.ofNat 52 m) := by
    unfold UnpackedFloat.pack
    dsimp only
    rw [hbiased]
    have hfits : ¬ 2 ^ Format.binary64.exponentBits ≤ (e + 1075).toNat + 1 := by
      show ¬ 2 ^ 11 ≤ _
      omega
    rw [if_neg hfits]
    have hbits : Format.binary64.mantissaBits = 53 := rfl
    rw [hbits]
    by_cases hlog : m.log2 = 52
    · rw [if_pos (by omega), if_pos hlog]
    · rw [if_neg (by omega), if_neg hlog]
  rw [magnitude_of_components hcomponents, BitVec.toNat_ofNat]
  congr 1
  split
  · rw [BitVec.toNat_ofNat, Nat.mod_eq_of_lt (by omega)]
  · rfl

/-- **A result within a power of two is packed as such a double.** -/
theorem within_packed {u : UnpackedFloat} (h : WithinPower k u) (hk : k ≤ 971) :
    Within k (packed u) := by
  unfold Within
  rcases h.eq_zero_or_finite with ⟨s, rfl⟩ | ⟨s, m, e, pos, d, rfl, hd, hm⟩
  · rw [magnitude_of_components (rfl : UnpackedFloat.pack Format.binary64 (.zero s) = _)]
    exact Nat.zero_le _
  · rw [magnitude_packed_finite s pos (by omega)]
    have hmod : m % mantissaLimit < mantissaLimit := Nat.mod_lt _ (by decide)
    split
    · rename_i hlog
      have hlong : 2 ^ 52 ≤ m ∧ m < 2 ^ 53 := (Nat.log2_eq_iff pos.ne').mp hlog
      have hd52 : 52 ≤ d := (Nat.pow_le_pow_iff_right (by decide)).mp (hlong.1.trans hm)
      rcases Nat.eq_or_lt_of_le hd52 with rfl | hlt
      · have hexact : m = 2 ^ 52 := Nat.le_antisymm hm hlong.1
        rw [show (e + 1075).toNat = k + 1023 by omega, hexact]
        exact (Nat.add_zero _).le
      · calc (e + 1075).toNat * mantissaLimit + m % mantissaLimit
            ≤ ((e + 1075).toNat + 1) * mantissaLimit := by rw [Nat.succ_mul]; omega
          _ ≤ _ := Nat.mul_le_mul_right _ (by omega)
    · rw [Nat.zero_add]
      exact hmod.le.trans (Nat.le_mul_of_pos_left _ (by omega))

/-! ## Doubles made of bits -/

/-- A double that is made of the bits of a magnitude has that magnitude. -/
theorem magnitude_ofMagnitude {bits : Nat} (h : bits ≤ infinityBits) (negative : Bool) :
    magnitude (ofMagnitude negative bits) = bits := by
  let b : BitVec Format.binary64.numBits :=
    (UInt64.ofNat (if negative then signBit + bits else bits)).toBitVec
  have hb : b.toNat % signBit = bits := by
    show (if negative then signBit + bits else bits) % 2 ^ 64 % signBit = bits
    unfold infinityBits at h
    unfold signBit
    split <;> omega
  show magnitude (packed (UnpackedFloat.unpack Format.binary64 b)) = bits
  rcases Nat.lt_or_eq_of_le h with hfinite | rfl
  · rw [unpack_of_lt (hb.trans_lt hfinite), hb]
    rcases Nat.lt_or_ge bits mantissaLimit with hsmall | hlarge
    · rw [partsOfBits_of_lt hsmall]
      dsimp only
      by_cases pos : 0 < bits
      · have hlog : bits.log2 ≠ 52 := fun hlog =>
          Nat.not_le.mpr hsmall ((Nat.log2_eq_iff pos.ne').mp hlog).1
        rw [dif_pos pos, magnitude_packed_finite _ _ (by decide), if_neg hlog, Nat.zero_add,
          Nat.mod_eq_of_lt hsmall]
      · rw [dif_neg pos, magnitude_of_components rfl]
        exact (Nat.eq_zero_of_not_pos pos).symm
    · have hexponent : bits / mantissaLimit ≤ 2046 := by
        unfold infinityBits mantissaLimit at *
        omega
      have hmod : bits % mantissaLimit < mantissaLimit := Nat.mod_lt _ (by decide)
      have hlog : (mantissaLimit + bits % mantissaLimit).log2 = 52 := by
        rw [Nat.log2_eq_iff (by unfold mantissaLimit at *; omega)]
        unfold mantissaLimit at *
        omega
      rw [partsOfBits_of_le hlarge, dif_pos (Nat.add_pos_left (by decide) _),
        magnitude_packed_finite _ _ (by omega), if_pos hlog, Nat.add_mod_left, Nat.mod_mod,
        Int.sub_add_cancel, Int.toNat_natCast]
      exact Nat.div_add_mod' _ _
  · rw [unpack_of_eq_infinityBits hb, magnitude_of_components rfl]
    rfl

end TableProfile.Number.Binary64
