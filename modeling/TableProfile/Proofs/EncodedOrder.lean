import Mathlib.Data.String.Basic
import TableProfile.Proofs.EncodedText

/-!
# The order of texts is the order of their bytes

Texts are compared character by character. Whoever holds them as bytes compares
byte by byte, and comes to the same result: the bytes of a smaller character
come before those of a larger one, whatever follows
(`utf8EncodeChar_append_lt`). For characters of different lengths the leading
byte decides, as it grows with the length; for characters of one length the
bytes are the digits of the character in base sixty-four.
-/

namespace TableProfile.Text.Utf8

variable {first second : List UInt8}

/-- Bytes are compared at the first place where they differ. -/
theorem ofNat_cons_lt {m n : Nat} (hle : m ≤ n) (hn : n < 256) (h : m = n → first < second) :
    UInt8.ofNat m :: first < UInt8.ofNat n :: second := by
  rw [List.cons_lt_cons_iff]
  rcases Nat.lt_or_eq_of_le hle with hlt | rfl
  · refine Or.inl (UInt8.lt_iff_toNat_lt.mpr ?_)
    rwa [toNat_ofNat (hlt.trans hn), toNat_ofNat hn]
  · exact Or.inr ⟨rfl, h rfl⟩

theorem ofNat_cons_lt_of_lt {m n : Nat} (hlt : m < n) (hn : n < 256) :
    UInt8.ofNat m :: first < UInt8.ofNat n :: second :=
  ofNat_cons_lt hlt.le hn fun heq => absurd heq hlt.ne

/-- **The bytes of a smaller character come first**, whatever follows. -/
theorem utf8EncodeChar_append_lt {c d : Char} (h : c < d) (first second : List UInt8) :
    String.utf8EncodeChar c ++ first < String.utf8EncodeChar d ++ second := by
  have hlt : c.val.toNat < d.val.toNat := UInt32.lt_iff_toNat_lt.mp h
  have hlast : d.val.toNat < 0x110000 := by
    rcases d.valid with hd | ⟨-, hd⟩
    · exact hd.trans (by decide)
    · exact hd
  unfold String.utf8EncodeChar
  generalize c.val.toNat = v at hlt
  generalize d.val.toNat = w at hlt hlast
  dsimp only
  -- by the length of the smaller character, and then by that of the larger one
  split
  · split
    · exact ofNat_cons_lt_of_lt hlt (by omega)
    · split
      · exact ofNat_cons_lt_of_lt (by omega) (by omega)
      · split
        · exact ofNat_cons_lt_of_lt (by omega) (by omega)
        · exact ofNat_cons_lt_of_lt (by omega) (by omega)
  · rw [if_neg (by omega : ¬ w ≤ 0x7f)]
    split
    · split
      · exact ofNat_cons_lt (by omega) (by omega) fun _ =>
          ofNat_cons_lt_of_lt (by omega) (by omega)
      · split
        · exact ofNat_cons_lt_of_lt (by omega) (by omega)
        · exact ofNat_cons_lt_of_lt (by omega) (by omega)
    · rw [if_neg (by omega : ¬ w ≤ 0x7ff)]
      split
      · split
        · exact ofNat_cons_lt (by omega) (by omega) fun _ =>
            ofNat_cons_lt (by omega) (by omega) fun _ => ofNat_cons_lt_of_lt (by omega) (by omega)
        · exact ofNat_cons_lt_of_lt (by omega) (by omega)
      · rw [if_neg (by omega : ¬ w ≤ 0xffff)]
        exact ofNat_cons_lt (by omega) (by omega) fun _ =>
          ofNat_cons_lt (by omega) (by omega) fun _ =>
            ofNat_cons_lt (by omega) (by omega) fun _ => ofNat_cons_lt_of_lt (by omega) (by omega)

/-- Smaller characters have smaller bytes. -/
theorem bytesOf_lt_bytesOf {chars chars' : List Char} (h : chars < chars') :
    bytesOf chars < bytesOf chars' := by
  induction h with
  | @nil c rest =>
    rw [bytesOf_nil, bytesOf_cons]
    obtain ⟨byte, more, hbytes⟩ := List.exists_cons_of_ne_nil (String.utf8EncodeChar_ne_nil (c := c))
    rw [hbytes]
    exact List.nil_lt_cons _ _
  | @rel c rest d rest' hlt =>
    rw [bytesOf_cons, bytesOf_cons]
    exact utf8EncodeChar_append_lt hlt _ _
  | @cons c rest rest' _ ih =>
    rw [bytesOf_cons, bytesOf_cons]
    exact List.append_left_lt ih

theorem encode_eq_bytesOf (s : String) : encode s = bytesOf s.toList := by
  rw [← encode_ofList, String.ofList_toList]

/-- **The bytes of texts are ordered as the texts are.** -/
theorem encode_lt_encode_iff {s t : String} : encode s < encode t ↔ s < t := by
  have hmono : ∀ {s t : String}, s < t → encode s < encode t := by
    intro s t h
    rw [encode_eq_bytesOf, encode_eq_bytesOf]
    exact bytesOf_lt_bytesOf (String.lt_iff_toList_lt.mp h)
  refine ⟨fun h => ?_, hmono⟩
  rcases lt_trichotomy s t with hlt | rfl | hgt
  · exact hlt
  · exact absurd h (List.lt_irrefl _)
  · exact absurd (hmono hgt) (List.lt_asymm h)

end TableProfile.Text.Utf8
