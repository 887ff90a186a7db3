import Mathlib.Data.List.Basic
import TableProfile.Text.Utf8

/-!
# Text to bytes and back

The bytes of a text are those of its characters, one after the other
(`encode_ofList`), and reading them gives the characters back (`decode_bytesOf`).
This holds whatever follows, since a character is known by its first bytes
(`character?_append`).

An ASCII character is one byte, and that byte stands for nothing else: it is no
byte of any other character (`mem_utf8EncodeChar`). So whoever looks for
delimiters, quotes and line breaks may look at bytes and never cuts a character.
-/

namespace TableProfile.Text.Utf8

/-- **The bytes of characters.** -/
def bytesOf (chars : List Char) : List UInt8 :=
  chars.flatMap String.utf8EncodeChar

@[simp] theorem bytesOf_nil : bytesOf [] = [] :=
  rfl

@[simp] theorem bytesOf_cons (c : Char) (chars : List Char) :
    bytesOf (c :: chars) = String.utf8EncodeChar c ++ bytesOf chars :=
  rfl

@[simp] theorem bytesOf_append (first second : List Char) :
    bytesOf (first ++ second) = bytesOf first ++ bytesOf second :=
  List.flatMap_append

/-! ## The bytes of a text -/

theorem toList_loop_eq (bytes : ByteArray) (i : Nat) (before : List UInt8) :
    ByteArray.toList.loop bytes i before = before.reverse ++ bytes.data.toList.drop i := by
  induction hn : bytes.size - i generalizing i before with
  | zero =>
    have hdone : bytes.size ≤ i := Nat.sub_eq_zero_iff_le.mp hn
    rw [ByteArray.toList.loop, if_neg (Nat.not_lt.mpr hdone), List.drop_eq_nil_of_le hdone,
      List.append_nil]
  | succ n ih =>
    have hlt : i < bytes.size := by omega
    have hlength : i < bytes.data.toList.length := hlt
    rw [ByteArray.toList.loop, if_pos hlt, ih (i + 1) _ (by omega),
      List.drop_eq_getElem_cons hlength, List.reverse_cons, List.append_assoc]
    have hget : bytes.get! i = bytes.data.toList[i] := by
      rw [Array.getElem_toList]
      exact getElem!_pos bytes.data i hlt
    rw [hget]
    rfl

/-- **The bytes of a text** are those of its characters. -/
theorem encode_ofList (chars : List Char) : encode (String.ofList chars) = bytesOf chars := by
  have hloop := toList_loop_eq (String.ofList chars).toUTF8 0 []
  unfold encode ByteArray.toList
  rw [hloop, List.reverse_nil, List.nil_append, List.drop_zero, String.toUTF8_eq_toByteArray,
    String.toByteArray_ofList]
  exact List.toList_data_toByteArray

/-! ## One character -/

theorem toNat_ofNat {n : Nat} (h : n < 256) : (UInt8.ofNat n).toNat = n := by
  rw [UInt8.toNat_ofNat']
  exact Nat.mod_eq_of_lt h

theorem continuation_ofNat {least greatest : UInt8} {n : Nat} (h : n < 0x40)
    (hleast : least.toNat ≤ n + 0x80) (hgreatest : n + 0x80 ≤ greatest.toNat) :
    continuation least greatest (UInt8.ofNat (n + 0x80)) = some n := by
  have hn : (UInt8.ofNat (n + 0x80)).toNat = n + 0x80 := toNat_ofNat (by omega)
  unfold continuation
  have hle : least ≤ UInt8.ofNat (n + 0x80) := UInt8.le_iff_toNat_le.mpr (by rwa [hn])
  have hge : UInt8.ofNat (n + 0x80) ≤ greatest := UInt8.le_iff_toNat_le.mpr (by rwa [hn])
  rw [if_pos ⟨hle, hge⟩, hn, Nat.add_sub_cancel]

theorem anyContinuation_ofNat {n : Nat} (h : n < 0x40) :
    anyContinuation (UInt8.ofNat (n + 0x80)) = some n :=
  continuation_ofNat h (Nat.le_add_left _ _) (Nat.le_of_lt_succ (Nat.add_lt_add_right h 0x80))

section Leading

variable {a b c d : UInt8} {rest : List UInt8} {l m n : Nat}

theorem character?_one (h : a.toNat < 0x80) :
    character? (a :: rest) = some (Char.ofNat a.toNat, rest) := by
  rw [character?.eq_def]
  exact if_pos (UInt8.lt_iff_toNat_lt.mpr h)

theorem character?_two (hleast : 0xc2 ≤ a.toNat) (hgreatest : a.toNat ≤ 0xdf)
    (hb : anyContinuation b = some l) :
    character? (a :: b :: rest) = some (Char.ofNat ((a.toNat - 0xc0) * 0x40 + l), rest) := by
  have hone : ¬ a < 0x80 := fun h => by
    have h' : a.toNat < 0x80 := UInt8.lt_iff_toNat_lt.mp h
    omega
  rw [character?.eq_def]
  dsimp only
  rw [if_neg hone, if_pos ⟨UInt8.le_iff_toNat_le.mpr hleast, UInt8.le_iff_toNat_le.mpr hgreatest⟩,
    hb]
  rfl

theorem character?_three (hleast : 0xe0 ≤ a.toNat) (hgreatest : a.toNat ≤ 0xef)
    (hb : continuation (if a = 0xe0 then 0xa0 else 0x80) (if a = 0xed then 0x9f else 0xbf) b
      = some l) (hc : anyContinuation c = some m) :
    character? (a :: b :: c :: rest)
      = some (Char.ofNat (((a.toNat - 0xe0) * 0x40 + l) * 0x40 + m), rest) := by
  have hone : ¬ a < 0x80 := fun h => by
    have h' : a.toNat < 0x80 := UInt8.lt_iff_toNat_lt.mp h
    omega
  have htwo : ¬ (0xc2 ≤ a ∧ a ≤ 0xdf) := fun h => by
    have h' : a.toNat ≤ 0xdf := UInt8.le_iff_toNat_le.mp h.2
    omega
  rw [character?.eq_def]
  dsimp only
  rw [if_neg hone, if_neg htwo,
    if_pos ⟨UInt8.le_iff_toNat_le.mpr hleast, UInt8.le_iff_toNat_le.mpr hgreatest⟩, hb, hc]
  rfl

theorem character?_four (hleast : 0xf0 ≤ a.toNat) (hgreatest : a.toNat ≤ 0xf4)
    (hb : continuation (if a = 0xf0 then 0x90 else 0x80) (if a = 0xf4 then 0x8f else 0xbf) b
      = some l) (hc : anyContinuation c = some m) (hd : anyContinuation d = some n) :
    character? (a :: b :: c :: d :: rest)
      = some (Char.ofNat ((((a.toNat - 0xf0) * 0x40 + l) * 0x40 + m) * 0x40 + n), rest) := by
  have hone : ¬ a < 0x80 := fun h => by
    have h' : a.toNat < 0x80 := UInt8.lt_iff_toNat_lt.mp h
    omega
  have htwo : ¬ (0xc2 ≤ a ∧ a ≤ 0xdf) := fun h => by
    have h' : a.toNat ≤ 0xdf := UInt8.le_iff_toNat_le.mp h.2
    omega
  have hthree : ¬ (0xe0 ≤ a ∧ a ≤ 0xef) := fun h => by
    have h' : a.toNat ≤ 0xef := UInt8.le_iff_toNat_le.mp h.2
    omega
  rw [character?.eq_def]
  dsimp only
  rw [if_neg hone, if_neg htwo, if_neg hthree,
    if_pos ⟨UInt8.le_iff_toNat_le.mpr hleast, UInt8.le_iff_toNat_le.mpr hgreatest⟩, hb, hc, hd]
  rfl

end Leading

/-- **A character is read from its bytes**, whatever follows. -/
theorem character?_append (c : Char) (rest : List UInt8) :
    character? (String.utf8EncodeChar c ++ rest) = some (c, rest) := by
  have hc : Char.ofNat c.val.toNat = c := Char.ofNat_toNat c
  have hvalid : c.val.toNat < 0xd800 ∨ 0xdfff < c.val.toNat ∧ c.val.toNat < 0x110000 := c.valid
  unfold String.utf8EncodeChar
  generalize c.val.toNat = v at hc hvalid
  dsimp only
  split
  · rename_i hone
    have ha : (UInt8.ofNat v).toNat = v := toNat_ofNat (by omega)
    rw [List.singleton_append, character?_one (by omega), ha, hc]
  · rename_i hone
    split
    · rename_i htwo
      have ha : (UInt8.ofNat (v / 64 % 32 + 192)).toNat = v / 64 + 192 := by
        rw [toNat_ofNat (by omega)]
        omega
      refine (character?_two (by omega) (by omega)
        (anyContinuation_ofNat (Nat.mod_lt _ (by decide)))).trans ?_
      have hv : (v / 64 + 192 - 0xc0) * 0x40 + v % 64 = v := by omega
      rw [ha, hv, hc]
      rfl
    · rename_i htwo
      split
      · rename_i hthree
        have ha : (UInt8.ofNat (v / 4096 % 16 + 224)).toNat = v / 4096 + 224 := by
          rw [toNat_ofNat (by omega)]
          omega
        refine (character?_three (by omega) (by omega) (continuation_ofNat
          (Nat.mod_lt _ (by decide)) ?_ ?_)
          (anyContinuation_ofNat (Nat.mod_lt _ (by decide)))).trans ?_
        · -- there is no shorter form
          split
          · rename_i hfirst
            have hleast : v / 4096 + 224 = 0xe0 := ha.symm.trans (congrArg UInt8.toNat hfirst)
            show 0xa0 ≤ _
            omega
          · exact Nat.le_add_left _ _
        · -- a character is no surrogate
          split
          · rename_i hfirst
            have hlast : v / 4096 + 224 = 0xed := ha.symm.trans (congrArg UInt8.toNat hfirst)
            show _ ≤ 0x9f
            omega
          · show _ ≤ 0xbf
            omega
        · have hv : ((v / 4096 + 224 - 0xe0) * 0x40 + v / 64 % 64) * 0x40 + v % 64 = v := by omega
          rw [ha, hv, hc]
          rfl
      · rename_i hthree
        have ha : (UInt8.ofNat (v / 262144 % 8 + 240)).toNat = v / 262144 + 240 := by
          rw [toNat_ofNat (by omega)]
          omega
        refine (character?_four (by omega) (by omega) (continuation_ofNat
          (Nat.mod_lt _ (by decide)) ?_ ?_)
          (anyContinuation_ofNat (Nat.mod_lt _ (by decide)))
          (anyContinuation_ofNat (Nat.mod_lt _ (by decide)))).trans ?_
        · split
          · rename_i hfirst
            have hleast : v / 262144 + 240 = 0xf0 := ha.symm.trans (congrArg UInt8.toNat hfirst)
            show 0x90 ≤ _
            omega
          · exact Nat.le_add_left _ _
        · -- nothing lies beyond the last plane
          split
          · rename_i hfirst
            have hlast : v / 262144 + 240 = 0xf4 := ha.symm.trans (congrArg UInt8.toNat hfirst)
            show _ ≤ 0x8f
            omega
          · show _ ≤ 0xbf
            omega
        · have hv : (((v / 262144 + 240 - 0xf0) * 0x40 + v / 4096 % 64) * 0x40 + v / 64 % 64) * 0x40
              + v % 64 = v := by omega
          rw [ha, hv, hc]
          rfl

/-- **The byte of an ASCII character** is a byte of that character only. -/
theorem mem_utf8EncodeChar {c : Char} {b : UInt8} (h : b.toNat < 0x80) :
    b ∈ String.utf8EncodeChar c ↔ c.toNat = b.toNat := by
  -- all bytes of a character of several bytes are beyond ASCII
  have hbeyond : ∀ n, 0x80 ≤ n → n < 256 → b ≠ UInt8.ofNat n := by
    rintro n hle hlt rfl
    rw [toNat_ofNat hlt] at h
    omega
  have hc : c.toNat = c.val.toNat := rfl
  rw [hc]
  unfold String.utf8EncodeChar
  generalize c.val.toNat = v
  dsimp only
  split
  · rename_i hone
    have ha : (UInt8.ofNat v).toNat = v := toNat_ofNat (by omega)
    rw [List.mem_singleton]
    refine ⟨fun heq => ?_, fun heq => UInt8.toNat_inj.mp ?_⟩
    · rw [heq, ha]
    · rw [ha, heq]
  · rename_i hone
    have hother : v ≠ b.toNat := by omega
    split
    · refine iff_of_false (fun hmem => ?_) hother
      simp only [List.mem_cons, List.not_mem_nil, or_false] at hmem
      rcases hmem with heq | heq <;> exact hbeyond _ (by omega) (by omega) heq
    · split
      · refine iff_of_false (fun hmem => ?_) hother
        simp only [List.mem_cons, List.not_mem_nil, or_false] at hmem
        rcases hmem with heq | heq | heq <;> exact hbeyond _ (by omega) (by omega) heq
      · refine iff_of_false (fun hmem => ?_) hother
        simp only [List.mem_cons, List.not_mem_nil, or_false] at hmem
        rcases hmem with heq | heq | heq | heq <;> exact hbeyond _ (by omega) (by omega) heq

theorem utf8EncodeChar_of_lt {c : Char} (h : c.toNat < 0x80) :
    String.utf8EncodeChar c = [UInt8.ofNat c.toNat] := by
  unfold String.utf8EncodeChar
  exact if_pos (Nat.le_of_lt_succ h)

/-! ## Reading back -/

/-- **Reading the bytes of characters gives them back.** -/
theorem decodeAll_bytesOf (chars : List Char) : decodeAll (bytesOf chars) = .ok chars := by
  induction chars with
  | nil =>
    rw [bytesOf_nil, decodeAll]
  | cons c rest ih =>
    have hread := character?_append c (bytesOf rest)
    rw [bytesOf_cons]
    cases hbytes : String.utf8EncodeChar c ++ bytesOf rest with
    | nil =>
      rw [hbytes] at hread
      cases hread
    | cons byte tail =>
      rw [hbytes] at hread
      rw [decodeAll]
      split
      · rename_i c' rest' hsome
        obtain ⟨rfl, rfl⟩ := Prod.mk.inj (Option.some.inj (hread.symm.trans hsome))
        rw [ih]
      · rename_i hnone
        cases hread.symm.trans hnone

theorem decode_bytesOf (chars : List Char) : decode (bytesOf chars) = .ok chars := by
  unfold decode
  rw [decodeAll_bytesOf]

end TableProfile.Text.Utf8
