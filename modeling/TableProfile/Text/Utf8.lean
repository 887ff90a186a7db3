/-!
# Text from bytes

Bytes read as UTF-8, from the left. Each character takes one to four
bytes: a leading byte that tells how many, and continuation bytes. The
shortest form is the only one, surrogates are no characters, and nothing
lies beyond the last plane; all this is a matter of which second bytes a
leading byte allows. A reader that meets anything else stops there, and
where it stopped is part of its answer.
-/

namespace TableProfile.Text.Utf8

/-- The six bits that a continuation byte holds, if it is one between
`least` and `greatest`. -/
def continuation (least greatest : UInt8) (b : UInt8) : Option Nat :=
  if least ≤ b ∧ b ≤ greatest then some (b.toNat - 0x80) else none

/-- A continuation byte without further limits. -/
def anyContinuation (b : UInt8) : Option Nat :=
  continuation 0x80 0xbf b

/-- **The first character**, and the bytes after it. -/
def character? : List UInt8 → Option (Char × List UInt8)
  | [] => none
  | a :: rest =>
    if a < 0x80 then some (Char.ofNat a.toNat, rest)
    else if 0xc2 ≤ a ∧ a ≤ 0xdf then
      match rest with
      | b :: rest => do
        let b ← anyContinuation b
        some (Char.ofNat ((a.toNat - 0xc0) * 0x40 + b), rest)
      | _ => none
    else if 0xe0 ≤ a ∧ a ≤ 0xef then
      match rest with
      | b :: c :: rest => do
        let b ← continuation (if a = 0xe0 then 0xa0 else 0x80) (if a = 0xed then 0x9f else 0xbf) b
        let c ← anyContinuation c
        some (Char.ofNat (((a.toNat - 0xe0) * 0x40 + b) * 0x40 + c), rest)
      | _ => none
    else if 0xf0 ≤ a ∧ a ≤ 0xf4 then
      match rest with
      | b :: c :: d :: rest => do
        let b ← continuation (if a = 0xf0 then 0x90 else 0x80) (if a = 0xf4 then 0x8f else 0xbf) b
        let c ← anyContinuation c
        let d ← anyContinuation d
        some (Char.ofNat ((((a.toNat - 0xf0) * 0x40 + b) * 0x40 + c) * 0x40 + d), rest)
      | _ => none
    else none

/-- The bytes after a character are fewer. -/
theorem length_of_character? {bytes : List UInt8} {c : Char} {rest : List UInt8}
    (h : character? bytes = some (c, rest)) : rest.length < bytes.length := by
  unfold character? at h
  split at h
  · simp at h
  · split at h
    · simp only [Option.some.injEq, Prod.mk.injEq] at h
      simp [← h.2]
    · split at h
      · split at h
        · simp only [Option.bind_eq_bind, Option.bind_eq_some_iff, Option.some.injEq,
            Prod.mk.injEq] at h
          obtain ⟨_, _, _, rfl⟩ := h
          simp only [List.length_cons]
          omega
        · simp at h
      · split at h
        · split at h
          · simp only [Option.bind_eq_bind, Option.bind_eq_some_iff, Option.some.injEq,
              Prod.mk.injEq] at h
            obtain ⟨_, _, _, _, _, rfl⟩ := h
            simp only [List.length_cons]
            omega
          · simp at h
        · split at h
          · split at h
            · simp only [Option.bind_eq_bind, Option.bind_eq_some_iff, Option.some.injEq,
                Prod.mk.injEq] at h
              obtain ⟨_, _, _, _, _, _, _, rfl⟩ := h
              simp only [List.length_cons]
              omega
            · simp at h
          · simp at h

/-- The characters of bytes; the error is what is left from the place
where reading stopped. -/
def decodeAll (bytes : List UInt8) : Except (List UInt8) (List Char) :=
  match bytes with
  | [] => .ok []
  | byte :: tail =>
    match _h : character? (byte :: tail) with
    | some (c, rest) =>
      match decodeAll rest with
      | .ok cs => .ok (c :: cs)
      | .error left => .error left
    | none => .error (byte :: tail)
termination_by bytes.length
decreasing_by exact length_of_character? _h

/-- **The characters of bytes**, or the length of the longest beginning
that is well formed. -/
def decode (bytes : List UInt8) : Except Nat (List Char) :=
  match decodeAll bytes with
  | .ok cs => .ok cs
  | .error left => .error (bytes.length - left.length)

/-- **The bytes of a text.** -/
def encode (s : String) : List UInt8 :=
  s.toUTF8.toList

end TableProfile.Text.Utf8
