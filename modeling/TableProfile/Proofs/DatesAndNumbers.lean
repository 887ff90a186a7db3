import Mathlib.Data.List.TakeWhile
import TableProfile.Calendar.Layout
import TableProfile.Number.Decimal
import TableProfile.Proofs.NumberText

/-!
# No date is a number

A text that has the layout of a date does not read as a number
(`double?_eq_none_of_isDate`). Both begin with digits, and a year may have a
sign like a number, so what tells them apart is the character after the digits.
A number goes on with a point or a power of ten, or it ends. In a date there
follows a line, or white space and the name of a month, and no name of a month
begins like a power of ten.

The dates with points are the exception: up to the first point, they are
numbers. Only what follows the second number tells, and between the two there
may be white space as well.

White space in front of a date is passed over, and no number begins with any.
-/

namespace TableProfile

open Number Text

namespace Number

/-! ## Digits that are no number -/

/-- **A character that no number has after its digits.** -/
def stopsNumber (c : Char) : Bool :=
  !(c.isDigit || c == '.' || c == 'e' || c == 'E')

theorem stopsNumber_iff {c : Char} :
    stopsNumber c = true ↔ c.isDigit = false ∧ c ≠ '.' ∧ c ≠ 'e' ∧ c ≠ 'E' := by
  simp [stopsNumber, and_assoc]

/-- A power of ten begins with its letter. -/
theorem power?_cons_eq_none {c : Char} (lower : c ≠ 'e') (upper : c ≠ 'E') (s : List Char) :
    Decimal.power? (c :: s) = none := by
  unfold Decimal.power?
  split
  · rename_i heq
    cases heq
  · rename_i heq
    exact absurd (List.cons.inj heq).1 lower
  · rename_i heq
    exact absurd (List.cons.inj heq).1 upper
  · rfl

section Digits

variable {digits : List Char} (h : ∀ d ∈ digits, d.isDigit = true)

include h

/-- A scan of digits ends where they end. -/
theorem scan_digits_append {c : Char} (hc : c.isDigit = false) (s : List Char) :
    (digits ++ c :: s).takeWhile Char.isDigit = digits
      ∧ (digits ++ c :: s).dropWhile Char.isDigit = c :: s := by
  have hno : ¬ c.isDigit = true := Bool.eq_false_iff.mp hc
  rw [List.takeWhile_append_of_pos h, List.dropWhile_append_of_pos h,
    List.takeWhile_cons_of_neg hno, List.dropWhile_cons_of_neg hno, List.append_nil]
  exact ⟨rfl, rfl⟩

/-- **Digits and a character that ends a number** are no number, whatever
follows, and with no digits at all they are none either. -/
theorem unsigned?_append_eq_none {c : Char} (ends : stopsNumber c = true) (s : List Char) :
    Decimal.unsigned? (digits ++ c :: s) = none := by
  obtain ⟨hdigit, hpoint, hlower, hupper⟩ := stopsNumber_iff.mp ends
  obtain ⟨htake, hdrop⟩ := scan_digits_append h hdigit s
  unfold Decimal.unsigned?
  rw [htake, hdrop]
  dsimp only
  split
  · rename_i heq
    exact absurd (List.cons.inj heq).1 hpoint
  · rw [power?_cons_eq_none hlower hupper, Option.map_none]
    exact ite_self none

/-- **Digits and a point are no number** if the digits after the point, however
many, are followed by something that is no power of ten. -/
theorem unsigned?_append_point_eq_none {c : Char} {s rest : List Char}
    (after : s.dropWhile Char.isDigit = c :: rest) (lower : c ≠ 'e') (upper : c ≠ 'E') :
    Decimal.unsigned? (digits ++ '.' :: s) = none := by
  obtain ⟨htake, hdrop⟩ := scan_digits_append h (c := '.') rfl s
  unfold Decimal.unsigned?
  rw [htake, hdrop]
  dsimp only
  split
  · rename_i heq
    rw [← (List.cons.inj heq).2, after, power?_cons_eq_none lower upper, Option.map_none]
    exact ite_self none
  · rename_i hother
    exact absurd rfl (hother s)

end Digits

/-! ## Doubles -/

theorem toLower_eq_self {c : Char} (h : c.toNat < 65 ∨ 90 < c.toNat) : c.toLower = c := by
  unfold Char.toLower
  refine dif_neg fun hupper => ?_
  have hfrom : 65 ≤ c.toNat := UInt32.le_iff_toNat_le.mp hupper.1
  have hto : c.toNat ≤ 90 := UInt32.le_iff_toNat_le.mp hupper.2
  omega

/-- **A text is no double** if it is no decimal number and does not begin like a
name: the names of infinity and of what is not a number begin with letters. -/
theorem double?_eq_none {c : Char} {s t : List Char} {negative : Bool}
    (sign : Decimal.splitSign s = (negative, c :: t))
    (decimal : Decimal.unsigned? (c :: t) = none) (noLetter : c.toNat < 65 ∨ 122 < c.toNat) :
    double? s = none := by
  have hread : Decimal.read? s = none := by
    unfold Decimal.read?
    rw [sign]
    dsimp only
    rw [decimal]
    rfl
  have hother : ∀ d : Char, 65 ≤ d.toNat → d.toNat ≤ 122 → c.toLower ≠ d := by
    intro d hfrom hto
    rw [toLower_eq_self (by omega)]
    rintro rfl
    omega
  unfold double?
  rw [hread]
  unfold named?
  rw [sign]
  dsimp only
  rw [List.map_cons]
  split
  · rename_i heq
    exact absurd (List.cons.inj heq).1 (hother 'i' (by decide) (by decide))
  · rename_i heq
    exact absurd (List.cons.inj heq).1 (hother 'i' (by decide) (by decide))
  · rename_i heq
    exact absurd (List.cons.inj heq).1 (hother 'n' (by decide) (by decide))
  · rfl

theorem toNat_of_isDigit {c : Char} (h : c.isDigit = true) : 48 ≤ c.toNat ∧ c.toNat ≤ 57 := by
  unfold Char.isDigit at h
  rw [Bool.and_eq_true, decide_eq_true_eq, decide_eq_true_eq] at h
  exact ⟨UInt32.le_iff_toNat_le.mp h.1, UInt32.le_iff_toNat_le.mp h.2⟩

/-- Without a sign in front, there is none to be split off. -/
theorem splitSign_cons {c : Char} (plus : c ≠ '+') (minus : c ≠ '-') (s : List Char) :
    Decimal.splitSign (c :: s) = (false, c :: s) := by
  unfold Decimal.splitSign
  split
  · rename_i heq
    exact absurd (List.cons.inj heq).1 minus
  · rename_i heq
    exact absurd (List.cons.inj heq).1 plus
  · rfl

/-- Digits have no sign in front. -/
theorem IsDigits.splitSign_append {digits : List Char} (h : IsDigits digits) (s : List Char) :
    Decimal.splitSign (digits ++ s) = (false, digits ++ s) := by
  obtain ⟨c, rest, rfl⟩ := List.exists_cons_of_ne_nil h.1
  have hcode := toNat_of_isDigit (h.2 c List.mem_cons_self)
  refine splitSign_cons ?_ ?_ (rest ++ s)
  · rintro rfl
    exact absurd hcode (by decide)
  · rintro rfl
    exact absurd hcode (by decide)

/-- **Digits that are no number** are no double, with a sign or without. -/
theorem IsDigits.double?_eq_none {digits s rest : List Char} {negative : Bool}
    (h : IsDigits digits) (sign : Decimal.splitSign s = (negative, digits ++ rest))
    (decimal : Decimal.unsigned? (digits ++ rest) = none) : double? s = none := by
  obtain ⟨c, ds, rfl⟩ := List.exists_cons_of_ne_nil h.1
  have hcode := toNat_of_isDigit (h.2 c List.mem_cons_self)
  exact Number.double?_eq_none sign decimal (.inl (by omega))

/-! ## White space -/

/-- White space is none of the characters of a number. -/
theorem toNat_of_isBlank {c : Char} (h : isBlank c = true) : c.toNat < 43 ∨ 122 < c.toNat := by
  simp only [isBlank, Bool.or_eq_true, Bool.and_eq_true, decide_eq_true_eq, beq_iff_eq] at h
  omega

theorem ne_of_isBlank {c d : Char} (h : isBlank c = true) (hd : 43 ≤ d.toNat ∧ d.toNat ≤ 122) :
    c ≠ d := by
  rintro rfl
  have hblank := toNat_of_isBlank h
  omega

theorem isDigit_of_isBlank {c : Char} (h : isBlank c = true) : c.isDigit = false := by
  refine Bool.eq_false_iff.mpr fun hdigit => ?_
  have hblank := toNat_of_isBlank h
  have hcode := toNat_of_isDigit hdigit
  omega

theorem stopsNumber_of_isBlank {c : Char} (h : isBlank c = true) : stopsNumber c = true :=
  stopsNumber_iff.mpr ⟨isDigit_of_isBlank h, ne_of_isBlank h (by decide),
    ne_of_isBlank h (by decide), ne_of_isBlank h (by decide)⟩

/-- **No number begins with white space.** -/
theorem double?_cons_of_isBlank {c : Char} (h : isBlank c = true) (s : List Char) :
    double? (c :: s) = none := by
  have hblank := toNat_of_isBlank h
  have hsign := splitSign_cons (ne_of_isBlank h (by decide)) (ne_of_isBlank h (by decide)) s
  have hdecimal : Decimal.unsigned? (c :: s) = none :=
    unsigned?_append_eq_none (List.forall_mem_nil _) (stopsNumber_of_isBlank h) s
  exact double?_eq_none hsign hdecimal (by omega)

end Number

/-- A text has white space in front, or there is none to take away. -/
theorem blank_or_trimLeft_eq (s : List Char) :
    (∃ c t, s = c :: t ∧ isBlank c = true) ∨ trimLeft s = s := by
  cases s with
  | nil => exact .inr rfl
  | cons c t =>
    cases hc : isBlank c with
    | true => exact .inl ⟨c, t, rfl, hc⟩
    | false => exact .inr (List.dropWhile_cons_of_neg (Bool.eq_false_iff.mp hc))

namespace Calendar

/-! ## What stands at the front of a date -/

theorem exists_of_leadingDigits {width : Nat} {s rest : List Char} {n : Nat}
    (h : leadingDigits width s = some (n, rest)) :
    ∃ digits, IsDigits digits ∧ s = digits ++ rest := by
  unfold leadingDigits at h
  dsimp only at h
  split at h
  · cases h
  · rename_i hne
    obtain ⟨-, rfl⟩ := Prod.mk.inj (Option.some.inj h)
    refine ⟨_, ⟨hne, fun c hc => List.mem_takeWhile_imp hc⟩, ?_⟩
    exact (List.prefix_iff_eq_append.mp
      ((List.takeWhile_prefix _).trans (List.take_prefix _ _))).symm

/-- Digits that are made a number are still digits. -/
theorem exists_of_map_leadingDigits {width : Nat} {s rest : List Char} {n : Int} {f : Nat → Int}
    (h : (leadingDigits width s).map (fun r => (f r.1, r.2)) = some (n, rest)) :
    ∃ digits, IsDigits digits ∧ s = digits ++ rest := by
  obtain ⟨⟨k, rest'⟩, hk, heq⟩ := Option.map_eq_some_iff.mp h
  obtain ⟨-, rfl⟩ := Prod.mk.inj heq
  exact exists_of_leadingDigits hk

/-- **A loose number begins like a number**, if there is no white space in
front. -/
theorem exists_of_looseNumber {field : Field} {s rest : List Char} {n : Int}
    (h : looseNumber field s = some (n, rest)) (unblank : trimLeft s = s) :
    ∃ negative digits, IsDigits digits ∧ Decimal.splitSign s = (negative, digits ++ rest) := by
  unfold looseNumber at h
  rw [unblank] at h
  split at h
  · obtain ⟨digits, hdigits, rfl⟩ := exists_of_map_leadingDigits (f := fun k => -(k : Int)) h
    exact ⟨true, digits, hdigits, rfl⟩
  · obtain ⟨digits, hdigits, rfl⟩ := exists_of_map_leadingDigits h
    exact ⟨false, digits, hdigits, rfl⟩
  · obtain ⟨digits, hdigits, rfl⟩ := exists_of_map_leadingDigits h
    exact ⟨false, digits, hdigits, hdigits.splitSign_append rest⟩

theorem exists_of_exactNumber {width : Nat} {s rest : List Char} {n : Nat}
    (h : exactNumber (width + 1) s = some (n, rest)) :
    ∃ digits, IsDigits digits ∧ s = digits ++ rest := by
  unfold exactNumber at h
  dsimp only at h
  split at h
  · rename_i hexact
    obtain ⟨hlength, hall⟩ := hexact
    obtain ⟨-, rfl⟩ := Prod.mk.inj (Option.some.inj h)
    refine ⟨_, ⟨fun hnil => ?_, List.all_eq_true.mp hall⟩, (List.take_append_drop _ s).symm⟩
    rw [hnil] at hlength
    cases hlength
  · cases h

/-- **A month begins with a letter** that no power of ten begins with. -/
theorem stopsNumber_of_namedMonth {s rest : List Char} {n : Nat}
    (h : namedMonth s = some (n, rest)) : ∃ c t, s = c :: t ∧ stopsNumber c = true := by
  obtain ⟨i, hi, -⟩ := Option.map_eq_some_iff.mp h
  obtain ⟨hlt, hname, -⟩ := List.findIdx?_eq_some_iff_getElem.mp hi
  have hmem : (s.take 3).map Char.toLower ∈ monthNames := by
    rw [← eq_of_beq hname]
    exact List.getElem_mem hlt
  cases s with
  | nil => exact absurd hmem (by decide)
  | cons c t =>
    have hinitial : ∀ name ∈ monthNames,
        (name.head?.all fun d => d != 'e' && decide (97 ≤ d.toNat)) = true := by decide
    obtain ⟨hletter, hfrom⟩ := Bool.and_eq_true_iff.mp (hinitial _ hmem)
    have hletter : c.toLower ≠ 'e' := bne_iff_ne.mp hletter
    have hfrom : 97 ≤ c.toLower.toNat := of_decide_eq_true hfrom
    refine ⟨c, t, rfl, stopsNumber_iff.mpr ⟨?_, ?_, ?_, ?_⟩⟩
    · refine Bool.eq_false_iff.mpr fun hdigit => ?_
      have hcode := toNat_of_isDigit hdigit
      rw [toLower_eq_self (by omega)] at hfrom
      omega
    · rintro rfl
      exact absurd hfrom (by decide)
    · rintro rfl
      exact hletter rfl
    · rintro rfl
      exact hletter rfl

/-! ## Layouts -/

/-- Whether a number and a point are what a layout begins with. -/
def Layout.beginsWithPoint : Layout → Bool
  | .loose _ :: .oneOf ['.'] :: _ => true
  | _ => false

/-- **A layout that tells itself from a number** by what follows its first
number: a character that no number has, the name of a month, or a point if a
second number with a point follows. -/
def Layout.isTold : Layout → Bool
  | .loose _ :: .oneOf [c] :: layout => stopsNumber c || c == '.' && beginsWithPoint layout
  | .exact _ (_ + 1) :: .oneOf [c] :: _ => stopsNumber c
  | .loose _ :: .blanks :: .monthName :: _ => true
  | _ => false

/-- All layouts tell themselves from a number. -/
theorem isTold_of_mem_all : ∀ layout ∈ Layout.all, layout.isTold = true := by decide

variable {s rest : List Char} {m m' : Moment} {c : Char}

/-- Reading a layout reads its first part and then the others. -/
theorem exists_of_read_cons {part : Part} {layout : Layout}
    (h : Layout.read (part :: layout) m s = some m') :
    ∃ m₁ rest, part.read m s = some (m₁, rest) ∧ layout.read m₁ rest = some m' := by
  obtain ⟨⟨m₁, rest⟩, hpart, hlayout⟩ := Option.bind_eq_some_iff.mp h
  exact ⟨m₁, rest, hpart, hlayout⟩

theorem exists_of_read_loose {field : Field} (h : (Part.loose field).read m s = some (m', rest)) :
    ∃ n, looseNumber field s = some (n, rest) := by
  obtain ⟨⟨n, rest'⟩, hn, heq⟩ := Option.map_eq_some_iff.mp h
  obtain ⟨-, rfl⟩ := Prod.mk.inj heq
  exact ⟨n, hn⟩

/-- A text that has one character next begins with it. -/
theorem eq_cons_of_read_oneOf (h : (Part.oneOf [c]).read m s = some (m', rest)) :
    s = c :: rest := by
  cases s with
  | nil => cases h
  | cons d t =>
    change (if [c].contains d then some (m, t) else none) = _ at h
    split at h
    · rename_i hd
      obtain ⟨-, rfl⟩ := Prod.mk.inj (Option.some.inj h)
      rw [List.mem_singleton.mp (List.contains_iff_mem.mp hd)]
    · cases h

/-- **A number with a point is no power of ten** after the digits it may begin
with. -/
theorem exists_dropWhile_of_read {layout : Layout} (point : layout.beginsWithPoint = true)
    (h : layout.read m s = some m') :
    ∃ d t, s.dropWhile Char.isDigit = d :: t ∧ d ≠ 'e' ∧ d ≠ 'E' := by
  rcases blank_or_trimLeft_eq s with ⟨b, t, rfl, hb⟩ | hs
  · exact ⟨b, t, List.dropWhile_cons_of_neg (Bool.eq_false_iff.mp (isDigit_of_isBlank hb)),
      ne_of_isBlank hb (by decide), ne_of_isBlank hb (by decide)⟩
  unfold Layout.beginsWithPoint at point
  split at point
  · obtain ⟨m₁, rest₁, hnumber, hrest⟩ := exists_of_read_cons h
    obtain ⟨m₂, rest₂, hpoint, -⟩ := exists_of_read_cons hrest
    obtain ⟨n, hn⟩ := exists_of_read_loose hnumber
    obtain rfl := eq_cons_of_read_oneOf hpoint
    obtain ⟨negative, digits, hdigits, hsign⟩ := exists_of_looseNumber hn hs
    unfold Decimal.splitSign at hsign
    split at hsign
    · exact ⟨'-', _, rfl, by decide, by decide⟩
    · exact ⟨'+', _, rfl, by decide, by decide⟩
    · obtain ⟨-, rfl⟩ := Prod.mk.inj hsign
      exact ⟨'.', rest₂, (scan_digits_append hdigits.2 rfl rest₂).2, by decide, by decide⟩
  · cases point

/-- **After the day there is no number** where a month is named. -/
theorem exists_cons_of_namedMonth {n : Nat} (h : namedMonth (trimLeft s) = some (n, rest)) :
    ∃ c t, s = c :: t ∧ stopsNumber c = true := by
  rcases blank_or_trimLeft_eq s with ⟨b, t, rfl, hb⟩ | hs
  · exact ⟨b, t, rfl, stopsNumber_of_isBlank hb⟩
  · rw [hs] at h
    exact stopsNumber_of_namedMonth h

/-- **A text in a layout that tells itself from a number** is no double. -/
theorem double?_eq_none_of_read {layout : Layout} (told : layout.isTold = true)
    (h : layout.read m s = some m') : double? s = none := by
  rcases blank_or_trimLeft_eq s with ⟨b, t, rfl, hb⟩ | hs
  · exact double?_cons_of_isBlank hb t
  unfold Layout.isTold at told
  split at told
  · obtain ⟨m₁, rest₁, hnumber, hrest⟩ := exists_of_read_cons h
    obtain ⟨m₂, rest₂, hone, hlayout⟩ := exists_of_read_cons hrest
    obtain ⟨n, hn⟩ := exists_of_read_loose hnumber
    obtain rfl := eq_cons_of_read_oneOf hone
    obtain ⟨negative, digits, hdigits, hsign⟩ := exists_of_looseNumber hn hs
    refine hdigits.double?_eq_none hsign ?_
    rcases Bool.or_eq_true_iff.mp told with hends | hpoints
    · exact unsigned?_append_eq_none hdigits.2 hends rest₂
    · obtain ⟨hpoint, hsecond⟩ := Bool.and_eq_true_iff.mp hpoints
      obtain rfl := eq_of_beq hpoint
      obtain ⟨d, t, hdrop, hlower, hupper⟩ := exists_dropWhile_of_read hsecond hlayout
      exact unsigned?_append_point_eq_none hdigits.2 hdrop hlower hupper
  · obtain ⟨m₁, rest₁, hnumber, hrest⟩ := exists_of_read_cons h
    obtain ⟨m₂, rest₂, hone, -⟩ := exists_of_read_cons hrest
    obtain ⟨⟨n, rest'⟩, hn, heq⟩ := Option.map_eq_some_iff.mp hnumber
    obtain ⟨-, rfl⟩ := Prod.mk.inj heq
    obtain rfl := eq_cons_of_read_oneOf hone
    obtain ⟨digits, hdigits, rfl⟩ := exists_of_exactNumber hn
    exact hdigits.double?_eq_none (hdigits.splitSign_append _)
      (unsigned?_append_eq_none hdigits.2 told rest₂)
  · obtain ⟨m₁, rest₁, hnumber, hrest⟩ := exists_of_read_cons h
    obtain ⟨m₂, rest₂, hblanks, hlayout⟩ := exists_of_read_cons hrest
    obtain ⟨m₃, rest₃, hmonth, -⟩ := exists_of_read_cons hlayout
    obtain ⟨n, hn⟩ := exists_of_read_loose hnumber
    obtain ⟨-, rfl⟩ := Prod.mk.inj (Option.some.inj hblanks)
    obtain ⟨⟨k, rest'⟩, hk, -⟩ := Option.map_eq_some_iff.mp hmonth
    obtain ⟨negative, digits, hdigits, hsign⟩ := exists_of_looseNumber hn hs
    obtain ⟨c, t, rfl, hends⟩ := exists_cons_of_namedMonth hk
    exact hdigits.double?_eq_none hsign (unsigned?_append_eq_none hdigits.2 hends t)
  · cases told

/-- **No date is a number.** -/
theorem double?_eq_none_of_isDate (h : isDate s = true) : double? s = none := by
  obtain ⟨layout, hlayout, haccepts⟩ := List.any_eq_true.mp h
  unfold Layout.accepts at haccepts
  split at haccepts
  · rename_i m hread
    exact double?_eq_none_of_read (isTold_of_mem_all layout hlayout) hread
  · cases haccepts

end Calendar

end TableProfile
