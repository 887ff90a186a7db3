import TableProfile.Json.Tree
import TableProfile.Json.Value

/-!
# Numbers as they are written

A number that is written is a literal: it has a whole part, perhaps a fraction
and perhaps an exponent, each one digit at least, and no zero in front of a
longer whole part. The literal of a whole number has its digits and nothing
else (`integerLiteral`). The literal of a finite float is laid out from its
shortest decimal (`floatLiteral`): with the point among the digits, or with a
power of ten.

A well-formed literal may be written in several ways, since the letter and the
sign of an exponent are free (`Literal.Spells`). In each of them it is read back
as it is, whatever follows it, as long as what follows does not go on with the
number (`numberAfterSign_append`).
-/

namespace TableProfile

namespace Number

/-! ## Digits -/

/-- **A run of digits**, one at least. -/
def IsDigits (ds : List Char) : Prop :=
  ds ≠ [] ∧ ∀ c ∈ ds, c.isDigit = true

theorem IsDigits.append {ds ds' : List Char} (h : IsDigits ds)
    (h' : ∀ c ∈ ds', c.isDigit = true) : IsDigits (ds ++ ds') := by
  refine ⟨List.append_ne_nil_of_left_ne_nil h.1 _, fun c hc => ?_⟩
  rcases List.mem_append.mp hc with hc | hc
  · exact h.2 c hc
  · exact h' c hc

theorem isDigits_zero : IsDigits ['0'] :=
  ⟨List.cons_ne_nil _ _, List.forall_mem_singleton.mpr rfl⟩

theorem isDigit_of_mem_replicate {n : Nat} {c : Char} (h : c ∈ List.replicate n '0') :
    c.isDigit = true := by
  rw [List.eq_of_mem_replicate h]
  rfl

theorem isDigits_naturalText (n : Nat) : IsDigits (naturalText n) :=
  ⟨Nat.toDigits_ne_nil, fun _ hc =>
    Nat.isDigit_of_mem_toDigits (Nat.succ_pos _) (Nat.le_refl _) hc⟩

/-- **The digits of a number read as it.** -/
theorem digitsValue_naturalText (n : Nat) : digitsValue (naturalText n) = n :=
  Nat.ofDigitChars_ten_toDigits

/-- Only zero begins with a zero. -/
theorem head?_naturalText_ne {n : Nat} (pos : 0 < n) : (naturalText n).head? ≠ some '0' := by
  unfold naturalText
  induction n using Nat.strongRecOn with
  | ind n ih =>
    rw [Nat.toDigits_eq_if (Nat.lt_add_one_iff.mpr (by decide) : 1 < 10)]
    split
    · rename_i hlt
      have hdigit : ∀ d < 10, 0 < d → Nat.digitChar d ≠ '0' := by decide
      exact fun h => hdigit n hlt pos (Option.some.inj h)
    · rename_i hge
      have hdiv : 0 < n / 10 := Nat.div_pos (Nat.not_lt.mp hge) (by decide)
      rw [List.head?_append, Option.or_of_isSome (List.isSome_head?.mpr Nat.toDigits_ne_nil)]
      exact ih (n / 10) (Nat.div_lt_self pos (by decide)) hdiv

end Number

namespace Json

open Number

/-! ## Literals -/

namespace Literal

/-- The text of a fraction. -/
def fractionText : Option (List Char) → List Char
  | none => []
  | some fraction => '.' :: fraction

/-- The text of an exponent, which always has a sign. -/
def exponentText : Option (Bool × List Char) → List Char
  | none => []
  | some (negative, exponent) => 'e' :: (if negative then '-' else '+') :: exponent

theorem exponentText_decide (p : Prop) [Decidable p] (exponent : List Char) :
    exponentText (some (decide p, exponent)) = 'e' :: (if p then '-' else '+') :: exponent := by
  unfold exponentText
  by_cases h : p
  · rw [decide_eq_true h, if_pos h]
    rfl
  · rw [decide_eq_false h, if_neg h]
    rfl

/-- The text of a literal after its sign. -/
def unsignedText (l : Literal) : List Char :=
  l.whole ++ (fractionText l.fraction ++ exponentText l.exponent)

/-- **The text of a literal.** -/
def text (l : Literal) : List Char :=
  if l.negative then '-' :: l.unsignedText else l.unsignedText

/-- **A literal that follows the grammar.** -/
structure IsWellFormed (l : Literal) : Prop where
  /-- The whole part has digits. -/
  whole : IsDigits l.whole
  /-- A zero in front stands alone. -/
  leading : l.whole.head? = some '0' → l.whole.length = 1
  /-- A fraction has digits. -/
  fraction : ∀ ds ∈ l.fraction, IsDigits ds
  /-- An exponent has digits. -/
  exponent : ∀ e ∈ l.exponent, IsDigits e.2

/-- **The ways to write an exponent**: behind a small letter or a capital one,
and a positive one with a sign or without. -/
inductive SpellsExponent : Option (Bool × List Char) → List Char → Prop where
  /-- There is none. -/
  | absent : SpellsExponent none []
  /-- A negative one. -/
  | minus {e : Char} {ds : List Char} (letter : e = 'e' ∨ e = 'E') (digits : IsDigits ds) :
      SpellsExponent (some (true, ds)) (e :: '-' :: ds)
  /-- A positive one with its sign. -/
  | plus {e : Char} {ds : List Char} (letter : e = 'e' ∨ e = 'E') (digits : IsDigits ds) :
      SpellsExponent (some (false, ds)) (e :: '+' :: ds)
  /-- A positive one without a sign. -/
  | bare {e : Char} {ds : List Char} (letter : e = 'e' ∨ e = 'E') (digits : IsDigits ds) :
      SpellsExponent (some (false, ds)) (e :: ds)

/-- The text of a sign. -/
def signText (negative : Bool) : List Char :=
  if negative then ['-'] else []

/-- **The ways to write a literal.** -/
inductive Spells (l : Literal) : List Char → Prop where
  /-- The sign, the whole part, the fraction and the exponent. -/
  | parts {power : List Char} (wellFormed : l.IsWellFormed)
      (exponent : SpellsExponent l.exponent power) :
      Spells l (signText l.negative ++ (l.whole ++ (fractionText l.fraction ++ power)))

theorem spellsExponent_exponentText {exponent : Option (Bool × List Char)}
    (h : ∀ e ∈ exponent, IsDigits e.2) : SpellsExponent exponent (exponentText exponent) := by
  cases exponent with
  | none => exact .absent
  | some e =>
    obtain ⟨negative, ds⟩ := e
    cases negative with
    | true => exact .minus (.inl rfl) (h _ rfl)
    | false => exact .plus (.inl rfl) (h _ rfl)

/-- The text of a literal is one of the ways to write it. -/
theorem IsWellFormed.spells_text {l : Literal} (h : l.IsWellFormed) : l.Spells l.text := by
  have htext : l.text = signText l.negative ++ l.unsignedText := by
    unfold text signText
    cases l.negative <;> rfl
  rw [htext]
  exact .parts h (spellsExponent_exponentText h.exponent)

end Literal

/-- Whether a character may go on with a number. -/
def continuesNumber (c : Char) : Bool :=
  c.isDigit || c == '.' || c == 'e' || c == 'E'

/-- **A text that ends a number in front of it.** -/
def EndsNumber (text : List Char) : Prop :=
  ∀ c ∈ text.head?, continuesNumber c = false

theorem endsNumber_nil : EndsNumber [] :=
  fun _ h => absurd h (Option.not_mem_none _)

theorem endsNumber_cons {c : Char} (h : continuesNumber c = false) (text : List Char) :
    EndsNumber (c :: text) :=
  fun _ hc => (Option.mem_some.mp hc) ▸ h

section Reading

variable {tail : List Char}

theorem digits_append {ds : List Char} (h : IsDigits ds)
    (ends : ∀ c ∈ tail.head?, c.isDigit = false) : digits (ds ++ tail) = .ok (ds, tail) := by
  have htake : tail.takeWhile Char.isDigit = [] := by
    cases tail with
    | nil => rfl
    | cons c rest => exact List.takeWhile_cons_of_neg (by rw [ends c rfl]; exact Bool.false_ne_true)
  have hdrop : tail.dropWhile Char.isDigit = tail := by
    cases tail with
    | nil => rfl
    | cons c rest => exact List.dropWhile_cons_of_neg (by rw [ends c rfl]; exact Bool.false_ne_true)
  unfold digits
  rw [List.takeWhile_append_of_pos h.2, List.dropWhile_append_of_pos h.2, htake, hdrop,
    List.append_nil, if_neg h.1]

theorem wholePart_append {ds : List Char} (h : IsDigits ds)
    (leading : ds.head? = some '0' → ds.length = 1)
    (ends : ∀ c ∈ tail.head?, c.isDigit = false) : wholePart (ds ++ tail) = .ok (ds, tail) := by
  unfold wholePart
  rw [digits_append h ends]
  exact if_neg fun ⟨hzero, hlong⟩ => hlong (leading hzero)

theorem fractionPart_append {fraction : Option (List Char)} (h : ∀ ds ∈ fraction, IsDigits ds)
    (ends : ∀ c ∈ tail.head?, c.isDigit = false ∧ c ≠ '.') :
    fractionPart (Literal.fractionText fraction ++ tail) = .ok (fraction, tail) := by
  cases fraction with
  | none =>
    show fractionPart tail = _
    unfold fractionPart
    split
    · rename_i rest
      exact absurd rfl (ends '.' rfl).2
    · rfl
  | some ds =>
    show fractionPart ('.' :: (ds ++ tail)) = _
    rw [fractionPart, digits_append (h ds rfl) fun c hc => (ends c hc).1]
    rfl

theorem exponentPart_append {exponent : Option (Bool × List Char)} {power : List Char}
    (h : Literal.SpellsExponent exponent power)
    (ends : ∀ c ∈ tail.head?, c.isDigit = false ∧ c ≠ 'e' ∧ c ≠ 'E') :
    exponentPart (power ++ tail) = .ok (exponent, tail) := by
  -- behind the letter, whichever it is
  have hletter : ∀ {e : Char} {text : List Char} {negative : Bool} {ds : List Char},
      e = 'e' ∨ e = 'E' → exponentDigits text = .ok ((negative, ds), tail) →
        exponentPart (e :: text) = .ok (some (negative, ds), tail) := by
    rintro e text negative ds (rfl | rfl) hdigits
    · rw [exponentPart, hdigits]
      rfl
    · rw [exponentPart, hdigits]
      rfl
  have hends : ∀ c ∈ tail.head?, c.isDigit = false := fun c hc => (ends c hc).1
  cases h with
  | absent =>
    rw [List.nil_append]
    unfold exponentPart
    split
    · exact absurd rfl (ends 'e' rfl).2.1
    · exact absurd rfl (ends 'E' rfl).2.2
    · rfl
  | @minus e ds letter hdigits =>
    refine @hletter e ('-' :: (ds ++ tail)) true ds letter ?_
    rw [exponentDigits, digits_append hdigits hends]
    rfl
  | @plus e ds letter hdigits =>
    refine @hletter e ('+' :: (ds ++ tail)) false ds letter ?_
    rw [exponentDigits, digits_append hdigits hends]
    rfl
  | @bare e ds letter hdigits =>
    refine @hletter e (ds ++ tail) false ds letter ?_
    obtain ⟨d, ds', rfl⟩ := List.exists_cons_of_ne_nil hdigits.1
    have hd := hdigits.2 d List.mem_cons_self
    -- a digit is no sign
    rw [exponentDigits, digits_append hdigits hends]
    · rfl
    · rintro text heq
      obtain ⟨rfl, -⟩ := List.cons.inj heq
      cases hd
    · rintro text heq
      obtain ⟨rfl, -⟩ := List.cons.inj heq
      cases hd

theorem EndsNumber.facts (h : EndsNumber tail) :
    ∀ c ∈ tail.head?, c.isDigit = false ∧ c ≠ '.' ∧ c ≠ 'e' ∧ c ≠ 'E' := by
  intro c hc
  have hc := h c hc
  unfold continuesNumber at hc
  rw [Bool.or_eq_false_iff, Bool.or_eq_false_iff, Bool.or_eq_false_iff] at hc
  obtain ⟨⟨⟨hdigit, hpoint⟩, he⟩, hE⟩ := hc
  exact ⟨hdigit, beq_eq_false_iff_ne.mp hpoint, beq_eq_false_iff_ne.mp he,
    beq_eq_false_iff_ne.mp hE⟩

/-- **A literal is read back**, if nothing after it goes on with the number. -/
theorem numberAfterSign_append {l : Literal} {power : List Char} (h : l.IsWellFormed)
    (exponent : Literal.SpellsExponent l.exponent power) (ends : EndsNumber tail) :
    numberAfterSign l.negative (l.whole ++ (Literal.fractionText l.fraction ++ (power ++ tail)))
      = .ok (l, tail) := by
  have hends := ends.facts
  have hpower : ∀ c ∈ (power ++ tail).head?, c.isDigit = false ∧ c ≠ '.' := by
    generalize l.exponent = written at exponent
    cases exponent with
    | absent => exact fun c hc => ⟨(hends c hc).1, (hends c hc).2.1⟩
    | minus letter _ | plus letter _ | bare letter _ =>
      rintro c hc
      obtain rfl := Option.mem_some.mp hc
      rcases letter with rfl | rfl
      · decide
      · decide
  have hpoint : ∀ c ∈ (Literal.fractionText l.fraction ++ (power ++ tail)).head?,
      c.isDigit = false := by
    cases l.fraction with
    | none => exact fun c hc => (hpower c hc).1
    | some ds => exact fun c hc => (Option.mem_some.mp hc) ▸ rfl
  unfold numberAfterSign
  rw [wholePart_append h.whole h.leading hpoint]
  refine bind_eq_ok.mpr ⟨_, rfl, bind_eq_ok.mpr ⟨_, fractionPart_append h.fraction hpower, ?_⟩⟩
  have hexponent := exponentPart_append exponent fun c hc => ⟨(hends c hc).1, (hends c hc).2.2⟩
  exact bind_eq_ok.mpr ⟨_, hexponent, rfl⟩

end Reading

/-! ## Whole numbers -/

/-- **The literal of a whole number.** -/
def integerLiteral (n : Int) : Literal :=
  { negative := n < 0, whole := naturalText n.natAbs }

theorem text_integerLiteral (n : Int) : (integerLiteral n).text = integerText n := by
  have hunsigned : (integerLiteral n).unsignedText = naturalText n.natAbs := List.append_nil _
  unfold Literal.text integerText
  rw [hunsigned]
  by_cases h : n < 0
  · rw [if_pos h]
    exact if_pos (decide_eq_true h)
  · rw [if_neg h]
    exact if_neg (mt of_decide_eq_true h)

theorem isWellFormed_integerLiteral (n : Int) : (integerLiteral n).IsWellFormed where
  whole := isDigits_naturalText _
  leading h := by
    rcases Nat.eq_zero_or_pos n.natAbs with hzero | hpos
    · show (naturalText n.natAbs).length = 1
      rw [hzero]
      rfl
    · exact absurd h (head?_naturalText_ne hpos)
  fraction _ h := absurd h (Option.not_mem_none _)
  exponent _ h := absurd h (Option.not_mem_none _)

/-- **The literal of a whole number stands for it**, if sixty-four bits hold
it. -/
theorem quantity?_integerLiteral {n : Int} (least : -int64Limit ≤ n) (greatest : n < UInt64.size) :
    (integerLiteral n).quantity? = some (.integer n) := by
  have hinteger : (integerLiteral n).integer? = some n := by
    unfold Literal.integer? integerLiteral
    dsimp only
    rw [digitsValue_naturalText]
    by_cases hneg : n < 0
    · have hbounds : n.natAbs ≠ 0 ∧ (n.natAbs : Int) ≤ int64Limit := by omega
      rw [if_pos (decide_eq_true hneg), if_pos hbounds]
      exact congrArg some (by omega)
    · have hbound : n.natAbs < UInt64.size := by omega
      rw [if_neg (mt of_decide_eq_true hneg), if_pos hbound]
      exact congrArg some (by omega)
  unfold Literal.quantity?
  rw [hinteger]

end Json

namespace Number

open Json

/-! ## Floats -/

namespace Magnitude

/-- **How a decimal is laid out**: its digits with a point among them, or the
first digit, the others behind a point and a power of ten. -/
def literal (style : Positional) (negative : Bool) (d : Magnitude) : Literal :=
  let digits := naturalText d.digits
  let leading := d.exponent + digits.length - 1
  if style.least ≤ leading ∧ leading ≤ style.greatest then
    if 0 ≤ d.exponent then
      { negative
        whole := digits ++ List.replicate d.exponent.toNat '0'
        fraction := some ['0'] }
    else if 0 ≤ leading then
      { negative
        whole := digits.take (leading.toNat + 1)
        fraction := some (digits.drop (leading.toNat + 1)) }
    else
      { negative
        whole := ['0']
        fraction := some (List.replicate (-leading - 1).toNat '0' ++ digits) }
  else
    { negative
      whole := digits.take 1
      fraction := if digits.length = 1 then none else some (digits.drop 1)
      exponent := some (leading < 0, naturalText leading.natAbs) }

theorem unsignedText_literal (style : Positional) (negative : Bool) (d : Magnitude) :
    (d.literal style negative).unsignedText = d.text style := by
  unfold literal text Literal.unsignedText
  dsimp only
  split
  · split
    · exact List.append_assoc _ _ _ ▸ rfl
    · split
      · exact congrArg _ (List.append_nil _)
      · exact congrArg ('0' :: '.' :: ·) (List.append_nil _)
  · dsimp only
    rw [Literal.exponentText_decide]
    cases hdigits : naturalText d.digits with
    | nil => exact absurd hdigits (isDigits_naturalText d.digits).1
    | cons first rest =>
      cases rest with
      | nil => rfl
      | cons second rest => rfl

/-- **A decimal above zero is laid out as the grammar wants it.** -/
theorem isWellFormed_literal (style : Positional) (negative : Bool) {d : Magnitude}
    (pos : 0 < d.digits) : (d.literal style negative).IsWellFormed := by
  have hdigits := isDigits_naturalText d.digits
  have hhead := head?_naturalText_ne pos
  have hlength := List.length_pos_iff.mpr hdigits.1
  have htake : ∀ n, IsDigits ((naturalText d.digits).take (n + 1)) := fun n =>
    ⟨fun h => hdigits.1 ((List.take_eq_nil_iff.mp h).resolve_left (Nat.succ_ne_zero n)),
      fun c hc => hdigits.2 c (List.mem_of_mem_take hc)⟩
  have hdrop : ∀ n, n < (naturalText d.digits).length → IsDigits ((naturalText d.digits).drop n) :=
    fun n hn => ⟨fun h => Nat.not_le.mpr hn (List.drop_eq_nil_iff.mp h),
      fun c hc => hdigits.2 c (List.mem_of_mem_drop hc)⟩
  have hhead_append : ∀ ds, (naturalText d.digits ++ ds).head? ≠ some '0' := fun ds => by
    rwa [List.head?_append, Option.or_of_isSome (List.isSome_head?.mpr hdigits.1)]
  have hhead_take : ∀ n, ((naturalText d.digits).take (n + 1)).head? ≠ some '0' := fun n => by
    rwa [List.head?_take, if_neg (Nat.succ_ne_zero n)]
  unfold literal
  dsimp only
  split
  · split
    · exact {
        whole := hdigits.append fun _ => isDigit_of_mem_replicate
        leading := fun h => absurd h (hhead_append _)
        fraction := fun ds h => (Option.mem_some.mp h) ▸ isDigits_zero
        exponent := fun _ h => absurd h (Option.not_mem_none _) }
    · split
      · exact {
          whole := htake _
          leading := fun h => absurd h (hhead_take _)
          fraction := fun ds h => (Option.mem_some.mp h) ▸ hdrop _ (by omega)
          exponent := fun _ h => absurd h (Option.not_mem_none _) }
      · exact {
          whole := isDigits_zero
          leading := fun _ => rfl
          fraction := fun ds h => (Option.mem_some.mp h) ▸
            ⟨List.append_ne_nil_of_right_ne_nil _ hdigits.1, fun c hc =>
              (List.mem_append.mp hc).elim isDigit_of_mem_replicate (hdigits.2 c)⟩
          exponent := fun _ h => absurd h (Option.not_mem_none _) }
  · exact {
      whole := htake 0
      leading := fun h => absurd h (hhead_take 0)
      fraction := fun ds h => by
        split at h
        · exact absurd h (Option.not_mem_none _)
        · exact (Option.mem_some.mp h) ▸ hdrop 1 (by omega)
      exponent := fun e h => (Option.mem_some.mp h) ▸ isDigits_naturalText _ }

end Magnitude

theorem digits_pos_of_onGrid? {m : Nat} {e k : Int} {d : Magnitude} (h : onGrid? m e k = some d) :
    0 < d.digits := by
  unfold onGrid? at h
  extract_lets _ _ _ _ _ _ meets c _ _ pickUp at h
  split at h
  · cases h
  · rename_i hc
    have hpos := Nat.pos_of_ne_zero hc
    split at h
    · obtain rfl := Option.some.inj h
      show 0 < if pickUp then c + 1 else c
      split
      · exact Nat.succ_pos _
      · exact hpos
    · split at h
      · exact (Option.some.inj h) ▸ hpos
      · split at h
        · exact (Option.some.inj h) ▸ Nat.succ_pos _
        · cases h

theorem digits_shortest_pos {m : Nat} (pos : 0 < m) (e : Int) : 0 < (shortest m e).digits := by
  have hhit : ∀ d : Magnitude, 0 < d.digits → 0 < d.reduced.digits := by
    intro d hd
    unfold Magnitude.reduced
    split
    · exact Nat.div_pos (by omega) (by decide)
    · exact hd
  unfold shortest
  refine hhit _ ?_
  cases hfound : (List.range 22).findSome? fun (i : Nat) =>
      onGrid? m e (((m.log2 : Int) + e) * 30103 / 100000 + 2 - i) with
  | none => exact pos
  | some d =>
    obtain ⟨_, _, hgrid⟩ := List.exists_of_findSome?_eq_some hfound
    exact digits_pos_of_onGrid? hgrid

end Number

namespace Json

open Number

/-- **The literal of a finite float.** -/
def floatLiteral (x : Float) : Literal :=
  if (Binary64.parts x).1 = 0 then
    { negative := Binary64.isNegative x, whole := ['0'], fraction := some ['0'] }
  else
    (shortest (Binary64.parts x).1 (Binary64.parts x).2).literal reportNotation
      (Binary64.isNegative x)

theorem negative_floatLiteral (x : Float) : (floatLiteral x).negative = Binary64.isNegative x := by
  unfold floatLiteral Magnitude.literal
  dsimp only
  split
  · rfl
  · split
    · split
      · rfl
      · split <;> rfl
    · rfl

theorem text_floatLiteral (x : Float) : (floatLiteral x).text = finiteText reportNotation x := by
  have hunsigned : (floatLiteral x).unsignedText
      = if (Binary64.parts x).1 = 0 then ['0', '.', '0']
        else (shortest (Binary64.parts x).1 (Binary64.parts x).2).text reportNotation := by
    unfold floatLiteral
    split
    · rfl
    · exact Magnitude.unsignedText_literal _ _ _
  unfold Literal.text
  rw [negative_floatLiteral, hunsigned]
  rfl

theorem isWellFormed_floatLiteral (x : Float) : (floatLiteral x).IsWellFormed := by
  unfold floatLiteral
  split
  · exact {
      whole := isDigits_zero
      leading := fun _ => rfl
      fraction := fun ds h => (Option.mem_some.mp h) ▸ isDigits_zero
      exponent := fun _ h => absurd h (Option.not_mem_none _) }
  · rename_i hm
    exact Magnitude.isWellFormed_literal _ _ (digits_shortest_pos (Nat.pos_of_ne_zero hm) _)

end Json

end TableProfile
