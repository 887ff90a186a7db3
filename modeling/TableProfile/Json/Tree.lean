import TableProfile.Json.Literal
import TableProfile.Json.Quoted

/-!
# JSON text as a tree

Reading never fails: where the text does not follow the grammar, the tree
has a break in place of the value, and everything around it ends there.
So a tree tells in which order its values come and where the first break
is, and whoever wants to know something of a text walks its tree from the
left and meets what comes first: a break, or a value that is not of the
wanted kind.

A value may be read or only be passed over, and the two do not break at
the same places. Passing over does not look at the size of numbers nor
at halves of pairs in text, and a number that breaks off at the end of
the text is to it a wrong number and not the end.
-/

namespace TableProfile.Json

open Number

/-- **A break**: the fault when the value is read, and the fault when it
is passed over. -/
structure Break where
  /-- The fault when the value is read. -/
  read : Fault
  /-- The fault when the value is passed over. -/
  skipped : Fault
  deriving DecidableEq, Repr

/-- A break that is the same in both cases. -/
def Break.both (fault : Fault) : Break :=
  ⟨fault, fault⟩

mutual

/-- **A value as it is written.** -/
inductive Tree where
  /-- No value. -/
  | null
  /-- True or false. -/
  | flag (value : Bool)
  /-- A number. -/
  | number (literal : Literal)
  /-- A text, or one that makes no sense. -/
  | text (content : Option (List Char))
  /-- A list. -/
  | list (items : Items)
  /-- A record. -/
  | record (members : Members)
  /-- No value can be read here. -/
  | broken (why : Break)

/-- The rest of a list. -/
inductive Items where
  /-- The closing bracket. -/
  | closed
  /-- Neither an item nor the bracket. -/
  | cut (fault : Fault)
  /-- An item and what follows it. -/
  | item (head : Tree) (tail : Items)

/-- The rest of a record. -/
inductive Members where
  /-- The closing brace. -/
  | closed
  /-- Neither a member nor the brace. -/
  | cut (why : Break)
  /-- A key, its value and what follows them. -/
  | member (key : Option (List Char)) (value : Tree) (tail : Members)

end

/-! ## Scalars -/

/-- The blanks between the parts of a text. -/
def isBlank (c : Char) : Bool :=
  c = ' ' ∨ c = '\n' ∨ c = '\t' ∨ c = '\r'

/-- The text without the blanks in front of it. -/
def skipBlanks (text : List Char) : List Char :=
  text.dropWhile isBlank

theorem length_skipBlanks (text : List Char) : (skipBlanks text).length ≤ text.length :=
  (List.dropWhile_sublist _).length_le

/-- Takes the rest of a word off a text. -/
def word : List Char → List Char → Except Fault (List Char)
  | [], text => .ok text
  | _ :: _, [] => .error .unexpectedEnd
  | c :: rest, c' :: text => if c = c' then word rest text else .error .syntaxError

/-- The break in front of a text that ought to begin with a digit: if it
is at its end, whoever reads on waits for more. -/
def noDigit (text : List Char) : Break :=
  if text.isEmpty then ⟨.unexpectedEnd, .syntaxError⟩ else .both .syntaxError

/-- One or more digits, and the text after them. -/
def digits (text : List Char) : Except Break (List Char × List Char) :=
  if text.takeWhile Char.isDigit = [] then .error (noDigit text)
  else .ok (text.takeWhile Char.isDigit, text.dropWhile Char.isDigit)

/-- The whole part of a number, in which a zero stands alone. -/
def wholePart (text : List Char) : Except Break (List Char × List Char) := do
  let (whole, rest) ← digits text
  if whole.head? = some '0' ∧ whole.length ≠ 1 then .error (.both .syntaxError)
  else .ok (whole, rest)

/-- The fraction of a number, if there is one. -/
def fractionPart : List Char → Except Break (Option (List Char) × List Char)
  | '.' :: text => do
    let (fraction, rest) ← digits text
    .ok (some fraction, rest)
  | text => .ok (none, text)

/-- The sign and the digits of an exponent. -/
def exponentDigits : List Char → Except Break ((Bool × List Char) × List Char)
  | '-' :: text => do
    let (exponent, rest) ← digits text
    .ok ((true, exponent), rest)
  | '+' :: text => do
    let (exponent, rest) ← digits text
    .ok ((false, exponent), rest)
  | text => do
    let (exponent, rest) ← digits text
    .ok ((false, exponent), rest)

/-- The exponent of a number, if there is one. -/
def exponentPart : List Char → Except Break (Option (Bool × List Char) × List Char)
  | 'e' :: text | 'E' :: text => do
    let (exponent, rest) ← exponentDigits text
    .ok (some exponent, rest)
  | text => .ok (none, text)

/-- **A number** after its sign, and the text after it. -/
def numberAfterSign (negative : Bool) (text : List Char) :
    Except Break (Literal × List Char) := do
  let (whole, rest) ← wholePart text
  let (fraction, rest) ← fractionPart rest
  let (exponent, rest) ← exponentPart rest
  .ok ({ negative, whole, fraction, exponent }, rest)

/-- A value that is written as a word, after its first letter. -/
def scalarWord (value : Tree) (rest text : List Char) : Except Break (Tree × List Char) :=
  match word rest text with
  | .ok text => .ok (value, text)
  | .error fault => .error (.both fault)

/-- A quoted text after its opening quote. -/
def quotedText (text : List Char) : Except Break (Option (List Char) × List Char) :=
  match pieces text with
  | (parts, .ok rest) => .ok (content? parts, rest)
  | (parts, .error fault) => .error ⟨unfinishedFault parts fault, fault⟩

/-- **A value that is no list and no record**, by its first character. -/
def scalar (c : Char) (text : List Char) : Except Break (Tree × List Char) :=
  match c with
  | 'n' => scalarWord .null ['u', 'l', 'l'] text
  | 't' => scalarWord (.flag true) ['r', 'u', 'e'] text
  | 'f' => scalarWord (.flag false) ['a', 'l', 's', 'e'] text
  | '"' => (quotedText text).map fun (content, rest) => (.text content, rest)
  | '-' => (numberAfterSign true text).map fun (literal, rest) => (.number literal, rest)
  | c =>
    if c.isDigit then
      (numberAfterSign false (c :: text)).map fun (literal, rest) => (.number literal, rest)
    else .error (.both .syntaxError)

/-! ## Nothing is read twice -/

/-- A step of `Except` succeeds when both of its parts do. -/
theorem bind_eq_ok {ε α β : Type} {x : Except ε α} {f : α → Except ε β} {b : β} :
    (x >>= f) = .ok b ↔ ∃ a, x = .ok a ∧ f a = .ok b := by
  cases x with
  | error e => simp [bind, Except.bind]
  | ok a => simp [bind, Except.bind]

/-- A step of `Except` with its value changed succeeds when it does. -/
theorem map_eq_ok {ε α β : Type} {x : Except ε α} {f : α → β} {b : β} :
    x.map f = .ok b ↔ ∃ a, x = .ok a ∧ f a = b := by
  cases x with
  | error e => simp [Except.map]
  | ok a => simp [Except.map]

theorem length_word {rest text after : List Char} (h : word rest text = .ok after) :
    after.length ≤ text.length := by
  fun_induction word rest text with
  | case1 => simp_all
  | case2 | case4 => simp at h
  | case3 _ _ _ ih =>
    have := ih h
    simp only [List.length_cons]
    omega

theorem length_digits {text ds rest : List Char} (h : digits text = .ok (ds, rest)) :
    rest.length < text.length := by
  unfold digits at h
  split at h
  · simp at h
  · rename_i hne
    simp only [Except.ok.injEq, Prod.mk.injEq] at h
    have sum := congrArg List.length
      (List.takeWhile_append_dropWhile (p := Char.isDigit) (l := text))
    have pos := List.length_pos_iff.2 hne
    rw [List.length_append] at sum
    rw [← h.2]
    omega

theorem length_wholePart {text ds rest : List Char} (h : wholePart text = .ok (ds, rest)) :
    rest.length < text.length := by
  obtain ⟨⟨whole, rest'⟩, hd, h⟩ := bind_eq_ok.1 h
  dsimp only at h
  split at h
  · simp at h
  · simp only [Except.ok.injEq, Prod.mk.injEq] at h
    exact h.2 ▸ length_digits hd

theorem length_fractionPart {text rest : List Char} {fraction : Option (List Char)}
    (h : fractionPart text = .ok (fraction, rest)) : rest.length ≤ text.length := by
  unfold fractionPart at h
  split at h
  · obtain ⟨⟨_, _⟩, hd, h⟩ := bind_eq_ok.1 h
    simp only [Except.ok.injEq, Prod.mk.injEq] at h
    have := length_digits hd
    rw [← h.2, List.length_cons]
    omega
  · simp_all

theorem length_exponentDigits {text rest : List Char} {exponent : Bool × List Char}
    (h : exponentDigits text = .ok (exponent, rest)) : rest.length ≤ text.length := by
  unfold exponentDigits at h
  split at h <;>
    · obtain ⟨⟨_, _⟩, hd, h⟩ := bind_eq_ok.1 h
      simp only [Except.ok.injEq, Prod.mk.injEq] at h
      have := length_digits hd
      simp only [← h.2, List.length_cons]
      omega

theorem length_exponentPart {text rest : List Char} {exponent : Option (Bool × List Char)}
    (h : exponentPart text = .ok (exponent, rest)) : rest.length ≤ text.length := by
  unfold exponentPart at h
  split at h
  · obtain ⟨⟨_, _⟩, hd, h⟩ := bind_eq_ok.1 h
    simp only [Except.ok.injEq, Prod.mk.injEq] at h
    have := length_exponentDigits hd
    rw [← h.2, List.length_cons]
    omega
  · obtain ⟨⟨_, _⟩, hd, h⟩ := bind_eq_ok.1 h
    simp only [Except.ok.injEq, Prod.mk.injEq] at h
    have := length_exponentDigits hd
    rw [← h.2, List.length_cons]
    omega
  · simp_all

theorem length_numberAfterSign {negative : Bool} {text rest : List Char} {literal : Literal}
    (h : numberAfterSign negative text = .ok (literal, rest)) : rest.length < text.length := by
  obtain ⟨⟨_, _⟩, hw, h⟩ := bind_eq_ok.1 h
  obtain ⟨⟨_, _⟩, hf, h⟩ := bind_eq_ok.1 h
  obtain ⟨⟨_, _⟩, he, h⟩ := bind_eq_ok.1 h
  simp only [Except.ok.injEq, Prod.mk.injEq] at h
  have h1 := length_wholePart hw
  have h2 := length_fractionPart hf
  have h3 := length_exponentPart he
  rw [← h.2]
  omega

theorem length_quotedText {text rest : List Char} {content : Option (List Char)}
    (h : quotedText text = .ok (content, rest)) : rest.length < text.length := by
  unfold quotedText at h
  split at h
  · rename_i e
    simp only [Except.ok.injEq, Prod.mk.injEq] at h
    exact length_pieces (by rw [e, h.2])
  · simp at h

theorem length_scalarWord {value tree : Tree} {rest text after : List Char}
    (h : scalarWord value rest text = .ok (tree, after)) : after.length ≤ text.length := by
  unfold scalarWord at h
  split at h
  · rename_i e
    simp only [Except.ok.injEq, Prod.mk.injEq] at h
    exact h.2 ▸ length_word e
  · simp at h

/-- **A scalar leaves less text than there was with its first character.** -/
theorem length_scalar {c : Char} {text rest : List Char} {tree : Tree}
    (h : scalar c text = .ok (tree, rest)) : rest.length ≤ text.length := by
  unfold scalar at h
  split at h
  · exact length_scalarWord h
  · exact length_scalarWord h
  · exact length_scalarWord h
  · obtain ⟨⟨_, _⟩, e, h⟩ := map_eq_ok.1 h
    have := length_quotedText e
    simp only [Prod.mk.injEq] at h
    rw [← h.2]
    omega
  · obtain ⟨⟨_, _⟩, e, h⟩ := map_eq_ok.1 h
    have := length_numberAfterSign e
    simp only [Prod.mk.injEq] at h
    rw [← h.2]
    omega
  · split at h
    · obtain ⟨⟨_, _⟩, e, h⟩ := map_eq_ok.1 h
      have := length_numberAfterSign e
      simp only [Prod.mk.injEq, List.length_cons] at h this
      rw [← h.2]
      omega
    · simp at h

/-! ## Lists and records -/

/-- A text that is shorter than another. -/
abbrev Shorter (text : List Char) : Type :=
  { rest : List Char // rest.length < text.length }

/-- What is shorter than a text is shorter than a longer one, too. -/
def Shorter.within {text : List Char} (rest : Shorter text) {whole : List Char}
    (h : text.length ≤ whole.length) : Shorter whole :=
  ⟨rest.1, Nat.lt_of_lt_of_le rest.2 h⟩

/-- The first character of a text that is no blank, and what follows it. -/
def firstCharacter? (text : List Char) : Option (Char × Shorter text) :=
  match h : skipBlanks text with
  | [] => none
  | c :: rest =>
    some (c, ⟨rest, Nat.lt_of_lt_of_le (h ▸ Nat.lt_succ_self _) (length_skipBlanks text)⟩)

/-- What stands in front of an item of a list. -/
inductive ItemStep (text : List Char) where
  /-- There is no item, but the closing bracket. -/
  | closed (rest : Shorter text)
  /-- There is neither. -/
  | cut (fault : Fault)
  /-- An item begins the text, or stands behind a comma. -/
  | item (start : { rest : List Char // rest.length ≤ text.length })

/-- Looks for an item; all but the first have a comma in front. -/
def itemStep (first : Bool) (text : List Char) : ItemStep text :=
  match firstCharacter? text with
  | none => .cut .unexpectedEnd
  | some (c, rest) =>
    if c = ']' then .closed rest
    else if first then .item ⟨text, Nat.le_refl _⟩
    else if c = ',' then .item ⟨rest.1, Nat.le_of_lt rest.2⟩
    else .cut .syntaxError

/-- What stands in front of the value of a member of a record. -/
inductive MemberStep (text : List Char) where
  /-- There is no member, but the closing brace. -/
  | closed (rest : Shorter text)
  /-- There is neither. -/
  | cut (why : Break)
  /-- A key and its colon, and then the value. -/
  | member (key : Option (List Char)) (start : Shorter text)
  /-- A key without its colon. -/
  | bareKey (key : Option (List Char)) (fault : Fault)

/-- Looks for a key at the beginning of a text. -/
def keyStep (text : List Char) : MemberStep text :=
  match firstCharacter? text with
  | none => .cut (.both .unexpectedEnd)
  | some (c, inside) =>
    if c = '"' then
      match h : quotedText inside.1 with
      | .error why => .cut why
      | .ok (key, rest) =>
        match firstCharacter? rest with
        | none => .bareKey key .unexpectedEnd
        | some (c, rest') =>
          if c = ':' then
            .member key (rest'.within
              (Nat.le_of_lt (Nat.lt_trans (length_quotedText h) inside.2)))
          else .bareKey key .syntaxError
    else .cut (.both .syntaxError)

/-- The same step of a longer text. -/
def MemberStep.within {text whole : List Char} (h : text.length ≤ whole.length) :
    MemberStep text → MemberStep whole
  | closed rest => closed (rest.within h)
  | cut why => cut why
  | member key start => member key (start.within h)
  | bareKey key fault => bareKey key fault

/-- Looks for a member; all but the first have a comma in front. -/
def memberStep (first : Bool) (text : List Char) : MemberStep text :=
  match firstCharacter? text with
  | none => .cut (.both .unexpectedEnd)
  | some (c, rest) =>
    if c = '}' then .closed rest
    else if first then keyStep text
    else if c = ',' then (keyStep rest.1).within (Nat.le_of_lt rest.2)
    else .cut (.both .syntaxError)

mutual

/-- **The value that a text begins with**, and the text after it, if the
value is whole. -/
def readValue (text : List Char) : Tree × Option (Shorter text) :=
  match firstCharacter? text with
  | none => (.broken (.both .unexpectedEnd), none)
  | some (c, rest) =>
    if c = '[' then
      let (items, after) := readItems true rest.1
      (.list items, after.map (·.within (Nat.le_of_lt rest.2)))
    else if c = '{' then
      let (members, after) := readMembers true rest.1
      (.record members, after.map (·.within (Nat.le_of_lt rest.2)))
    else
      match h : scalar c rest.1 with
      | .ok (tree, after) =>
        (tree, some ⟨after, Nat.lt_of_le_of_lt (length_scalar h) rest.2⟩)
      | .error why => (.broken why, none)
termination_by (text.length, 0)
decreasing_by all_goals exact Prod.Lex.left _ _ rest.2

/-- The items up to the closing bracket. -/
def readItems (first : Bool) (text : List Char) : Items × Option (Shorter text) :=
  match itemStep first text with
  | .closed rest => (.closed, some rest)
  | .cut fault => (.cut fault, none)
  | .item start =>
    match readValue start.1 with
    | (head, none) => (.item head (.cut .syntaxError), none)
    | (head, some after) =>
      let (tail, last) := readItems false after.1
      (.item head tail,
        last.map (·.within (Nat.le_of_lt (Nat.lt_of_lt_of_le after.2 start.2))))
termination_by (text.length, 1)
decreasing_by
  · rcases Nat.lt_or_eq_of_le start.2 with h | h
    · exact Prod.Lex.left _ _ h
    · rw [h]
      exact Prod.Lex.right _ Nat.zero_lt_one
  · exact Prod.Lex.left _ _ (Nat.lt_of_lt_of_le after.2 start.2)

/-- The members up to the closing brace. -/
def readMembers (first : Bool) (text : List Char) : Members × Option (Shorter text) :=
  match memberStep first text with
  | .closed rest => (.closed, some rest)
  | .cut why => (.cut why, none)
  | .bareKey key fault =>
    (.member key (.broken (.both fault)) (.cut (.both .syntaxError)), none)
  | .member key start =>
    match readValue start.1 with
    | (head, none) => (.member key head (.cut (.both .syntaxError)), none)
    | (head, some after) =>
      let (tail, last) := readMembers false after.1
      (.member key head tail,
        last.map (·.within (Nat.le_of_lt (Nat.lt_trans after.2 start.2))))
termination_by (text.length, 1)
decreasing_by
  · exact Prod.Lex.left _ _ start.2
  · exact Prod.Lex.left _ _ (Nat.lt_trans after.2 start.2)

end

/-! ## Passing over -/

mutual

/-- **The fault met when a value is passed over**, if there is one. -/
def Tree.skipFault? : Tree → Option Fault
  | .null | .flag _ | .number _ | .text _ => none
  | .list items => items.skipFault?
  | .record members => members.skipFault?
  | .broken why => some why.skipped

/-- The first fault met when the items are passed over. -/
def Items.skipFault? : Items → Option Fault
  | .closed => none
  | .cut fault => some fault
  | .item head tail => head.skipFault?.or tail.skipFault?

/-- The first fault met when the members are passed over. -/
def Members.skipFault? : Members → Option Fault
  | .closed => none
  | .cut why => some why.skipped
  | .member _ value tail => value.skipFault?.or tail.skipFault?

end

end TableProfile.Json
