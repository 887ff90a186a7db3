import TableProfile.Json.Quoted

/-!
# Quoted text is read back

Between quotes a character may stand for itself, behind a backslash or by the
number of its code unit (`Piece.Spells`). In each case it becomes one piece when
it is read, whatever comes after it, and the closing quote is the first that has
no backslash in front (`SpellsPieces.pieces_append`). So the text ends where it
ended when it was written.

The text that is written for a character is one of these ways, and its piece
stands for the character (`spells_encodeCharacter`): a control character without
a letter of its own is written as a code unit, but that is no half of a pair.
-/

namespace TableProfile.Json

/-! ## Pieces -/

/-- **The ways to write a piece of quoted text.** -/
inductive Piece.Spells : Piece → List Char → Prop where
  /-- A character that stands for itself. -/
  | plain {c : Char} (visible : ¬ c.toNat < 0x20) (quote : c ≠ '"') (backslash : c ≠ '\\') :
      Spells (.character c) [c]
  /-- A letter behind a backslash. -/
  | escaped {letter c : Char} (h : escaped? letter = some c) :
      Spells (.character c) ['\\', letter]
  /-- A code unit by its four digits. -/
  | unit {a b c d : Char} {code : Nat} (h : fourDigits? a b c d = some code) :
      Spells (.unit code) ['\\', 'u', a, b, c, d]

/-- **The ways to write pieces** one after the other. -/
inductive SpellsPieces : List Piece → List Char → Prop where
  /-- There is none. -/
  | nil : SpellsPieces [] []
  /-- A piece and those after it. -/
  | cons {piece : Piece} {parts : List Piece} {text rest : List Char} (head : piece.Spells text)
      (tail : SpellsPieces parts rest) : SpellsPieces (piece :: parts) (text ++ rest)

/-- **One piece that is written is one piece that is read.** -/
theorem Piece.Spells.pieces_append {piece : Piece} {text : List Char} (h : piece.Spells text)
    (rest : List Char) :
    pieces (text ++ rest) = (piece :: (pieces rest).1, (pieces rest).2) := by
  cases h with
  | plain visible quote backslash =>
    rw [List.singleton_append, pieces, if_neg visible]
    · exact quote
    · exact fun h _ => backslash h
    · exact fun _ _ _ _ _ h _ => backslash h
    · exact fun _ h _ => backslash h
    · exact fun _ _ h _ => backslash h
  | escaped h =>
    unfold escaped? at h
    split at h
    iterate 8
      obtain rfl := Option.some.inj h
      rfl
    cases h
  | @unit a b c d code h =>
    show pieces ('\\' :: 'u' :: a :: b :: c :: d :: rest) = _
    rw [pieces, h]

/-- **Quoted text is read as its pieces**, and reading ends behind its closing
quote. -/
theorem SpellsPieces.pieces_append {parts : List Piece} {text : List Char}
    (h : SpellsPieces parts text) (tail : List Char) :
    pieces (text ++ '"' :: tail) = (parts, .ok tail) := by
  induction h with
  | nil => rfl
  | cons head _ ih => rw [List.append_assoc, head.pieces_append, ih]

/-! ## Text that is written -/

/-- A code unit that is no half of a pair stands for its character, whatever
follows it. -/
theorem content?_unit {code : Nat} (leading : isLeading code = false)
    (trailing : isTrailing code = false) (parts : List Piece) :
    content? (.unit code :: parts) = (content? parts).map (Char.ofNat code :: ·) := by
  cases parts with
  | nil =>
    show (if isTrailing code || isLeading code then none else _) = _
    rw [trailing, leading]
    rfl
  | cons piece rest =>
    cases piece with
    | character c =>
      show (if isTrailing code || isLeading code then none else _) = _
      rw [trailing, leading]
      rfl
    | unit next =>
      show (if isTrailing code then none else if isLeading code then _ else _) = _
      rw [trailing, leading]
      rfl

/-- **The four digits of a control character** write its number. -/
theorem fourDigits?_control {n : Nat} (h : n < 0x20) :
    fourDigits? '0' '0' (hexadecimalDigit (n / 16)) (hexadecimalDigit n) = some n := by
  revert n
  decide

/-- **A character is written as one piece** that stands for it. -/
theorem spells_encodeCharacter (c : Char) :
    ∃ piece : Piece, piece.Spells (encodeCharacter c)
      ∧ ∀ parts, content? (piece :: parts) = (content? parts).map (c :: ·) := by
  unfold encodeCharacter
  split
  iterate 7 exact ⟨.character _, .escaped rfl, fun _ => rfl⟩
  rename_i hquote hbackslash _ _ _ _ _
  split
  · rename_i hcontrol
    refine ⟨.unit c.toNat, .unit (fourDigits?_control hcontrol), fun parts => ?_⟩
    have hleading : isLeading c.toNat = false := by
      unfold isLeading
      rw [decide_eq_false (by omega), Bool.false_and]
    have htrailing : isTrailing c.toNat = false := by
      unfold isTrailing
      rw [decide_eq_false (by omega), Bool.false_and]
    rw [content?_unit hleading htrailing, Char.ofNat_toNat]
  · rename_i hvisible
    exact ⟨.character c, .plain hvisible hquote hbackslash, fun _ => rfl⟩

/-- **A text is written as pieces** that stand for it. -/
theorem spells_flatMap_encodeCharacter (text : List Char) :
    ∃ parts, SpellsPieces parts (text.flatMap encodeCharacter) ∧ content? parts = some text := by
  induction text with
  | nil => exact ⟨[], .nil, rfl⟩
  | cons c text ih =>
    obtain ⟨parts, hparts, hcontent⟩ := ih
    obtain ⟨piece, hpiece, hfirst⟩ := spells_encodeCharacter c
    refine ⟨piece :: parts, .cons hpiece hparts, ?_⟩
    rw [hfirst, hcontent, Option.map_some]

end TableProfile.Json
