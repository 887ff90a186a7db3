import TableProfile.Json.Tree
import TableProfile.Proofs.NumberText
import TableProfile.Proofs.QuotedText

/-!
# The texts of a tree

A value may be laid out in many ways: blanks may stand around every bracket,
brace, comma and colon, a text between quotes and the exponent of a number may
be written in several forms. `Tree.Spells` lists them all. However a value is
written, its text reads as its tree, whatever comes after it, as long as that
does not go on with a number (`Tree.Spells.reads`). And whoever passes over a
value that is written meets no fault (`Tree.Spells.skipFault?_eq_none`), also
where its text makes no sense or its number is out of range.

Both inductions follow the tree, with its items and members. At each step the
blanks are passed over, and the next character tells what comes.
-/

namespace TableProfile.Json

open Number

/-! ## What a text reads as -/

/-- **A text reads as a tree** and ends with what is left of it. -/
def Reads (text : List Char) (tree : Tree) (rest : List Char) : Prop :=
  (readValue text).1 = tree ∧ (readValue text).2.map Subtype.val = some rest

/-- A text reads as the items of a list, up to the closing bracket. -/
def ReadsItems (first : Bool) (text : List Char) (items : Items) (rest : List Char) : Prop :=
  (readItems first text).1 = items ∧ (readItems first text).2.map Subtype.val = some rest

/-- A text reads as the members of a record, up to the closing brace. -/
def ReadsMembers (first : Bool) (text : List Char) (members : Members) (rest : List Char) : Prop :=
  (readMembers first text).1 = members ∧ (readMembers first text).2.map Subtype.val = some rest

section Steps

variable {text rest after : List Char} {c : Char}

/-- The first character of a text that is no blank. -/
theorem firstCharacter?_eq (h : skipBlanks text = c :: rest) :
    ∃ shorter, firstCharacter? text = some (c, ⟨rest, shorter⟩) := by
  unfold firstCharacter?
  split
  · rename_i hnil
    rw [hnil] at h
    cases h
  · rename_i c' rest' hcons
    obtain ⟨rfl, rfl⟩ := List.cons.inj (hcons.symm.trans h)
    exact ⟨Nat.lt_of_lt_of_le (hcons ▸ Nat.lt_succ_self _) (length_skipBlanks text), rfl⟩

/-- What is left of a part is what is left of the whole. -/
theorem map_val_within {whole : List Char} (last : Option (Shorter text))
    (h : text.length ≤ whole.length) :
    (last.map (·.within h)).map Subtype.val = last.map Subtype.val := by
  rw [Option.map_map]
  rfl

theorem reads_list {items : Items} (h : skipBlanks text = '[' :: rest)
    (hitems : ReadsItems true rest items after) : Reads text (.list items) after := by
  obtain ⟨shorter, hfirst⟩ := firstCharacter?_eq h
  unfold Reads readValue
  rw [hfirst]
  exact ⟨congrArg Tree.list hitems.1, (map_val_within _ _).trans hitems.2⟩

theorem reads_record {members : Members} (h : skipBlanks text = '\x7b' :: rest)
    (hmembers : ReadsMembers true rest members after) : Reads text (.record members) after := by
  obtain ⟨shorter, hfirst⟩ := firstCharacter?_eq h
  unfold Reads readValue
  rw [hfirst]
  exact ⟨congrArg Tree.record hmembers.1, (map_val_within _ _).trans hmembers.2⟩

theorem reads_scalar {tree : Tree} (h : skipBlanks text = c :: rest) (list : c ≠ '[')
    (record : c ≠ '\x7b') (hscalar : scalar c rest = .ok (tree, after)) :
    Reads text tree after := by
  obtain ⟨shorter, hfirst⟩ := firstCharacter?_eq h
  unfold Reads readValue
  rw [hfirst]
  dsimp only
  rw [if_neg list, if_neg record]
  split
  · rename_i h'
    rw [hscalar] at h'
    obtain ⟨rfl, rfl⟩ := Prod.mk.inj (Except.ok.inj h')
    exact ⟨rfl, rfl⟩
  · rename_i h'
    rw [hscalar] at h'
    cases h'

/-- **The closing bracket.** -/
theorem readsItems_closed {first : Bool} (h : skipBlanks text = ']' :: rest) :
    ReadsItems first text .closed rest := by
  obtain ⟨shorter, hfirst⟩ := firstCharacter?_eq h
  have hstep : itemStep first text = .closed ⟨rest, shorter⟩ := by
    unfold itemStep
    rw [hfirst]
    rfl
  unfold ReadsItems readItems
  rw [hstep]
  exact ⟨rfl, rfl⟩

/-- An item and the items after it. -/
theorem readsItems_of_step {first : Bool} {start : List Char}
    {shorter : start.length ≤ text.length} {head : Tree} {tail : Items}
    (hstep : itemStep first text = .item ⟨start, shorter⟩) (hhead : Reads start head rest)
    (htail : ReadsItems false rest tail after) : ReadsItems first text (.item head tail) after := by
  unfold ReadsItems readItems
  rw [hstep]
  obtain ⟨rfl, hrest⟩ := hhead
  obtain ⟨mid, hmid, rfl⟩ := Option.map_eq_some_iff.mp hrest
  have hread : readValue start = ((readValue start).1, some mid) := Prod.ext rfl hmid
  dsimp only
  rw [hread]
  exact ⟨congrArg (Items.item _) htail.1, (map_val_within _ _).trans htail.2⟩

/-- **The first item.** -/
theorem readsItems_first {head : Tree} {tail : Items} (h : skipBlanks text = c :: after)
    (hc : c ≠ ']') {last : List Char} (hhead : Reads text head rest)
    (htail : ReadsItems false rest tail last) : ReadsItems true text (.item head tail) last := by
  obtain ⟨shorter, hfirst⟩ := firstCharacter?_eq h
  have hstep : itemStep true text = .item ⟨text, Nat.le_refl _⟩ := by
    unfold itemStep
    rw [hfirst]
    exact if_neg hc
  exact readsItems_of_step hstep hhead htail

/-- **Another item**, behind its comma. -/
theorem readsItems_next {start : List Char} {head : Tree} {tail : Items}
    (h : skipBlanks text = ',' :: start) (hhead : Reads start head rest)
    (htail : ReadsItems false rest tail after) : ReadsItems false text (.item head tail) after := by
  obtain ⟨shorter, hfirst⟩ := firstCharacter?_eq h
  have hstep : itemStep false text = .item ⟨start, Nat.le_of_lt shorter⟩ := by
    unfold itemStep
    rw [hfirst]
    rfl
  exact readsItems_of_step hstep hhead htail

/-- **The closing brace.** -/
theorem readsMembers_closed {first : Bool} (h : skipBlanks text = '\x7d' :: rest) :
    ReadsMembers first text .closed rest := by
  obtain ⟨shorter, hfirst⟩ := firstCharacter?_eq h
  have hstep : memberStep first text = .closed ⟨rest, shorter⟩ := by
    unfold memberStep
    rw [hfirst]
    rfl
  unfold ReadsMembers readMembers
  rw [hstep]
  exact ⟨rfl, rfl⟩

/-- A member and the members after it. -/
theorem readsMembers_of_step {first : Bool} {key : Option (List Char)} {start : List Char}
    {shorter : start.length < text.length} {head : Tree} {tail : Members}
    (hstep : memberStep first text = .member key ⟨start, shorter⟩) (hhead : Reads start head rest)
    (htail : ReadsMembers false rest tail after) :
    ReadsMembers first text (.member key head tail) after := by
  unfold ReadsMembers readMembers
  rw [hstep]
  obtain ⟨rfl, hrest⟩ := hhead
  obtain ⟨mid, hmid, rfl⟩ := Option.map_eq_some_iff.mp hrest
  have hread : readValue start = ((readValue start).1, some mid) := Prod.ext rfl hmid
  dsimp only
  rw [hread]
  exact ⟨congrArg (Members.member _ _) htail.1, (map_val_within _ _).trans htail.2⟩

/-- A key and its colon. -/
theorem keyStep_eq {inside start : List Char} {key : Option (List Char)}
    (h : skipBlanks text = '"' :: inside) (hkey : quotedText inside = .ok (key, rest))
    (hcolon : skipBlanks rest = ':' :: start) :
    ∃ shorter, keyStep text = .member key ⟨start, shorter⟩ := by
  obtain ⟨hinside, hfirst⟩ := firstCharacter?_eq h
  obtain ⟨hstart, hsecond⟩ := firstCharacter?_eq hcolon
  unfold keyStep
  rw [hfirst]
  dsimp only
  rw [if_pos rfl]
  split
  · rename_i h'
    rw [hkey] at h'
    cases h'
  · rename_i h'
    rw [hkey] at h'
    obtain ⟨rfl, rfl⟩ := Prod.mk.inj (Except.ok.inj h')
    rw [hsecond]
    dsimp only
    rw [if_pos rfl]
    exact ⟨Nat.lt_trans hstart (Nat.lt_trans (length_quotedText hkey) hinside), rfl⟩

/-- **The first member.** -/
theorem readsMembers_first {inside start mid : List Char} {key : Option (List Char)} {head : Tree}
    {tail : Members} (h : skipBlanks text = '"' :: inside)
    (hkey : quotedText inside = .ok (key, rest)) (hcolon : skipBlanks rest = ':' :: start)
    (hhead : Reads start head mid) (htail : ReadsMembers false mid tail after) :
    ReadsMembers true text (.member key head tail) after := by
  obtain ⟨_, hfirst⟩ := firstCharacter?_eq h
  obtain ⟨shorter, hkeyStep⟩ := keyStep_eq h hkey hcolon
  have hstep : memberStep true text = .member key ⟨start, shorter⟩ := by
    unfold memberStep
    rw [hfirst]
    exact hkeyStep
  exact readsMembers_of_step hstep hhead htail

/-- **Another member**, behind its comma. -/
theorem readsMembers_next {text' inside start mid : List Char} {key : Option (List Char)}
    {head : Tree} {tail : Members} (hcomma : skipBlanks text = ',' :: text')
    (h : skipBlanks text' = '"' :: inside) (hkey : quotedText inside = .ok (key, rest))
    (hcolon : skipBlanks rest = ':' :: start) (hhead : Reads start head mid)
    (htail : ReadsMembers false mid tail after) :
    ReadsMembers false text (.member key head tail) after := by
  obtain ⟨hlt, hfirst⟩ := firstCharacter?_eq hcomma
  obtain ⟨shorter, hkeyStep⟩ := keyStep_eq h hkey hcolon
  have hstep : memberStep false text
      = .member key ⟨start, Nat.lt_of_lt_of_le shorter (Nat.le_of_lt hlt)⟩ := by
    unfold memberStep
    rw [hfirst]
    show (keyStep text').within _ = _
    rw [hkeyStep]
    rfl
  exact readsMembers_of_step hstep hhead htail

end Steps

/-! ## The grammar -/

/-- **Blanks**: any number of them. -/
def AreBlanks (text : List Char) : Prop :=
  ∀ c ∈ text, isBlank c = true

/-- **What stands in front of an item or a member**: blanks, and a comma among
them in front of all but the first. -/
inductive SpellsFront : Bool → List Char → Prop where
  /-- In front of the first. -/
  | first {blanks : List Char} (h : AreBlanks blanks) : SpellsFront true blanks
  /-- In front of another. -/
  | next {before after : List Char} (hbefore : AreBlanks before) (hafter : AreBlanks after) :
      SpellsFront false (before ++ ',' :: after)

mutual

/-- **The ways to write a value.** -/
inductive Tree.Spells : Tree → List Char → Prop where
  /-- No value. -/
  | null : Tree.Spells .null ['n', 'u', 'l', 'l']
  /-- True. -/
  | yes : Tree.Spells (.flag true) ['t', 'r', 'u', 'e']
  /-- False. -/
  | no : Tree.Spells (.flag false) ['f', 'a', 'l', 's', 'e']
  /-- A number. -/
  | number {l : Literal} {text : List Char} (h : l.Spells text) : Tree.Spells (.number l) text
  /-- A text between quotes. -/
  | text {parts : List Piece} {inside : List Char} (h : SpellsPieces parts inside) :
      Tree.Spells (.text (content? parts)) ('"' :: (inside ++ ['"']))
  /-- A list. -/
  | list {items : Items} {inside : List Char} (h : Items.Spells true items inside) :
      Tree.Spells (.list items) ('[' :: inside)
  /-- A record. -/
  | record {members : Members} {inside : List Char} (h : Members.Spells true members inside) :
      Tree.Spells (.record members) ('\x7b' :: inside)

/-- **The ways to write items**, up to the closing bracket. -/
inductive Items.Spells : Bool → Items → List Char → Prop where
  /-- The closing bracket. -/
  | closed {first : Bool} {blanks : List Char} (h : AreBlanks blanks) :
      Items.Spells first .closed (blanks ++ [']'])
  /-- An item and those after it. -/
  | item {first : Bool} {front text rest : List Char} {head : Tree} {tail : Items}
      (hfront : SpellsFront first front) (hhead : Tree.Spells head text)
      (htail : Items.Spells false tail rest) :
      Items.Spells first (.item head tail) (front ++ (text ++ rest))

/-- **The ways to write members**, up to the closing brace. -/
inductive Members.Spells : Bool → Members → List Char → Prop where
  /-- The closing brace. -/
  | closed {first : Bool} {blanks : List Char} (h : AreBlanks blanks) :
      Members.Spells first .closed (blanks ++ ['\x7d'])
  /-- A key, a value and the members after them. -/
  | member {first : Bool} {front key before after text rest : List Char} {parts : List Piece}
      {value : Tree} {tail : Members} (hfront : SpellsFront first front)
      (hkey : SpellsPieces parts key) (hbefore : AreBlanks before) (hafter : AreBlanks after)
      (hvalue : Tree.Spells value text) (htail : Members.Spells false tail rest) :
      Members.Spells first (.member (content? parts) value tail)
        (front ++ '"' :: (key ++ '"' :: (before ++ ':' :: (after ++ (text ++ rest)))))

end

/-! ## Where values begin and end -/

/-- **A character that a value may begin with**, as far as its text is told
from what stands around it. -/
def BeginsValue (c : Char) : Prop :=
  isBlank c = false ∧ c ≠ ']'

instance (c : Char) : Decidable (BeginsValue c) :=
  inferInstanceAs (Decidable (_ ∧ _))

theorem ne_of_isDigit {c d : Char} (h : c.isDigit = true) (hd : d.isDigit = false) : c ≠ d := by
  rintro rfl
  exact Bool.false_ne_true (hd.symm.trans h)

theorem beginsValue_of_isDigit {c : Char} (h : c.isDigit = true) : BeginsValue c := by
  refine ⟨decide_eq_false ?_, ne_of_isDigit h rfl⟩
  rintro (heq | heq | heq | heq)
  iterate 4 exact ne_of_isDigit h rfl heq

/-- Behind its sign a literal begins with a digit. -/
theorem whole_append_eq_cons {l : Literal} (h : l.IsWellFormed) (rest : List Char) :
    ∃ c text, l.whole ++ rest = c :: text ∧ c.isDigit = true := by
  obtain ⟨hne, hdigits⟩ := h.whole
  obtain ⟨c, text, hwhole⟩ := List.exists_cons_of_ne_nil hne
  exact ⟨c, text ++ rest, hwhole ▸ rfl, hdigits c (hwhole ▸ List.mem_cons_self)⟩

theorem Literal.Spells.beginsValue {l : Literal} {text : List Char} (h : l.Spells text) :
    ∃ c rest, text = c :: rest ∧ BeginsValue c := by
  obtain ⟨hl, -⟩ := h
  cases l.negative with
  | true => exact ⟨_, _, rfl, by decide⟩
  | false =>
    obtain ⟨c, rest, htext, hc⟩ := whole_append_eq_cons hl _
    exact ⟨c, rest, htext, beginsValue_of_isDigit hc⟩

/-- **A value begins with a character that begins values.** -/
theorem Tree.Spells.beginsValue {tree : Tree} {text : List Char} (h : tree.Spells text) :
    ∃ c rest, text = c :: rest ∧ BeginsValue c := by
  cases h with
  | number h => exact h.beginsValue
  | null | yes | no | text | list | record => exact ⟨_, _, rfl, by decide⟩

theorem skipBlanks_cons {c : Char} (h : isBlank c = false) (text : List Char) :
    skipBlanks (c :: text) = c :: text :=
  List.dropWhile_cons_of_neg (by rw [h]; exact Bool.false_ne_true)

/-- **Blanks are passed over.** -/
theorem AreBlanks.skipBlanks_append {blanks : List Char} (h : AreBlanks blanks)
    (text : List Char) : skipBlanks (blanks ++ text) = skipBlanks text :=
  List.dropWhile_append_of_pos h

/-- Blanks in front of a value are passed over. -/
theorem Tree.Spells.skipBlanks_append {tree : Tree} {text blanks : List Char}
    (h : tree.Spells text) (hblanks : AreBlanks blanks) (tail : List Char) :
    skipBlanks (blanks ++ (text ++ tail)) = text ++ tail := by
  obtain ⟨c, rest, rfl, hc⟩ := h.beginsValue
  rw [hblanks.skipBlanks_append]
  exact skipBlanks_cons hc.1 _

/-- A blank does not go on with a number, so what ends one ends it behind
blanks, too. -/
theorem EndsNumber.append {blanks text : List Char} (h : EndsNumber text)
    (hblanks : AreBlanks blanks) : EndsNumber (blanks ++ text) := by
  cases blanks with
  | nil => exact h
  | cons c rest =>
    refine endsNumber_cons ?_ _
    have hblank := hblanks c List.mem_cons_self
    unfold isBlank at hblank
    rcases of_decide_eq_true hblank with rfl | rfl | rfl | rfl
    iterate 4 rfl

theorem SpellsFront.endsNumber {front : List Char} (h : SpellsFront false front)
    (text : List Char) : EndsNumber (front ++ text) := by
  obtain ⟨⟩ | ⟨hbefore, -⟩ := h
  rw [List.append_assoc]
  exact (endsNumber_cons rfl _).append hbefore

/-- What follows an item ends a number. -/
theorem Items.Spells.endsNumber {items : Items} {text : List Char}
    (h : items.Spells false text) (tail : List Char) : EndsNumber (text ++ tail) := by
  cases h with
  | closed hblanks =>
    rw [List.append_assoc]
    exact (endsNumber_cons rfl _).append hblanks
  | item hfront =>
    rw [List.append_assoc]
    exact hfront.endsNumber _

/-- What follows the value of a member ends a number. -/
theorem Members.Spells.endsNumber {members : Members} {text : List Char}
    (h : members.Spells false text) (tail : List Char) : EndsNumber (text ++ tail) := by
  cases h with
  | closed hblanks =>
    rw [List.append_assoc]
    exact (endsNumber_cons rfl _).append hblanks
  | member hfront =>
    rw [List.append_assoc]
    exact hfront.endsNumber _

/-! ## Values -/

/-- A number is read by its first character. -/
theorem reads_literal {l : Literal} {spelled text tail : List Char} (h : l.Spells spelled)
    (ends : EndsNumber tail) (htext : skipBlanks text = spelled ++ tail) :
    Reads text (.number l) tail := by
  obtain @⟨power, hl, hpower⟩ := h
  have hnumber := numberAfterSign_append hl hpower ends
  simp only [List.append_assoc] at htext
  cases hsign : l.negative with
  | true =>
    rw [hsign] at htext hnumber
    refine reads_scalar htext (by decide) (by decide) ?_
    show (numberAfterSign true
      (l.whole ++ (Literal.fractionText l.fraction ++ (power ++ tail)))).map _ = _
    rw [hnumber]
    rfl
  | false =>
    obtain ⟨c, rest, hunsigned, hc⟩ := whole_append_eq_cons hl
      (Literal.fractionText l.fraction ++ (power ++ tail))
    rw [hsign] at htext hnumber
    replace htext := htext.trans hunsigned
    rw [hunsigned] at hnumber
    refine reads_scalar htext (ne_of_isDigit hc rfl) (ne_of_isDigit hc rfl) ?_
    unfold scalar
    split
    iterate 5 exact absurd rfl (ne_of_isDigit hc rfl)
    rw [if_pos hc, hnumber]
    rfl

/-- A quoted text after its opening quote. -/
theorem SpellsPieces.quotedText_append {parts : List Piece} {inside : List Char}
    (h : SpellsPieces parts inside) (tail : List Char) :
    quotedText (inside ++ '"' :: tail) = .ok (content? parts, tail) := by
  unfold quotedText
  rw [h.pieces_append]

mutual

/-- **A value is read, however it is written** and whatever comes after it. -/
theorem Tree.Spells.reads {tree : Tree} {spelled text tail : List Char} (h : tree.Spells spelled)
    (ends : EndsNumber tail) (htext : skipBlanks text = spelled ++ tail) :
    Reads text tree tail := by
  cases tree with
  | null =>
    cases h with
    | null => exact reads_scalar htext (by decide) (by decide) rfl
  | flag b =>
    cases h with
    | yes => exact reads_scalar htext (by decide) (by decide) rfl
    | no => exact reads_scalar htext (by decide) (by decide) rfl
  | number l =>
    cases h with
    | number h => exact reads_literal h ends htext
  | text content =>
    cases h with
    | text h =>
      rw [List.cons_append, List.append_assoc] at htext
      refine reads_scalar htext (by decide) (by decide) ?_
      show (quotedText _).map _ = _
      rw [List.singleton_append, h.quotedText_append]
      rfl
  | list items =>
    cases h with
    | list h => exact reads_list htext (Items.Spells.reads h tail)
  | record members =>
    cases h with
    | record h => exact reads_record htext (Members.Spells.reads h tail)
  | broken why => cases h

/-- **Items are read, however they are written.** -/
theorem Items.Spells.reads {first : Bool} {items : Items} {text : List Char}
    (h : items.Spells first text) (tail : List Char) :
    ReadsItems first (text ++ tail) items tail := by
  cases items with
  | closed =>
    cases h with
    | closed hblanks =>
      refine readsItems_closed ?_
      rw [List.append_assoc, hblanks.skipBlanks_append]
      rfl
  | cut fault => cases h
  | item head rest =>
    cases h with
    | @item _ front text after _ _ hfront hhead htail =>
      have hrest := Items.Spells.reads htail tail
      have hends := htail.endsNumber tail
      rw [List.append_assoc, List.append_assoc]
      cases hfront with
      | first hblanks =>
        have hbegins := hhead.skipBlanks_append hblanks (after ++ tail)
        obtain ⟨c, cs, htext, hc⟩ := hhead.beginsValue
        have hfirst : skipBlanks (front ++ (text ++ (after ++ tail)))
            = c :: (cs ++ (after ++ tail)) := by
          rw [hbegins, htext]
          rfl
        exact readsItems_first hfirst hc.2 (Tree.Spells.reads hhead hends hbegins) hrest
      | next hbefore hafter =>
        rw [List.append_assoc]
        exact readsItems_next (hbefore.skipBlanks_append _)
          (Tree.Spells.reads hhead hends (hhead.skipBlanks_append hafter _)) hrest

/-- **Members are read, however they are written.** -/
theorem Members.Spells.reads {first : Bool} {members : Members} {text : List Char}
    (h : members.Spells first text) (tail : List Char) :
    ReadsMembers first (text ++ tail) members tail := by
  cases members with
  | closed =>
    cases h with
    | closed hblanks =>
      refine readsMembers_closed ?_
      rw [List.append_assoc, hblanks.skipBlanks_append]
      rfl
  | cut why => cases h
  | member key value rest =>
    cases h with
    | member hfront hkey hbefore hafter hvalue htail =>
      have hrest := Members.Spells.reads htail tail
      have hends := htail.endsNumber tail
      simp only [List.append_assoc, List.cons_append]
      cases hfront with
      | first hblanks =>
        exact readsMembers_first (hblanks.skipBlanks_append _) (hkey.quotedText_append _)
          (hbefore.skipBlanks_append _)
          (Tree.Spells.reads hvalue hends (hvalue.skipBlanks_append hafter _)) hrest
      | next hblanks hblanks' =>
        simp only [List.append_assoc, List.cons_append]
        exact readsMembers_next (hblanks.skipBlanks_append _) (hblanks'.skipBlanks_append _)
          (hkey.quotedText_append _) (hbefore.skipBlanks_append _)
          (Tree.Spells.reads hvalue hends (hvalue.skipBlanks_append hafter _)) hrest

end

/-! ## Passing over -/

mutual

/-- **A value that is written is passed over without a fault.** -/
theorem Tree.Spells.skipFault?_eq_none {tree : Tree} {text : List Char} (h : tree.Spells text) :
    tree.skipFault? = none := by
  cases tree with
  | null | flag b | number l | text content => rfl
  | list items =>
    cases h with
    | list h => exact Items.Spells.skipFault?_eq_none h
  | record members =>
    cases h with
    | record h => exact Members.Spells.skipFault?_eq_none h
  | broken why => cases h

theorem Items.Spells.skipFault?_eq_none {first : Bool} {items : Items} {text : List Char}
    (h : items.Spells first text) : items.skipFault? = none := by
  cases items with
  | closed => rfl
  | cut fault => cases h
  | item head rest =>
    cases h with
    | item hfront hhead htail =>
      rw [Items.skipFault?, Tree.Spells.skipFault?_eq_none hhead,
        Items.Spells.skipFault?_eq_none htail]
      rfl

theorem Members.Spells.skipFault?_eq_none {first : Bool} {members : Members} {text : List Char}
    (h : members.Spells first text) : members.skipFault? = none := by
  cases members with
  | closed => rfl
  | cut why => cases h
  | member key value rest =>
    cases h with
    | member hfront hkey hbefore hafter hvalue htail =>
      rw [Members.skipFault?, Tree.Spells.skipFault?_eq_none hvalue,
        Members.Spells.skipFault?_eq_none htail]
      rfl

end

end TableProfile.Json
