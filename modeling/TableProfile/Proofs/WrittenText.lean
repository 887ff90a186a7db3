import TableProfile.Json.Codec
import TableProfile.Proofs.TreeText

/-!
# Reading what was written

A value that is written has a tree (`Value.tree`), and its text, at any depth of
indentation, is one of the texts of that tree (`spells_textAt`): the blanks of
the indentation stand where blanks may stand.

Hence a codec that reads what it wrote does nothing else than to decode the
tree of what it encoded (`Codec.read_write`), and the text can be forgotten.
-/

namespace TableProfile.Json

open Number

/-! ## The tree of a value -/

mutual

/-- **The tree that a value is written as.** -/
def Value.tree : Value → Tree
  | .null => .null
  | .flag b => .flag b
  | .integer n => .number (integerLiteral n)
  | .number x => if Binary64.isFinite x then .number (floatLiteral x) else .null
  | .text s => .text (some s.toList)
  | .list items => .list (itemsTree items)
  | .record members => .record (membersTree members)

/-- The trees of items. -/
def itemsTree : List Value → Items
  | [] => .closed
  | item :: rest => .item item.tree (itemsTree rest)

/-- The keys of members and the trees of their values. -/
def membersTree : List (String × Value) → Members
  | [] => .closed
  | (key, item) :: rest => .member (some key.toList) item.tree (membersTree rest)

end

/-! ## The text of a value -/

theorem areBlanks_nil : AreBlanks [] :=
  fun _ h => absurd h List.not_mem_nil

/-- **An indentation is blank.** -/
theorem areBlanks_newLine (depth : Nat) : AreBlanks (newLine depth) := by
  intro c hc
  rcases List.mem_cons.mp hc with rfl | hc
  · rfl
  · rw [List.eq_of_mem_replicate hc]
    rfl

theorem floatText_eq (x : Float) :
    floatText x = if Binary64.isFinite x then (floatLiteral x).text else ['n', 'u', 'l', 'l'] := by
  unfold floatText
  rw [text_floatLiteral]

/-- A text is written between quotes. -/
theorem spells_encode (s : String) : (Tree.text (some s.toList)).Spells (encode s.toList) := by
  obtain ⟨parts, hparts, hcontent⟩ := spells_flatMap_encodeCharacter s.toList
  exact hcontent ▸ Tree.Spells.text hparts

/-- A member is written with its key between quotes, and with a blank behind
the colon. -/
theorem spells_member {first : Bool} {front text rest : List Char} {value : Tree}
    {tail : Members} (hfront : SpellsFront first front) (key : String)
    (hvalue : value.Spells text) (htail : tail.Spells false rest) :
    (Members.member (some key.toList) value tail).Spells first
      (front ++ (encode key.toList ++ ([':', ' '] ++ (text ++ rest)))) := by
  obtain ⟨parts, hparts, hcontent⟩ := spells_flatMap_encodeCharacter key.toList
  have hblank : AreBlanks [' '] := List.forall_mem_singleton.mpr rfl
  have hmember := Members.Spells.member hfront hparts areBlanks_nil hblank hvalue htail
  rw [hcontent] at hmember
  simpa only [encode, List.cons_append, List.append_assoc, List.nil_append] using hmember

mutual

/-- **The text of a value is one of the texts of its tree**, at any depth. -/
theorem spells_textAt (depth : Nat) (value : Value) :
    value.tree.Spells (value.textAt depth) := by
  cases value with
  | null => exact .null
  | flag b =>
    cases b with
    | true => exact .yes
    | false => exact .no
  | integer n =>
    rw [Value.textAt, ← text_integerLiteral]
    exact .number (isWellFormed_integerLiteral n).spells_text
  | number x =>
    rw [Value.tree, Value.textAt, floatText_eq]
    split
    · exact .number (isWellFormed_floatLiteral x).spells_text
    · exact .null
  | text s => exact spells_encode s
  | list items =>
    cases items with
    | nil => exact .list (.closed areBlanks_nil)
    | cons first rest =>
      rw [Value.textAt, List.append_assoc]
      exact .list (.item (.first (areBlanks_newLine _)) (spells_textAt (depth + 1) first)
        (spells_itemsText depth rest))
  | record members =>
    cases members with
    | nil => exact .record (.closed areBlanks_nil)
    | cons member rest =>
      obtain ⟨key, first⟩ := member
      simp only [Value.textAt, List.append_assoc]
      exact .record (spells_member (.first (areBlanks_newLine _)) key
        (spells_textAt (depth + 1) first) (spells_membersText depth rest))

theorem spells_itemsText (depth : Nat) (items : List Value) :
    (itemsTree items).Spells false (itemsText depth items) := by
  cases items with
  | nil => exact .closed (areBlanks_newLine depth)
  | cons item rest =>
    rw [itemsText, List.append_assoc]
    exact .item (.next areBlanks_nil (areBlanks_newLine _)) (spells_textAt (depth + 1) item)
      (spells_itemsText depth rest)

theorem spells_membersText (depth : Nat) (members : List (String × Value)) :
    (membersTree members).Spells false (membersText depth members) := by
  cases members with
  | nil => exact .closed (areBlanks_newLine depth)
  | cons member rest =>
    obtain ⟨key, item⟩ := member
    simp only [membersText, List.append_assoc]
    exact spells_member (.next areBlanks_nil (areBlanks_newLine _)) key
      (spells_textAt (depth + 1) item) (spells_membersText depth rest)

end

/-! ## Codecs -/

/-- **To read a text is to decode the tree that is written there**, with blanks
around it. -/
theorem Codec.read_of_spells {α : Type} (codec : Codec α) {tree : Tree}
    {spelled before after : List Char} {text : String} (h : tree.Spells spelled)
    (hbefore : AreBlanks before) (hafter : AreBlanks after)
    (htext : text.toList = before ++ (spelled ++ after)) : codec.read text = codec.decode tree := by
  have hends : EndsNumber after := by
    have hnothing := endsNumber_nil.append hafter
    rwa [List.append_nil] at hnothing
  have hblank : skipBlanks after = [] := by
    have hnothing := hafter.skipBlanks_append []
    rwa [List.append_nil] at hnothing
  obtain ⟨htree, hrest⟩ : Reads text.toList tree after :=
    h.reads hends (htext ▸ h.skipBlanks_append hbefore after)
  obtain ⟨rest, hread, hafter'⟩ := Option.map_eq_some_iff.mp hrest
  have hvalue : readValue text.toList = (tree, some rest) := Prod.ext htree hread
  unfold Codec.read
  rw [hvalue]
  show (codec.decode tree >>= fun a =>
    if skipBlanks rest.1 = [] then .ok a else .error .syntaxError) = _
  rw [hafter', hblank]
  cases codec.decode tree with
  | error fault => rfl
  | ok a => rfl

/-- **To read what was written is to decode what was encoded.** -/
theorem Codec.read_write {α : Type} (codec : Codec α) (a : α) :
    codec.read (codec.write a) = codec.decode (codec.encode a).tree := by
  refine codec.read_of_spells (spells_textAt 0 (codec.encode a)) areBlanks_nil areBlanks_nil ?_
  rw [List.nil_append, List.append_nil]
  exact String.toList_ofList

end TableProfile.Json
