import TableProfile.Yaml.Node
import TableProfile.Yaml.Scalar

/-!
# Reading YAML text

A node is written in one of two ways. Inside of brackets lines do not
matter. Outside, a list is a column of dashes and a record a column of
keys, and what belongs to a dash or a key is indented further; only a
list that belongs to a key may stand in the same column as the key.

A key that is not marked by a question mark ends on the line on which it
begins, and its colon follows on that line. A node may have a name, under
which it can stand again further on, and a tag.

Each step of the recursion goes on to another piece of the text, so a
bound on the number of steps is at hand, and reaching it is no concern.
-/

namespace TableProfile.Yaml

/-- The nodes that have a name, the latest first. -/
abbrev Anchors : Type := List (List Char × Node)

/-- **A node that was read**, the place after it and the names known by
then. -/
structure Reading (α : Type) where
  /-- What was read. -/
  value : α
  /-- The place after it. -/
  place : Place
  /-- The names known. -/
  anchors : Anchors

/-- Whether a character may stand in a name. -/
def isNameCharacter (c : Char) : Bool :=
  c.isAlphanum ∨ c = '_' ∨ c = '-'

/-- A name, and the place after it. -/
def name? (p : Place) : Option (List Char × Place) :=
  let name := p.rest.takeWhile isNameCharacter
  let after := (p.forward name.length).allowing false
  let endsWell := match after.rest with
    | [] => true
    | c :: _ => isSpace c || c ∈ ['?', ':', ',', ']', '\x7d', '%', '@', '\x60']
  if name.isEmpty || !endsWell then none else some (name, after)

/-- A tag, and the place after it. -/
def tag? (inFlow : Bool) (p : Place) : Option (String × Place) :=
  let written := p.rest.takeWhile fun c => !isSpace c && !(inFlow && isFlowIndicator c)
  let after := (p.forward written.length).allowing false
  let text := String.ofList written
  if text.startsWith "!<" then
    if text.endsWith ">" && 3 < written.length then
      some (String.ofList ((written.drop 2).dropLast), after)
    else none
  else if text.startsWith "!!" then
    if 2 < written.length then some (coreTag ++ (text.drop 2).toString, after) else none
  else if (written.drop 1).contains '!' then none
  else some (text, after)

/-- The name and the tag of a node. -/
structure Properties where
  /-- The name. -/
  anchor : Option (List Char) := none
  /-- The tag. -/
  tag : Option String := none

/-- Whether there is neither a name nor a tag. -/
def Properties.isEmpty (properties : Properties) : Bool :=
  properties.anchor.isNone && properties.tag.isNone

/-- Reads a name or a tag, whichever there is. -/
def property? (inFlow : Bool) (properties : Properties) (p : Place) :
    Option (Properties × Place) :=
  match p.rest with
  | '&' :: _ =>
    if properties.anchor.isSome then none
    else (name? (p.forward 1)).map fun (name, after) =>
      ({ properties with anchor := some name }, after.skip inFlow)
  | '!' :: _ =>
    if properties.tag.isSome then none
    else (tag? inFlow p).map fun (tag, after) =>
      ({ properties with tag := some tag }, after.skip inFlow)
  | _ => some (properties, p)

/-- **The name and the tag in front of a node**, in any order, and the
place of the node. Both stand on one line. -/
def properties? (inFlow : Bool) (start : Place) : Option (Properties × Place) := do
  let (properties, p) ← property? inFlow {} start
  if properties.isEmpty || p.line != start.line then some (properties, p)
  else property? inFlow properties p

/-- Gives a node its name and its tag. -/
def Reading.named (r : Reading Node) (properties : Properties) : Reading Node :=
  let node := r.value.tagged properties.tag
  { r with
    value := node
    anchors := match properties.anchor with
      | some name => (name, node) :: r.anchors
      | none => r.anchors }

/-- The longest key that needs no question mark. -/
def longestKey : Nat := 1024

/-- The place after the colon of a key that begins at `start`, if the
colon follows on the same line. -/
def afterColon? (inFlow : Bool) (start p : Place) : Option Place :=
  let p := p.skip inFlow
  if p.line = start.line ∧ p.rest.head? = some ':' ∧ (inFlow ∨ atBlank p.rest.tail)
      ∧ start.rest.length - p.rest.length ≤ longestKey then
    some ((p.forward 1).allowing false)
  else none

/-! ## Inside of brackets -/

/-- An item of a list: a node, or a record of a single key. -/
def itemOf : Node × Option Node → Node
  | (node, none) => node
  | (key, some value) => .mapping none [(key, value)]

/-- An entry of a record; a key alone has no value. -/
def entryOf : Node × Option Node → Node × Node
  | (key, value) => (key, value.getD .empty)

mutual

/-- A scalar, a name that stands for a node, or a node in brackets. -/
def content? (inFlow : Bool) (least : Nat) (known : Anchors) (p : Place) :
    Nat → Option (Reading Node)
  | 0 => none
  | steps + 1 =>
    match p.rest with
    | '[' :: _ =>
      (flowItems? ']' known (p.forward 1) [] steps).map fun r =>
        ⟨.sequence none (r.value.map itemOf), r.place, r.anchors⟩
    | '\x7b' :: _ =>
      (flowItems? '\x7d' known (p.forward 1) [] steps).map fun r =>
        ⟨.mapping none (r.value.map entryOf), r.place, r.anchors⟩
    | '"' :: _ | '\'' :: _ =>
      (quoted p).map fun (text, after) => ⟨.scalar none false text, after, known⟩
    | _ =>
      (plain inFlow least p).map fun (text, after) => ⟨.scalar none true text, after, known⟩

/-- A node with its name and tag, or one that stands for another. -/
def flowNode? (inFlow : Bool) (least : Nat) (known : Anchors) (p : Place) :
    Nat → Option (Reading Node)
  | 0 => none
  | steps + 1 =>
    match p.rest with
    | '*' :: _ => do
      let (name, after) ← name? (p.forward 1)
      let node ← known.lookup name
      some ⟨node, after, known⟩
    | _ => do
      let (properties, p') ← properties? inFlow p
      let ended : Bool := match p'.rest with
        | [] => true
        | c :: rest => (inFlow && c ∈ [',', ']', '\x7d']) || (c = ':' && (inFlow || atBlank rest))
          || (!inFlow && p'.line != p.line)
      if !properties.isEmpty && ended then some ((Reading.mk .empty p' known).named properties)
      else (content? inFlow least known p' steps).map (·.named properties)

/-- A key or a value inside of brackets, which may be missing. -/
def flowOptional? (stops : List Char) (known : Anchors) (p : Place) : Nat → Option (Reading Node)
  | 0 => none
  | steps + 1 =>
    let p := p.skip true
    match p.rest with
    | c :: _ =>
      if c ∈ stops then some ⟨.empty, p, known⟩ else flowNode? true 0 known p steps
    | [] => none

/-- **An item inside of brackets**: a node, and whether a value belongs to
it, which it does after a colon or a question mark. -/
def flowItem? (known : Anchors) (p : Place) : Nat → Option (Reading (Node × Option Node))
  | 0 => none
  | steps + 1 =>
    if p.rest.head? = some '?' then do
      let key ← flowOptional? [':', ',', ']', '\x7d'] known (p.forward 1) steps
      let after := key.place.skip true
      if after.rest.head? = some ':' then
        let r ← flowOptional? [',', ']', '\x7d'] key.anchors
          ((after.forward 1).allowing false) steps
        some { r with value := (key.value, some r.value) }
      else some ⟨(key.value, some .empty), after, key.anchors⟩
    else do
      let key ← flowNode? true 0 known p steps
      match afterColon? true p key.place with
      | some after =>
        let r ← flowOptional? [',', ']', '\x7d'] key.anchors after steps
        some { r with value := (key.value, some r.value) }
      | none => some ⟨(key.value, none), key.place, key.anchors⟩

/-- The items up to a closing bracket, with commas between; a comma may
also follow the last one. `items` are those read, the last one first. -/
def flowItems? (closing : Char) (known : Anchors) (p : Place)
    (items : List (Node × Option Node)) : Nat → Option (Reading (List (Node × Option Node)))
  | 0 => none
  | steps + 1 =>
    let p := p.skip true
    if p.rest.head? = some closing then
      some ⟨items.reverse, (p.forward 1).allowing false, known⟩
    else do
      let r ← flowItem? known p steps
      let after := r.place.skip true
      match after.rest with
      | c :: _ =>
        if c = closing then
          some ⟨(r.value :: items).reverse, (after.forward 1).allowing false, r.anchors⟩
        else if c = ',' then
          flowItems? closing r.anchors (after.forward 1) (r.value :: items) steps
        else none
      | [] => none

end

/-! ## Outside of brackets -/

/-- A key without a question mark, and the place after its colon. Only
the line on which it begins is looked at. -/
def key? (known : Anchors) (p : Place) (steps : Nat) : Option (Reading Node) := do
  let line := p.rest.takeWhile (· != '\n')
  let start := { p with rest := line }
  let r ← flowNode? false 0 known start steps
  let after ← afterColon? false start r.place
  some { r with place :=
    { after with rest := p.rest.drop (line.length - after.rest.length) } }

mutual

/-- **A node that belongs to a dash or a key**, indented to column `least`
or further. A list may stand one column before that if `mayHang` says so. -/
def node? (least : Nat) (mayHang : Bool) (known : Anchors) (p : Place) :
    Nat → Option (Reading Node)
  | 0 => none
  | steps + 1 =>
    let p := p.skip false
    if p.atEnd then some ⟨.empty, p, known⟩
    else if p.column < least then
      if mayHang && p.column + 1 = least && p.atIndicator '-' then
        (items? p.column known p [] steps).map fun r =>
          ⟨.sequence none r.value, r.place, r.anchors⟩
      else some ⟨.empty, p, known⟩
    else if p.atIndicator '-' then
      if p.keyAllowed then
        (items? p.column known p [] steps).map fun r =>
          ⟨.sequence none r.value, r.place, r.anchors⟩
      else none
    else if p.keyAllowed && (p.atIndicator '?' || p.atIndicator ':'
        || (key? known p steps).isSome) then
      (entries? p.column known p [] steps).map fun r =>
        ⟨.mapping none r.value, r.place, r.anchors⟩
    else match p.rest with
      | '|' :: _ | '>' :: _ =>
        (block least p).map fun (text, after) => ⟨.scalar none false text, after, known⟩
      | '*' :: _ => flowNode? false least known p steps
      | _ => do
        let (properties, p') ← properties? false p
        if properties.isEmpty then content? false least known p steps
        else if p'.rest.head? = some '*' then none
        else
          let r ← node? least mayHang known p' steps
          if r.value.tag?.isSome && properties.tag.isSome then none
          else some (r.named properties)

/-- The items of a list whose dashes stand in a column. -/
def items? (column : Nat) (known : Anchors) (p : Place) (items : List Node) :
    Nat → Option (Reading (List Node))
  | 0 => none
  | steps + 1 =>
    let p := p.skip false
    if !p.atEnd && p.column = column && p.atIndicator '-' then do
      let r ← node? (column + 1) false known ((p.forward 1).allowing true) steps
      items? column r.anchors r.place (r.value :: items) steps
    else if !p.atEnd && column < p.column then none
    else some ⟨items.reverse, p, known⟩

/-- The entries of a record whose keys stand in a column. -/
def entries? (column : Nat) (known : Anchors) (p : Place) (entries : List (Node × Node)) :
    Nat → Option (Reading (List (Node × Node)))
  | 0 => none
  | steps + 1 =>
    let p := p.skip false
    if p.atEnd || p.column < column then some ⟨entries.reverse, p, known⟩
    else if column < p.column then none
    else if p.atIndicator '?' then do
      let key ← node? (column + 1) true known ((p.forward 1).allowing true) steps
      let after := key.place.skip false
      if !after.atEnd && after.column = column && after.atIndicator ':' then
        let r ← node? (column + 1) true key.anchors ((after.forward 1).allowing true) steps
        entries? column r.anchors r.place ((key.value, r.value) :: entries) steps
      else entries? column key.anchors after ((key.value, .empty) :: entries) steps
    else if p.atIndicator ':' then do
      let r ← node? (column + 1) true known ((p.forward 1).allowing true) steps
      entries? column r.anchors r.place ((.empty, r.value) :: entries) steps
    else do
      let key ← key? known p steps
      let r ← node? (column + 1) true key.anchors key.place steps
      entries? column r.anchors r.place ((key.value, r.value) :: entries) steps

end

/-! ## Documents -/

/-- The lines that say how a document is written, and the document. Only
the version of the language can be said, and it has to be this one. -/
def afterDirectives? : Nat → Bool → Place → Option Place
  | 0, _, _ => none
  | steps + 1, seen, p =>
    let p := p.skip false
    if p.column = 0 && p.rest.head? = some '%' then
      let words := (String.ofList (p.rest.takeWhile (· != '\n'))).splitOn " "
      let after := p.forward (p.rest.takeWhile (· != '\n')).length
      match words.filter (· != "") with
      | "%YAML" :: version :: more =>
        if !seen && (version = "1.1" || version = "1.2") && (more.head?.all (·.startsWith "#"))
        then afterDirectives? steps true after
        else none
      | _ => none
    else if p.atMarker '-' then some ((p.forward 3).allowing false)
    else if seen then none
    else some p

/-- Whether nothing but the ends of documents is left. -/
def isOver : Nat → Place → Bool
  | 0, _ => false
  | steps + 1, p =>
    let p := p.skip false
    p.rest.isEmpty || (p.atMarker '.' && isOver steps ((p.forward 3).allowing false))

/-- **The node that a text says.** The text is one document. -/
def read? (text : String) : Option Node :=
  let characters := match text.toList with
    | '\ufeff' :: rest => rest
    | characters => characters
  let steps := 4 * characters.length + 16
  if characters.all isAllowed then do
    let start ← afterDirectives? steps false { rest := normalized characters }
    let r ← node? 0 false [] start steps
    if isOver steps r.place then some r.value else none
  else none

end TableProfile.Yaml
