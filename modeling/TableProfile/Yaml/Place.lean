/-!
# Places in YAML text

YAML is laid out in lines and columns, so a place in a text is what is
left of the text together with its line and column. A place also knows
whether a key may begin there. It may at the beginning of a line and
after the dash of a list item, but not after the colon of a key; and
where a key may begin, the indentation matters, so there may be no tabs.

Carriage returns, alone or before a line feed, and the next-line control
end lines as line feeds do; they are replaced before the text is read.
-/

namespace TableProfile.Yaml

/-- **A place in a text.** -/
structure Place where
  /-- What is left of the text. -/
  rest : List Char
  /-- The number of lines before. -/
  line : Nat := 0
  /-- The number of characters before on the same line. -/
  column : Nat := 0
  /-- Whether a key may begin here. -/
  keyAllowed : Bool := true
  deriving DecidableEq, Repr

/-- The text with every line ended in the same way. -/
def normalized : List Char → List Char
  | '\r' :: '\n' :: rest => '\n' :: normalized rest
  | c :: rest => (if c = '\r' ∨ c = '\x85' then '\n' else c) :: normalized rest
  | [] => []

/-- **The characters that may occur in a text**: no controls but tab and
the ends of lines. -/
def isAllowed (c : Char) : Bool :=
  let code := c.toNat
  code = 0x9 ∨ code = 0xa ∨ code = 0xd ∨ (0x20 ≤ code ∧ code ≤ 0x7e) ∨ code = 0x85
    ∨ (0xa0 ≤ code ∧ code ≠ 0xfffe ∧ code ≠ 0xffff)

/-- Whether a text begins with white space, or is at its end. -/
def atBlank : List Char → Bool
  | [] => true
  | c :: _ => c = ' ' ∨ c = '\t' ∨ c = '\n'

namespace Place

/-- The place after the next character. -/
def next (p : Place) : Place :=
  match p.rest with
  | [] => p
  | '\n' :: rest => { p with rest, line := p.line + 1, column := 0 }
  | _ :: rest => { p with rest, column := p.column + 1 }

/-- The place so many characters further on the same line. -/
def forward (p : Place) (n : Nat) : Place :=
  { p with rest := p.rest.drop n, column := p.column + n }

/-- The same place where a key may begin, or may not. -/
def allowing (p : Place) (keyAllowed : Bool) : Place :=
  { p with keyAllowed }

/-- Goes on from a place over blanks, comments and ends of lines.
`inFlow` tells whether the place is inside of brackets, where lines do
not matter. -/
def skipFrom (inFlow : Bool) (line column : Nat) (keyAllowed comment : Bool) : List Char → Place
  | [] => { rest := [], line, column, keyAllowed }
  | c :: rest =>
    if c = '\n' then skipFrom inFlow (line + 1) 0 (keyAllowed || !inFlow) false rest
    else if comment then skipFrom inFlow line (column + 1) keyAllowed true rest
    else if c = ' ' || (c = '\t' && (inFlow || !keyAllowed)) then
      skipFrom inFlow line (column + 1) keyAllowed false rest
    else if c = '#' then skipFrom inFlow line (column + 1) keyAllowed true rest
    else { rest := c :: rest, line, column, keyAllowed }

/-- **The next place with something to read.** -/
def skip (p : Place) (inFlow : Bool) : Place :=
  skipFrom inFlow p.line p.column p.keyAllowed false p.rest

/-- Whether the text begins with a character and then white space. -/
def atIndicator (p : Place) (c : Char) : Bool :=
  match p.rest with
  | first :: rest => first = c && atBlank rest
  | [] => false

/-- Whether a document begins or ends here. -/
def atMarker (p : Place) (c : Char) : Bool :=
  p.column = 0 && [c, c, c].isPrefixOf p.rest && atBlank (p.rest.drop 3)

/-- Whether nothing of the document is left. -/
def atEnd (p : Place) : Bool :=
  p.rest.isEmpty || p.atMarker '-' || p.atMarker '.'

end Place

end TableProfile.Yaml
