/-!
# White space

The twenty-five characters of the Unicode property White_Space, and the
text that is left when they are taken from both ends. A cell is blank
when nothing is left.
-/

namespace TableProfile.Text

/-- **White space**: the controls from tab to carriage return, the space,
the next-line control, the no-break spaces, the Ogham space mark, the
typographic spaces, the two separators and the ideographic space. -/
def isBlank (c : Char) : Bool :=
  let code := c.toNat
  (0x9 ≤ code && code ≤ 0xd) || code == 0x20 || code == 0x85 || code == 0xa0
    || code == 0x1680 || (0x2000 ≤ code && code ≤ 0x200a) || code == 0x2028
    || code == 0x2029 || code == 0x202f || code == 0x205f || code == 0x3000

/-- The text without the white space in front of it. -/
def trimLeft (s : List Char) : List Char :=
  s.dropWhile isBlank

/-- The text without the white space after it. -/
def trimRight (s : List Char) : List Char :=
  (s.reverse.dropWhile isBlank).reverse

/-- **The text without the white space at both ends.** -/
def trim (s : List Char) : List Char :=
  trimRight (trimLeft s)

end TableProfile.Text
