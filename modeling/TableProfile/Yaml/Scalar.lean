import TableProfile.Number.Digits
import TableProfile.Yaml.Place

/-!
# Scalars in YAML text

A scalar is written without quotes, between single or double quotes, or
as a block of indented lines. In the first three styles it may go over
several lines, and the gap between two lines is folded: a single line end
is a blank, and of several the first is left out. A block keeps its line
ends, or folds those between lines that are not indented further.
-/

namespace TableProfile.Yaml

/-! ## Gaps -/

/-- How a gap between two stretches of a scalar goes to another line. -/
inductive LineEnd where
  /-- It does not. -/
  | none
  /-- At the end of a line. -/
  | real
  /-- At the end of a line that does not count. -/
  | escaped
  deriving DecidableEq, Repr

/-- **White space inside of a scalar.** -/
structure Gap where
  /-- The blanks before the first end of a line, the last one first. -/
  blanks : List Char := []
  /-- The first end of a line. -/
  first : LineEnd := .none
  /-- The number of further ends of lines. -/
  further : Nat := 0
  deriving DecidableEq, Repr

namespace Gap

/-- The gap with one more white space character. -/
def add (gap : Gap) (c : Char) : Gap :=
  if c = '\n' then
    if gap.first = .none then { blanks := [], first := .real }
    else { gap with further := gap.further + 1 }
  else if gap.first = .none then { gap with blanks := c :: gap.blanks }
  else gap

/-- **What a gap stands for**, the last character first. -/
def folded (gap : Gap) : List Char :=
  match gap.first with
  | .none => gap.blanks
  | .real => if gap.further = 0 then [' '] else List.replicate gap.further '\n'
  | .escaped => List.replicate gap.further '\n'

/-- Whether there is nothing in the gap. -/
def isEmpty (gap : Gap) : Bool :=
  gap.blanks.isEmpty && gap.first == .none

/-- Whether the gap goes to another line. -/
def endsLine (gap : Gap) : Bool :=
  gap.first != .none

end Gap

/-- Whether a character is white space. -/
def isSpace (c : Char) : Bool :=
  c = ' ' ∨ c = '\t' ∨ c = '\n'

/-! ## Scalars without quotes -/

/-- The characters that have a meaning inside of brackets. -/
def isFlowIndicator (c : Char) : Bool :=
  c ∈ [',', '[', ']', '\x7b', '\x7d']

/-- **Whether a scalar without quotes may begin** with a text. -/
def startsPlain (inFlow : Bool) : List Char → Bool
  | [] => false
  | c :: rest =>
    if c = '-' then !atBlank rest
    else if c = '?' ∨ c = ':' then !inFlow && !atBlank rest
    else !(isSpace c || isFlowIndicator c
      || c ∈ ['#', '&', '*', '!', '|', '>', '\'', '"', '%', '@', '\x60'])

/-- Whether a scalar without quotes ends in front of a text. -/
def endsPlain (inFlow : Bool) : List Char → Bool
  | [] => true
  | c :: rest => (c = ':' && atBlank rest) || (inFlow && isFlowIndicator c)

/-- Whether a text begins with a colon that may not stand there. -/
def wrongColon (inFlow : Bool) : List Char → Bool
  | ':' :: c :: _ => inFlow && (isFlowIndicator c || c = '?')
  | _ => false

/-- Reads on in a scalar without quotes. `text` is what was read, the last
character first, and `gap` the white space after it; `p` is the place of
the remaining text, which is looked through. Lines after the first begin
at column `least` or further on. -/
def plainFrom (inFlow : Bool) (least : Nat) (text : List Char) (gap : Gap) (p : Place) :
    List Char → Option (List Char × Place)
  | [] => some (text.reverse, { p with rest := [], keyAllowed := gap.endsLine })
  | c :: rest =>
    let here := { p with rest := c :: rest, keyAllowed := gap.endsLine }
    if isSpace c then
      if c = '\t' && gap.endsLine && p.column < least then none
      else plainFrom inFlow least text (gap.add c) here.next rest
    else if !gap.isEmpty && (c = '#' || (!inFlow && p.column < least) || here.atEnd) then
      some (text.reverse, here)
    else if wrongColon inFlow (c :: rest) then none
    else if endsPlain inFlow (c :: rest) then some (text.reverse, here)
    else plainFrom inFlow least (c :: gap.folded ++ text) {} here.next rest

/-- **A scalar without quotes**, and the place after it and after the
white space that follows it. -/
def plain (inFlow : Bool) (least : Nat) (p : Place) : Option (List Char × Place) :=
  if startsPlain inFlow p.rest then plainFrom inFlow least [] {} p p.rest else none

/-! ## Scalars between quotes -/

/-- Reads on in a scalar between single quotes. -/
def singleFrom (text : List Char) (gap : Gap) (p : Place) :
    List Char → Option (List Char × Place)
  | [] => none
  | '\'' :: '\'' :: rest =>
    singleFrom ('\'' :: gap.folded ++ text) {} (p.forward 2) rest
  | c :: rest =>
    let here := { p with rest := c :: rest }
    if here.atMarker '-' || here.atMarker '.' then none
    else if isSpace c then singleFrom text (gap.add c) here.next rest
    else if c = '\'' then
      some ((gap.folded ++ text).reverse, { here.next with keyAllowed := false })
    else singleFrom (c :: gap.folded ++ text) {} here.next rest

/-- The character of a number written in hexadecimal digits. -/
def numbered? (digits : List Char) : Option Char := do
  let code ← Number.numberIn? 16 digits
  if code.isValidChar then some (Char.ofNat code) else none

/-- The number of hexadecimal digits after a letter. -/
def digitCount : Char → Nat
  | 'x' => 2
  | 'u' => 4
  | 'U' => 8
  | _ => 0

/-- The character that a letter after a backslash stands for. -/
def escaped? : Char → Option Char
  | '0' => some '\x00'
  | 'a' => some '\x07'
  | 'b' => some '\x08'
  | 't' | '\t' => some '\t'
  | 'n' => some '\n'
  | 'v' => some '\x0b'
  | 'f' => some '\x0c'
  | 'r' => some '\r'
  | 'e' => some '\x1b'
  | ' ' => some ' '
  | '"' => some '"'
  | '/' => some '/'
  | '\\' => some '\\'
  | 'N' => some '\x85'
  | '_' => some '\xa0'
  | 'L' => some '\u2028'
  | 'P' => some '\u2029'
  | _ => none

/-- Reads on in a scalar between double quotes. `pending` counts the
characters of an escape that are still to be passed over. -/
def doubleFrom (text : List Char) (gap : Gap) (pending : Nat) (p : Place) :
    List Char → Option (List Char × Place)
  | [] => none
  | c :: rest =>
    let here := { p with rest := c :: rest }
    if pending ≠ 0 then doubleFrom text gap (pending - 1) here.next rest
    else if here.atMarker '-' || here.atMarker '.' then none
    else if isSpace c then doubleFrom text (gap.add c) 0 here.next rest
    else if c = '"' then
      some ((gap.folded ++ text).reverse, { here.next with keyAllowed := false })
    else if c = '\\' then
      match rest with
      | [] => none
      | letter :: more =>
        if letter = '\n' then
          doubleFrom (gap.folded ++ text) { first := .escaped } 1 here.next rest
        else if digitCount letter ≠ 0 then
          let digits := more.take (digitCount letter)
          if digits.length = digitCount letter then
            match numbered? digits with
            | some c =>
              doubleFrom (c :: gap.folded ++ text) {} (1 + digitCount letter) here.next rest
            | none => none
          else none
        else match escaped? letter with
          | some c => doubleFrom (c :: gap.folded ++ text) {} 1 here.next rest
          | none => none
    else doubleFrom (c :: gap.folded ++ text) {} 0 here.next rest

/-- **A scalar between quotes**, and the place after it. -/
def quoted (p : Place) : Option (List Char × Place) :=
  match p.rest with
  | '\'' :: rest => singleFrom [] {} p.next rest
  | '"' :: rest => doubleFrom [] {} 0 p.next rest
  | _ => none

/-! ## Blocks -/

/-- A line of a text. -/
structure Line where
  /-- The characters of the line. -/
  text : List Char
  /-- Whether the line has an end, other than the last one of a text. -/
  ended : Bool
  deriving DecidableEq, Repr

/-- The lines of a text. -/
def linesOf : List Char → List Line
  | [] => [⟨[], false⟩]
  | c :: rest =>
    if c = '\n' then ⟨[], true⟩ :: linesOf rest
    else match linesOf rest with
      | [] => [⟨[c], false⟩]
      | line :: lines => { line with text := c :: line.text } :: lines

/-- The text of lines. -/
def textOf (lines : List Line) : List Char :=
  lines.flatMap fun line => line.text ++ if line.ended then ['\n'] else []

/-- The number of blanks at the beginning of a line. -/
def Line.indentation (line : Line) : Nat :=
  (line.text.takeWhile (· == ' ')).length

/-- What happens to the ends of lines at the end of a block. -/
inductive Chomping where
  /-- They are left out. -/
  | strip
  /-- One is kept. -/
  | clip
  /-- All are kept. -/
  | keep
  deriving DecidableEq, Repr

/-- The indentation of a block that does not tell it: that of its first
line that is not empty, or of an emptier one that is indented further. -/
def detected? (least : Nat) : List Line → Option Nat
  | [] => some (max least 1)
  | line :: rest =>
    let n := line.indentation
    match line.text.drop n with
    | [] => if line.ended then detected? (max least n) rest else some (max (max least n) 1)
    | c :: _ => if c = '\t' then none else some (max (max least n) 1)

/-- The end of a block, as its chomping leaves it. -/
def Chomping.tail (chomping : Chomping) (ended : Bool) (further : Nat) : List Char :=
  match chomping with
  | .strip => []
  | .clip => if ended then ['\n'] else []
  | .keep => (if ended then ['\n'] else []) ++ List.replicate further '\n'

/-- What stands between two lines of a block. `indented` tells whether one
of them is indented further. -/
def between (literal ended indented : Bool) (further : Nat) : List Char :=
  (if !ended then []
   else if literal || indented then ['\n']
   else if further = 0 then [' '] else [])
    ++ List.replicate further '\n'

/-- The lines of a block, and the lines after it. `ended` and `indented`
are about the line before, and `further` counts the empty lines since. -/
def blockLines (literal : Bool) (chomping : Chomping) (indent : Nat) (ended indented : Bool)
    (further : Nat) : List Line → Option (List Char × List Line)
  | [] => some (chomping.tail ended further, [])
  | line :: rest =>
    let n := min line.indentation indent
    match line.text.drop n with
    | [] =>
      if line.ended then blockLines literal chomping indent ended indented (further + 1) rest
      else some (chomping.tail ended further, line :: rest)
    | c :: text =>
      if n < indent then
        if c = '\t' then none else some (chomping.tail ended further, line :: rest)
      else
        let blank : Bool := c = ' ' || c = '\t'
        (blockLines literal chomping indent line.ended blank 0 rest).map fun (more, lines) =>
          (between literal ended (indented || blank) further ++ (c :: text) ++ more, lines)

/-- What stands after the sign of a block: its chomping and its
indentation. -/
def blockHeader : List Char → Option (Chomping × Option Nat × List Char)
  | '+' :: c :: rest =>
    if '1' ≤ c ∧ c ≤ '9' then some (.keep, some (c.toNat - '0'.toNat), rest)
    else if c = '0' then none else some (.keep, none, c :: rest)
  | '-' :: c :: rest =>
    if '1' ≤ c ∧ c ≤ '9' then some (.strip, some (c.toNat - '0'.toNat), rest)
    else if c = '0' then none else some (.strip, none, c :: rest)
  | '+' :: [] => some (.keep, none, [])
  | '-' :: [] => some (.strip, none, [])
  | c :: rest =>
    if '1' ≤ c ∧ c ≤ '9' then
      let indent := some (c.toNat - '0'.toNat)
      match rest with
      | '+' :: rest => some (.keep, indent, rest)
      | '-' :: rest => some (.strip, indent, rest)
      | rest => some (.clip, indent, rest)
    else if c = '0' then none else some (.clip, none, c :: rest)
  | [] => some (.clip, none, [])

/-- **A block**, and the place after it. `least` is the least column that
it may be indented to. -/
def block (least : Nat) (p : Place) : Option (List Char × Place) := do
  let (literal, rest) ← match p.rest with
    | '|' :: rest => some (true, rest)
    | '>' :: rest => some (false, rest)
    | _ => none
  let (chomping, given, rest) ← blockHeader rest
  let rest := rest.dropWhile fun c => c = ' ' || c = '\t'
  let rest := if rest.head? = some '#' then rest.dropWhile (· != '\n') else rest
  match rest with
  | [] => some ([], { p with rest := [], keyAllowed := true })
  | c :: rest =>
    if c != '\n' then none
    else
      let lines := linesOf rest
      let indent ← match given with
        | some n => some (least - 1 + n)
        | none => detected? least lines
      let (text, after) ← blockLines literal chomping indent false false 0 lines
      some (text, {
        rest := textOf after
        line := p.line + 1 + (lines.length - after.length)
        column := 0
        keyAllowed := true })

end TableProfile.Yaml
