import TableProfile.Number.Digits

/-!
# Text in JSON

Text stands between double quotes. A double quote, a backslash and the
control characters are written with a backslash in front; any character
may be written as a backslash, the letter u and the four hexadecimal
digits of a code unit, and a character beyond the first plane then takes
two of them. A unit that is half of such a pair stands for nothing.

Reading is done in two steps, because text that is passed over need not
make sense: the first step takes the text apart and finds its end, the
second joins the units.
-/

namespace TableProfile.Json

/-- **Why a text is not read.** -/
inductive Fault where
  /-- It does not follow the grammar. -/
  | syntaxError
  /-- It is well formed, but not what was asked for. -/
  | dataError
  /-- It ends too early. -/
  | unexpectedEnd
  deriving DecidableEq, Repr

/-- A piece of quoted text: a character, or a code unit by its number. -/
inductive Piece where
  /-- A character. -/
  | character (c : Char)
  /-- A code unit of sixteen bits. -/
  | unit (code : Nat)
  deriving DecidableEq, Repr

/-- The character that a letter after a backslash stands for. -/
def escaped? : Char → Option Char
  | '"' => some '"'
  | '\\' => some '\\'
  | '/' => some '/'
  | 'b' => some '\x08'
  | 'f' => some '\x0c'
  | 'n' => some '\n'
  | 'r' => some '\r'
  | 't' => some '\t'
  | _ => none

/-- The number that four hexadecimal digits write. -/
def fourDigits? (a b c d : Char) : Option Nat :=
  Number.numberIn? 16 [a, b, c, d]

/-- **The pieces of a text up to its closing quote**, and what comes then:
the text after the quote, or the reason that there is none. -/
def pieces : List Char → List Piece × Except Fault (List Char)
  | [] => ([], .error .unexpectedEnd)
  | '"' :: rest => ([], .ok rest)
  | '\\' :: [] => ([], .error .unexpectedEnd)
  | '\\' :: 'u' :: a :: b :: c :: d :: rest =>
    match fourDigits? a b c d with
    | some code => (.unit code :: (pieces rest).1, (pieces rest).2)
    | none => ([], .error .syntaxError)
  | '\\' :: 'u' :: rest =>
    ([], .error (if (String.ofList rest).utf8ByteSize < 4 then .unexpectedEnd else .syntaxError))
  | '\\' :: letter :: rest =>
    match escaped? letter with
    | some c => (.character c :: (pieces rest).1, (pieces rest).2)
    | none => ([], .error .syntaxError)
  | c :: rest =>
    if c.toNat < 0x20 then ([], .error .syntaxError)
    else (.character c :: (pieces rest).1, (pieces rest).2)

/-- What comes after the closing quote is less than the text. -/
theorem length_pieces {text rest : List Char} (h : (pieces text).2 = .ok rest) :
    rest.length < text.length := by
  fun_induction pieces text with
  | case1 | case3 | case5 | case6 | case8 | case9 => simp_all
  | case2 => simp_all
  | case4 _ _ _ _ _ _ _ ih | case7 _ _ _ _ _ _ ih | case10 _ _ _ _ _ _ _ _ ih =>
    have := ih h
    simp only [List.length_cons]
    omega

/-- Whether a code unit is the first half of a pair. -/
def isLeading (code : Nat) : Bool :=
  0xd800 ≤ code && code ≤ 0xdbff

/-- Whether a code unit is the second half of a pair. -/
def isTrailing (code : Nat) : Bool :=
  0xdc00 ≤ code && code ≤ 0xdfff

/-- The character of a pair of code units. -/
def paired (leading trailing : Nat) : Char :=
  Char.ofNat (0x10000 + (leading - 0xd800) * 0x400 + (trailing - 0xdc00))

/-- **The text of pieces**, if no half of a pair stands alone. -/
def content? : List Piece → Option (List Char)
  | [] => some []
  | .character c :: rest => (content? rest).map (c :: ·)
  | .unit leading :: .unit code :: rest =>
    if isTrailing leading then none
    else if isLeading leading then
      if isTrailing code then (content? rest).map (paired leading code :: ·) else none
    else (content? (.unit code :: rest)).map (Char.ofNat leading :: ·)
  | .unit code :: rest =>
    if isTrailing code || isLeading code then none
    else (content? rest).map (Char.ofNat code :: ·)

/-- The pieces without a half at the end that still waits for its other
half. -/
def withoutWaiting (text : List Piece) : List Piece :=
  match text.getLast? with
  | some (.unit code) => if isLeading code then text.dropLast else text
  | _ => text

/-- The fault of a text that has no end, if it is read and not passed
over: a half that stands alone comes before the end. -/
def unfinishedFault (text : List Piece) (fault : Fault) : Fault :=
  if (content? (withoutWaiting text)).isNone then .syntaxError else fault

/-! ## Writing -/

/-- A hexadecimal digit. -/
def hexadecimalDigit (n : Nat) : Char :=
  Nat.digitChar (n % 16)

/-- A character as it stands between quotes. -/
def encodeCharacter (c : Char) : List Char :=
  match c with
  | '"' => ['\\', '"']
  | '\\' => ['\\', '\\']
  | '\x08' => ['\\', 'b']
  | '\x0c' => ['\\', 'f']
  | '\n' => ['\\', 'n']
  | '\r' => ['\\', 'r']
  | '\t' => ['\\', 't']
  | c =>
    if c.toNat < 0x20 then
      ['\\', 'u', '0', '0', hexadecimalDigit (c.toNat / 16), hexadecimalDigit c.toNat]
    else [c]

/-- **Text between quotes.** -/
def encode (text : List Char) : List Char :=
  '"' :: text.flatMap encodeCharacter ++ ['"']

end TableProfile.Json
