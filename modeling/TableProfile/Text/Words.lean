import TableProfile.Text.Alphanumeric
import TableProfile.Text.LowerCase
import TableProfile.Text.WordClass

/-!
# Words

A text falls into segments at the word boundaries of Unicode, and the
words are the segments with a letter or a number in them. Words are taken
from the text in small letters.

A segment is its first character and whatever may follow it. What may
follow is decided by the last significant character, a `Run`; marks,
format controls and joiners attach to what stands before them and decide
nothing, except that a joiner ties a pictograph to what stands before.
Punctuation between two letters or two digits is followed only when the
character beyond it is the one wanted, so the run looks ahead for it.
-/

namespace TableProfile.Text

/-- **What a segment ends in so far**, which decides what may follow. -/
inductive Run where
  /-- A letter. -/
  | letter
  /-- A Hebrew letter. -/
  | hebrew
  /-- A digit. -/
  | digit
  /-- A Katakana character. -/
  | katakana
  /-- Connecting punctuation. -/
  | connector
  /-- A flag letter without its partner. -/
  | halfFlag
  /-- A space. -/
  | space
  /-- A Hebrew letter and an apostrophe. -/
  | hebrewQuote
  /-- Punctuation that is known to have its partner beyond it. -/
  | bridge
  /-- A character that nothing follows, marks apart. -/
  | closed
  deriving DecidableEq, Repr

namespace Run

/-- The run a segment begins with. -/
def start : WordClass → Run
  | .letter => letter
  | .hebrewLetter => hebrew
  | .digit => digit
  | .katakana => katakana
  | .connector => connector
  | .flag => halfFlag
  | .space => space
  | _ => closed

/-- The character beyond a bridge of punctuation, past attached ones: a
pictograph behind a joiner, or a character of a class that is wanted. -/
def reaches (wanted : WordClass → Bool) (joined : Bool) : List Char → Bool
  | [] => false
  | c :: rest =>
    let k := WordClass.of c
    if k.isAttached then reaches wanted (k = .joiner) rest
    else (joined && isPictograph c) || wanted k

/-- **The run after a character of class `k`**, or nothing where a new
segment begins. `rest` is the text beyond that character, and `loose`
tells that attached characters stand between it and the run. -/
def next (run : Run) (k : WordClass) (loose : Bool) (rest : List Char) : Option Run :=
  match run with
  | letter | hebrew => match k with
    | .letter => some letter
    | .hebrewLetter => some hebrew
    | .digit => some digit
    | .connector => some connector
    | .doubleQuote =>
      if run = hebrew && reaches (· == .hebrewLetter) false rest then some bridge else none
    | .singleQuote =>
      if run = hebrew then some hebrewQuote else throughLetters rest
    | .midLetter | .midBoth => throughLetters rest
    | _ => none
  | digit => match k with
    | .digit => some digit
    | .letter => some letter
    | .hebrewLetter => some hebrew
    | .connector => some connector
    | .midNumber | .midBoth | .singleQuote =>
      if reaches (· == .digit) false rest then some bridge else none
    | _ => none
  | katakana => match k with
    | .katakana => some katakana
    | .connector => some connector
    | _ => none
  | connector => match k with
    | .connector => some connector
    | .letter => some letter
    | .hebrewLetter => some hebrew
    | .digit => some digit
    | .katakana => some katakana
    | _ => none
  | halfFlag => if k = .flag then some closed else none
  | space => if k = .space && !loose then some space else none
  | hebrewQuote => match k with
    | .letter => some letter
    | .hebrewLetter => some hebrew
    | _ => none
  | bridge => match k with
    | .letter => some letter
    | .hebrewLetter => some hebrew
    | .digit => some digit
    | _ => none
  | closed => none
where
  /-- Punctuation between letters holds where a letter stands beyond it. -/
  throughLetters (rest : List Char) : Option Run :=
    if reaches (fun k => k == .letter || k == .hebrewLetter) false rest then some bridge else none

end Run

/-- **The rest of a segment and the text after it.** `joined` tells that
the character before is a joiner. -/
def segmentRest (run : Run) (joined loose : Bool) : List Char → List Char × List Char
  | [] => ([], [])
  | c :: rest =>
    let k := WordClass.of c
    if k.isAttached then
      let (segment, after) := segmentRest run (k = .joiner) true rest
      (c :: segment, after)
    else if joined && isPictograph c then
      let (segment, after) := segmentRest .closed false loose rest
      (c :: segment, after)
    else match run.next k loose rest with
      | some run =>
        let (segment, after) := segmentRest run false loose rest
        (c :: segment, after)
      | none => ([], c :: rest)

/-- The segment that begins with `c`, and the text after it. A line break
is a segment of its own, and a carriage return takes the line feed after
it along. -/
def segment (c : Char) (rest : List Char) : List Char × List Char :=
  match WordClass.of c, rest with
  | .carriageReturn, '\n' :: rest => ([c, '\n'], rest)
  | .carriageReturn, rest | .lineFeed, rest | .newline, rest => ([c], rest)
  | k, rest =>
    let (tail, after) := segmentRest (.start k) (k = .joiner) false rest
    (c :: tail, after)

/-- Nothing is lost between the rest of a segment and the text after. -/
theorem segmentRest_append (run : Run) (joined loose : Bool) (s : List Char) :
    (segmentRest run joined loose s).1 ++ (segmentRest run joined loose s).2 = s := by
  induction s generalizing run joined loose with
  | nil => rfl
  | cons c rest ih =>
    simp only [segmentRest]
    split
    · simp [ih]
    · split
      · simp [ih]
      · split <;> simp [ih]

/-- A segment and the text after it are the text. -/
theorem segment_append (c : Char) (rest : List Char) :
    (segment c rest).1 ++ (segment c rest).2 = c :: rest := by
  unfold segment
  split <;> simp [segmentRest_append]

/-- A segment holds its first character. -/
theorem segment_ne_nil (c : Char) (rest : List Char) : (segment c rest).1 ≠ [] := by
  unfold segment
  split <;> simp

/-- The text after a segment is shorter than the text. -/
theorem length_segment_snd_le (c : Char) (rest : List Char) :
    (segment c rest).2.length ≤ rest.length := by
  have whole := congrArg List.length (segment_append c rest)
  have some := List.length_pos_iff.2 (segment_ne_nil c rest)
  simp only [List.length_append, List.length_cons] at whole
  omega

/-- **The segments of a text**, from left to right. -/
def segments : List Char → List (List Char)
  | [] => []
  | c :: rest =>
    (segment c rest).1 :: segments (segment c rest).2
termination_by s => s.length
decreasing_by
  have := length_segment_snd_le c rest
  simp only [List.length_cons]
  omega

/-- **The words of a text**, in small letters. -/
def words (s : String) : List String :=
  ((segments (lowerCase s.toList)).filter (·.any isAlphanumeric)).map String.ofList

end TableProfile.Text
