import TableProfile.Text.Visible

/-!
# Delimiters

Fields are divided by one byte, so a delimiter is an ASCII character.
-/

namespace TableProfile.Delimited

/-- The byte of a delimiter, if it is an ASCII character. -/
def byteOf? (c : Char) : Option UInt8 :=
  if c.toNat < 0x80 then some (UInt8.ofNat c.toNat) else none

/-- The wording for a character that is no delimiter. -/
def delimiterFault (c : Char) : String :=
  "delimiter must be a single ASCII character, got " ++ Text.showCharacter c

end TableProfile.Delimited
