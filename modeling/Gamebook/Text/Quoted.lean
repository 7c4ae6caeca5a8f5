/-!
# Quoted text in messages

Messages show a text between quotes with everything escaped that would not be visible.
-/

namespace Gamebook

namespace Text

private def hexDigits (n : Nat) : String := String.ofList (Nat.toDigits 16 n)

/-- Ranges of characters that show nothing of their own: controls, format characters, separators
other than the blank, combining marks, private use. -/
private def hiddenRanges : List (Nat × Nat) :=
  [(0, 31), (0x7f, 0xa0), (0xad, 0xad), (0x300, 0x36f), (0x483, 0x489), (0x591, 0x5bd),
   (0x5bf, 0x5bf), (0x5c1, 0x5c2), (0x5c4, 0x5c5), (0x5c7, 0x5c7), (0x600, 0x605), (0x610, 0x61a),
   (0x61c, 0x61c), (0x64b, 0x65f), (0x670, 0x670), (0x6d6, 0x6dd), (0x1680, 0x1680),
   (0x180b, 0x180f), (0x2000, 0x200f), (0x2028, 0x202f), (0x205f, 0x206f), (0x20d0, 0x20f0),
   (0x3000, 0x3000), (0x302a, 0x302f), (0x3099, 0x309a), (0xd800, 0xf8ff), (0xfe00, 0xfe0f),
   (0xfe20, 0xfe2f), (0xfeff, 0xfeff), (0xfff0, 0xfffb), (0xfffe, 0xffff), (0xe0000, 0x10ffff)]

/-- One character between the quotes of a message. -/
def quotedChar (c : Char) : String :=
  if c = '"' then "\\\""
  else if c = '\\' then "\\\\"
  else if c = '\n' then "\\n"
  else if c = '\r' then "\\r"
  else if c = '\t' then "\\t"
  else if c = '\x00' then "\\0"
  else if hiddenRanges.any (fun r => r.1 ≤ c.toNat && c.toNat ≤ r.2) then
    "\\u\x7b" ++ hexDigits c.toNat ++ "\x7d"
  else String.ofList [c]

/-- A text as messages show it. -/
def quoted (s : String) : String := "\"" ++ String.join (s.toList.map quotedChar) ++ "\""

end Text

end Gamebook
