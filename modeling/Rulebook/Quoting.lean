/-!
# Quoted texts

Messages and display texts show a text as it is.  The values inside trace entries
and what is printed for inspection show it between quotation marks, and so that
everything in it can be seen: the characters that mean something between quotation
marks follow a backslash, and those that leave no mark are written by name or by
number.
-/

namespace Rulebook

namespace Quoting

/-- The code points that leave no mark on their own, as first and last members of
ranges: controls, signs that only format, spaces other than the blank, ends of
lines and of paragraphs, and what is set aside for special or private use.  Left
out of the table are signs that join the character before them and code points
to which no character is assigned yet, so both are written as they are. -/
def unseen : List (Nat × Nat) :=
  [(0x00, 0x1f), (0x7f, 0xa0), (0xad, 0xad), (0x600, 0x605), (0x61c, 0x61c),
    (0x6dd, 0x6dd), (0x70f, 0x70f), (0x890, 0x891), (0x8e2, 0x8e2),
    (0x1680, 0x1680), (0x180e, 0x180e), (0x2000, 0x200f), (0x2028, 0x202f),
    (0x205f, 0x206f), (0x3000, 0x3000), (0xe000, 0xf8ff), (0xfeff, 0xfeff),
    (0xfff0, 0xfffb), (0xfffe, 0xffff), (0x110bd, 0x110bd), (0x110cd, 0x110cd),
    (0x13430, 0x1343f), (0x1bca0, 0x1bca3), (0x1d173, 0x1d17a),
    (0xe0000, 0x10ffff)]

def isSeen (character : Char) : Bool :=
  unseen.all fun (first, last) =>
    character.toNat < first || last < character.toNat

/-- A number in hexadecimal digits, the letters among them being small. -/
def hexadecimal (number : Nat) : String :=
  String.ofList (Nat.toDigits 16 number)

/-- A character as it stands between quotation marks. -/
def escape (character : Char) : String :=
  match character with
  | '\x00' => "\\0"
  | '\t' => "\\t"
  | '\n' => "\\n"
  | '\r' => "\\r"
  | '\\' => "\\\\"
  | '"' => "\\\""
  | _ =>
      if isSeen character then
        character.toString
      else
        "\\u\x7b" ++ hexadecimal character.toNat ++ "\x7d"

/-- A text between quotation marks. -/
def quoted (text : String) : String :=
  "\"" ++ String.join (text.toList.map escape) ++ "\""

end Quoting

end Rulebook
