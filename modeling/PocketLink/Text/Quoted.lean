import PocketLink.Text.Unprintable

/-!
# Quoted names

A name inside a message stands between double quotes. A backslash marks the quote, the backslash
itself, the four named controls, and every other character without a visible form, which is given
by its code point in braces.
-/

namespace PocketLink.Quoted

/-- The code point of a character in small hexadecimal digits, without leading zeros. -/
def codePoint (c : Char) : List Char :=
  ['\\', 'u', '{'] ++ Nat.toDigits 16 c.toNat ++ ['}']

/-- One character as it stands between the quotes. -/
def escape (c : Char) : List Char :=
  match c with
  | '\x00' => ['\\', '0']
  | '\t' => ['\\', 't']
  | '\r' => ['\\', 'r']
  | '\n' => ['\\', 'n']
  | '\\' => ['\\', '\\']
  | '"' => ['\\', '"']
  | c => if Unprintable.isUnprintable c then codePoint c else [c]

/-- A text between quotes, with everything marked that has no visible form. -/
def quote (text : String) : String :=
  String.ofList (['"'] ++ text.toList.flatMap escape ++ ['"'])

end PocketLink.Quoted
