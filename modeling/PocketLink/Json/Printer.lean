import PocketLink.Json.Basic
import PocketLink.Text.Hex

/-!
# Writing JSON

Documents are written in two layouts: compact, in one line without blanks, and spread, with one item
or member on a line and two blanks for each level of nesting. In both, strings escape only what the
grammar asks for, with the short escapes where there are any.
-/

namespace PocketLink.Json

/-- A character inside a string literal. -/
def escape (c : Char) : List Char :=
  match c with
  | '"' => ['\\', '"']
  | '\\' => ['\\', '\\']
  | '\x08' => ['\\', 'b']
  | '\x0C' => ['\\', 'f']
  | '\n' => ['\\', 'n']
  | '\r' => ['\\', 'r']
  | '\t' => ['\\', 't']
  | c => if c.toNat < 0x20 then ['\\', 'u'] ++ Hex.fixed Hex.lower 4 c.toNat else [c]

/-- A string literal. -/
def quote (text : String) : List Char := ['"'] ++ text.toList.flatMap escape ++ ['"']

/-- A literal without a text is written like the empty one. -/
def quoteLiteral (text : Literal) : List Char := quote (text.getD "")

/-- An integer in decimal digits. -/
def digits (n : Int) : List Char :=
  match n with
  | .ofNat n => Nat.toDigits 10 n
  | .negSucc n => '-' :: Nat.toDigits 10 (n + 1)

mutual

/-- A value in one line. -/
def compactChars : Json → List Char
  | .null => ['n', 'u', 'l', 'l']
  | .bool true => ['t', 'r', 'u', 'e']
  | .bool false => ['f', 'a', 'l', 's', 'e']
  | .integer n => digits n
  | .decimal written => written.toList
  | .string text => quoteLiteral text
  | .array items => '[' :: compactItems items
  | .object members => '{' :: compactMembers members

/-- Items and the closing bracket. -/
def compactItems : List Json → List Char
  | [] => [']']
  | [item] => compactChars item ++ [']']
  | item :: items => compactChars item ++ ',' :: compactItems items

/-- Members and the closing brace. -/
def compactMembers : List (Literal × Json) → List Char
  | [] => ['}']
  | [(name, item)] => quoteLiteral name ++ ':' :: compactChars item ++ ['}']
  | (name, item) :: members =>
    quoteLiteral name ++ ':' :: compactChars item ++ ',' :: compactMembers members

end

/-- A line break and the blanks of a nesting level. -/
def newLine (level : Nat) : List Char := '\n' :: List.replicate (2 * level) ' '

mutual

/-- A value at a nesting level, with its parts on lines of their own. -/
def spreadChars (level : Nat) : Json → List Char
  | .null => ['n', 'u', 'l', 'l']
  | .bool true => ['t', 'r', 'u', 'e']
  | .bool false => ['f', 'a', 'l', 's', 'e']
  | .integer n => digits n
  | .decimal written => written.toList
  | .string text => quoteLiteral text
  | .array [] => ['[', ']']
  | .array items => '[' :: spreadItems (level + 1) items ++ newLine level ++ [']']
  | .object [] => ['{', '}']
  | .object members => '{' :: spreadMembers (level + 1) members ++ newLine level ++ ['}']

/-- Items, each on a line of its own. -/
def spreadItems (level : Nat) : List Json → List Char
  | [] => []
  | [item] => newLine level ++ spreadChars level item
  | item :: items => newLine level ++ spreadChars level item ++ ',' :: spreadItems level items

/-- Members, each on a line of its own. -/
def spreadMembers (level : Nat) : List (Literal × Json) → List Char
  | [] => []
  | [(name, item)] =>
    newLine level ++ quoteLiteral name ++ [':', ' '] ++ spreadChars level item
  | (name, item) :: members =>
    newLine level ++ quoteLiteral name ++ [':', ' '] ++ spreadChars level item ++
      ',' :: spreadMembers level members

end

/-- A document in one line. -/
def compact (v : Json) : String := String.ofList (compactChars v)

/-- A document with one item or member on a line. -/
def spread (v : Json) : String := String.ofList (spreadChars 0 v)

end PocketLink.Json
