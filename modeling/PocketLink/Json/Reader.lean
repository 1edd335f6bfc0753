import PocketLink.Json.Basic
import PocketLink.Text.Hex
import PocketLink.Text.Utf16

/-!
# Reading JSON

The reader accepts the usual grammar and nothing beside it: four blank characters, no leading zeros,
no trailing commas, no control characters inside strings. A string literal is read as the list of
UTF-16 units that its characters and escapes denote; it stands for a text if those units are
well-formed.

Nesting is followed with fuel, of which a document never needs more than two for each character.
-/

namespace PocketLink.Json

/-- The characters that may stand between tokens. -/
def isBlank (c : Char) : Bool := c = ' ' || c = '\t' || c = '\n' || c = '\r'

/-- A text without the blanks in front. -/
def skip (cs : List Char) : List Char := cs.dropWhile isBlank

/-- The unit that a one-letter escape stands for. -/
def escapedUnit? (c : Char) : Option UInt16 :=
  match c with
  | '"' => some 0x22
  | '\\' => some 0x5C
  | '/' => some 0x2F
  | 'b' => some 0x08
  | 'f' => some 0x0C
  | 'n' => some 0x0A
  | 'r' => some 0x0D
  | 't' => some 0x09
  | _ => none

/-- The units of a string literal whose opening quote was read, behind the units read so far in
reverse, and the text after the closing quote. -/
def unitsFrom? (before : List UInt16) : List Char → Option (List UInt16 × List Char)
  | [] => none
  | '"' :: rest => some (before.reverse, rest)
  | '\\' :: 'u' :: a :: b :: c :: d :: rest => do
    let code ← Hex.valueFrom? 0 [a, b, c, d]
    unitsFrom? (UInt16.ofNat code :: before) rest
  | '\\' :: c :: rest => do
    let unit ← escapedUnit? c
    unitsFrom? (unit :: before) rest
  | c :: rest =>
    if c.toNat < 0x20 || c = '\\' then none
    else unitsFrom? ((Utf16.ofChar c).reverse ++ before) rest

/-- A string literal whose opening quote was read. -/
def literal? (cs : List Char) : Option (Literal × List Char) := do
  let (units, rest) ← unitsFrom? [] cs
  return (Utf16.decode? units, rest)

/-- The number that decimal digits stand for. -/
def digitsValue (digits : List Char) : Nat :=
  digits.foldl (fun n c => 10 * n + (c.toNat - 0x30)) 0

/-- The digits in front, of which there must be at least one. -/
def digits? (cs : List Char) : Option (List Char × List Char) :=
  match cs.takeWhile Char.isDigit with
  | [] => none
  | ds => some (ds, cs.dropWhile Char.isDigit)

/-- The fraction in front, if there is one: what it is written as, and the rest. -/
def fraction? : List Char → Option (List Char × List Char)
  | '.' :: rest => do
    let (ds, rest) ← digits? rest
    return ('.' :: ds, rest)
  | cs => some ([], cs)

/-- The exponent in front, if there is one: what it is written as, and the rest. -/
def exponent? : List Char → Option (List Char × List Char)
  | [] => some ([], [])
  | c :: cs =>
    if c = 'e' || c = 'E' then
      let (sign, cs) := match cs with
        | '+' :: rest => (['+'], rest)
        | '-' :: rest => (['-'], rest)
        | _ => ([], cs)
      do
        let (ds, rest) ← digits? cs
        return (c :: sign ++ ds, rest)
    else some ([], c :: cs)

def number? (cs : List Char) : Option (Json × List Char) := do
  let (negative, cs) := match cs with
    | '-' :: rest => (true, rest)
    | _ => (false, cs)
  let (whole, rest) ← digits? cs
  if 1 < whole.length && whole.head? = some '0' then none
  let (fraction, rest) ← fraction? rest
  let (exponent, rest) ← exponent? rest
  let n := digitsValue whole
  if fraction.isEmpty && exponent.isEmpty && !(negative && n = 0) then
    return (.integer (if negative then -(n : Int) else n), rest)
  else
    let sign := if negative then ['-'] else []
    return (.decimal (String.ofList (sign ++ whole ++ fraction ++ exponent)), rest)

mutual

/-- A value, and the text behind it. -/
def value? : Nat → List Char → Option (Json × List Char)
  | 0, _ => none
  | fuel + 1, cs =>
    match skip cs with
    | '{' :: rest =>
      match skip rest with
      | '}' :: rest => some (.object [], rest)
      | rest => members? fuel [] rest
    | '[' :: rest =>
      match skip rest with
      | ']' :: rest => some (.array [], rest)
      | rest => items? fuel [] rest
    | '"' :: rest => do
      let (text, rest) ← literal? rest
      return (.string text, rest)
    | 'n' :: 'u' :: 'l' :: 'l' :: rest => some (.null, rest)
    | 't' :: 'r' :: 'u' :: 'e' :: rest => some (.bool true, rest)
    | 'f' :: 'a' :: 'l' :: 's' :: 'e' :: rest => some (.bool false, rest)
    | cs => number? cs

/-- The items of a list from the next one on, behind those read so far in reverse. -/
def items? : Nat → List Json → List Char → Option (Json × List Char)
  | 0, _, _ => none
  | fuel + 1, before, cs =>
    match value? fuel cs with
    | none => none
    | some (item, rest) =>
      match skip rest with
      | ',' :: rest => items? fuel (item :: before) rest
      | ']' :: rest => some (.array (item :: before).reverse, rest)
      | _ => none

/-- The members of an object from the next one on, behind those read so far in reverse. -/
def members? : Nat → List (Literal × Json) → List Char → Option (Json × List Char)
  | 0, _, _ => none
  | fuel + 1, before, cs =>
    match skip cs with
    | '"' :: rest =>
      match literal? rest with
      | none => none
      | some (name, rest) =>
        match skip rest with
        | ':' :: rest =>
          match value? fuel rest with
          | none => none
          | some (item, rest) =>
            match skip rest with
            | ',' :: rest => members? fuel ((name, item) :: before) rest
            | '}' :: rest => some (.object ((name, item) :: before).reverse, rest)
            | _ => none
        | _ => none
    | _ => none

end

/-- The value of a whole document; `none` if the text is no JSON document. -/
def parse? (text : String) : Option Json :=
  let cs := text.toList
  match value? (2 * cs.length + 2) cs with
  | some (v, rest) => if (skip rest).isEmpty then some v else none
  | none => none

end PocketLink.Json
