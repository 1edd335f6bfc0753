/-!
# JSON values

Device files and settings are JSON documents. The value type keeps what a reader of such a document
can tell apart: plain integers from all other numbers, and string literals that stand for a text
from those that escape half of a surrogate pair and so stand for none. Objects keep their members in
the order of the document, duplicates included.
-/

namespace PocketLink

/-- What a string literal stands for: a text, or nothing if its escapes are not UTF-16. -/
abbrev Json.Literal := Option String

/-- A JSON value. -/
inductive Json where
  /-- The literal `null`. -/
  | null
  /-- One of the literals `true` and `false`. -/
  | bool (value : Bool)
  /-- A number written as a plain integer other than `-0`. -/
  | integer (value : Int)
  /-- Any other number, kept as it is written. -/
  | decimal (written : String)
  /-- A string. -/
  | string (value : Json.Literal)
  /-- A list of values. -/
  | array (items : List Json)
  /-- Named values, in order. -/
  | object (members : List (Json.Literal × Json))
  deriving Repr, Inhabited

namespace Json

/-- The string value of a text. -/
def ofText (text : String) : Json := .string (some text)

/-- The number value of a natural number. -/
def ofNat (n : Nat) : Json := .integer n

/-- An object with the given names. -/
def ofMembers (members : List (String × Json)) : Json :=
  .object (members.map fun (name, value) => (some name, value))

/-- A value, or `null` for an absent one. -/
def ofOption {α : Type} (value : α → Json) : Option α → Json
  | none => .null
  | some a => value a

/-- The first value with the given name. -/
def member? (name : String) : Json → Option Json
  | .object members => (members.find? fun m => m.1 == some name).map Prod.snd
  | _ => none

end Json

end PocketLink
