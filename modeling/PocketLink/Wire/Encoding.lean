import PocketLink.Text.Utf16
import PocketLink.Wire.LittleEndian

/-!
# Encoded fields

The bytes of each kind of field. A string comes in two forms: counted, with the number of its units
in front, and terminated, with the number of its bytes in front and a zero unit behind, which the
number includes. An optional field has a presence word in front, so that an empty value differs
from an absent one.

Length words wrap here like any word; the buffer refuses what does not fit before it asks for the
bytes.
-/

namespace PocketLink.Encoding

/-- The presence word of an optional field that carries a value. -/
def present : UInt32 := 1

/-- The presence word of an optional field without a value. -/
def absent : UInt32 := 0

def word (w : UInt32) : List UInt8 := LittleEndian.u32 w

/-- A signed word, in two's complement. -/
def signed (i : Int32) : List UInt8 := word i.toUInt32

/-- Units behind their length word. -/
def prefixed (length : Nat) (units : List UInt16) : List UInt8 :=
  word (UInt32.ofNat length) ++ LittleEndian.ofUnits units

/-- A counted string: the number of units, then the units. -/
def string (text : String) : List UInt8 := prefixed (Utf16.length text) (Utf16.encode text)

/-- A terminated string: the number of bytes, then the units and a zero unit. -/
def terminated (text : String) : List UInt8 :=
  prefixed (2 * (Utf16.length text + 1)) (Utf16.encode text ++ [0])

/-- Bytes behind their length word. -/
def sized (data : List UInt8) : List UInt8 := word (UInt32.ofNat data.length) ++ data

/-- An optional field: its presence word, then its bytes if there are any. -/
def optional {α : Type} (field : α → List UInt8) : Option α → List UInt8
  | none => word absent
  | some value => word present ++ field value

end PocketLink.Encoding
