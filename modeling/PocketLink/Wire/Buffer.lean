import PocketLink.Operation
import PocketLink.Wire.Decoder

/-!
# Wire buffers

A buffer holds a request while it is written and a reply while it is read. It is a list of bytes
with a cursor, kept as the bytes before the cursor and the bytes behind it, so that the cursor is
never outside. Writing appends behind the unread bytes; reading moves the cursor.

A field that cannot be written or read leaves the buffer as it was. An operation made of several
fields keeps those that came before the failure, unless it is run atomically.
-/

namespace PocketLink

/-- Bytes with a read cursor. -/
structure Buffer where
  /-- The bytes before the cursor. -/
  consumed : List UInt8 := []
  /-- The bytes behind the cursor. -/
  unread : List UInt8 := []
  deriving DecidableEq, Repr

abbrev BufferM := Operation Buffer WireError

namespace Buffer

/-- The buffer without bytes. -/
def empty : Buffer := {}

/-- The buffer with the given bytes, none of them read. -/
def ofBytes (bytes : List UInt8) : Buffer := { unread := bytes }

/-- All bytes, read and unread. -/
def bytes (b : Buffer) : List UInt8 := b.consumed ++ b.unread

/-- The number of bytes. -/
def length (b : Buffer) : Nat := b.consumed.length + b.unread.length

/-- The place of the cursor. -/
def position (b : Buffer) : Nat := b.consumed.length

/-- The number of unread bytes. -/
def remaining (b : Buffer) : Nat := b.unread.length

/-- Whether the buffer has no bytes. -/
def isEmpty (b : Buffer) : Bool := b.length == 0

/-- The most bytes that one buffer can hold. How much memory there is, is not said anywhere; it is
assumed here that there are 64 GiB for each buffer, and an operation that would go beyond that fails
with `alloc`. That is more than any field or frame needs whose length a word counts
(`le_sizeLimit`), so that receiving a frame never fails for want of memory, and all that is proved
from that is proved under this assumption. -/
def sizeLimit : Nat := 0x1000000000

/-- Whatever a word counts, in bytes or in units, has room in a buffer, and so has the word. -/
theorem le_sizeLimit {n : Nat} (h : n ≤ 4 + 2 * UInt32.size) : n ≤ sizeLimit :=
  Nat.le_trans h (by decide)

/-- The buffer after `n` more unread bytes were read. -/
def advance (b : Buffer) (n : Nat) : Buffer :=
  { consumed := b.consumed ++ b.unread.take n, unread := b.unread.drop n }

/-! ## Writing -/

/-- Forgets all bytes. -/
def reset : BufferM Unit := set empty

/-- Appends bytes, all or none. -/
def append (bytes : List UInt8) : BufferM Unit := do
  let b ← get
  if b.length + bytes.length ≤ sizeLimit then
    set { b with unread := b.unread ++ bytes }
  else
    throw (.alloc bytes.length)

/-- Appends a 16-bit word. -/
def writeU16 (w : UInt16) : BufferM Unit := append (LittleEndian.u16 w)

def writeU32 (w : UInt32) : BufferM Unit := append (Encoding.word w)

/-- Appends a signed word. -/
def writeI32 (i : Int32) : BufferM Unit := append (Encoding.signed i)

/-- Appends a counted string, if a word can count its units. -/
def writeString (text : String) : BufferM Unit :=
  if Utf16.count text < UInt32.size then append (Encoding.string text)
  else throw (.stringTooLong (Utf16.count text))

/-- Appends a terminated string, if a word can count its bytes. -/
def writeTerminated (text : String) : BufferM Unit :=
  if 2 * (Utf16.count text + 1) < UInt32.size then append (Encoding.terminated text)
  else throw (.stringTooLong (Utf16.count text + 1))

/-- Appends an optional counted string. -/
def writeOptionalString : Option String → BufferM Unit
  | none => writeU32 Encoding.absent
  | some text => Operation.atomically do
    writeU32 Encoding.present
    writeString text

/-- Appends an optional word. -/
def writeOptionalU32 (value : Option UInt32) : BufferM Unit :=
  append (Encoding.optional Encoding.word value)

/-- Appends data that the device is to take, if a word can count its bytes. -/
def writeOptionalIn : Option (List UInt8) → BufferM Unit
  | none => writeU32 Encoding.absent
  | some data =>
    if data.length < UInt32.size then append (Encoding.optional Encoding.sized (some data))
    else throw (.fieldTooLarge data.length (UInt32.size - 1))

/-- Appends the number of bytes that the device may fill in its answer. -/
def writeOptionalOut (size : Option UInt32) : BufferM Unit := writeOptionalU32 size

/-! ## Reading -/

/-- Reads what a decoder takes off the unread bytes; a failure leaves the cursor where it was. -/
def read {α : Type} (field : Decoder α) : BufferM α := do
  let b ← get
  match field b.unread with
  | .ok (value, rest) =>
    set (b.advance (b.unread.length - rest.length))
    return value
  | .error e => throw e

/-- Reads a word. -/
def readU32 : BufferM UInt32 := read Decoder.u32

/-! ## Laws -/

@[simp] theorem bytes_ofBytes (bytes : List UInt8) : (ofBytes bytes).bytes = bytes := rfl

theorem length_eq (b : Buffer) : b.length = b.bytes.length := by
  simp [length, bytes]

theorem position_le_length (b : Buffer) : b.position ≤ b.length := Nat.le_add_right _ _

@[simp] theorem bytes_advance (b : Buffer) (n : Nat) : (b.advance n).bytes = b.bytes := by
  simp [advance, bytes]

theorem append_of_le {bytes : List UInt8} {b : Buffer}
    (h : b.length + bytes.length ≤ sizeLimit) :
    (append bytes).on b = (.ok (), { b with unread := b.unread ++ bytes }) := by
  simp [append, Operation.on_bind, h]

theorem append_of_gt {bytes : List UInt8} {b : Buffer}
    (h : sizeLimit < b.length + bytes.length) :
    (append bytes).on b = (.error (.alloc bytes.length), b) := by
  simp [append, Operation.on_bind, Nat.not_le.mpr h]

theorem writeString_of_lt {text : String} (h : Utf16.length text < UInt32.size) :
    writeString text = append (Encoding.string text) := by
  rw [writeString, Utf16.count_eq, if_pos h]

theorem writeString_of_ge {text : String} (h : UInt32.size ≤ Utf16.length text) :
    writeString text = throw (.stringTooLong (Utf16.length text)) := by
  rw [writeString, Utf16.count_eq, if_neg (Nat.not_lt.mpr h)]

theorem writeTerminated_of_lt {text : String} (h : 2 * (Utf16.length text + 1) < UInt32.size) :
    writeTerminated text = append (Encoding.terminated text) := by
  rw [writeTerminated, Utf16.count_eq, if_pos h]

theorem writeTerminated_of_ge {text : String} (h : UInt32.size ≤ 2 * (Utf16.length text + 1)) :
    writeTerminated text = throw (.stringTooLong (Utf16.length text + 1)) := by
  rw [writeTerminated, Utf16.count_eq, if_neg (Nat.not_lt.mpr h)]

theorem read_of_ok {α : Type} {field : Decoder α} {b : Buffer} {value : α} {rest : List UInt8}
    (h : field b.unread = .ok (value, rest)) :
    (read field).on b = (.ok value, b.advance (b.unread.length - rest.length)) := by
  simp [read, Operation.on_bind, h, Except.map]

theorem read_of_error {α : Type} {field : Decoder α} {b : Buffer} {e : WireError}
    (h : field b.unread = .error e) : (read field).on b = (.error e, b) := by
  simp [read, Operation.on_bind, h]

/-- A read leaves all bytes in place, whether it succeeds or fails. -/
theorem bytes_read {α : Type} (field : Decoder α) (b : Buffer) :
    ((read field).on b).2.bytes = b.bytes := by
  cases h : field b.unread with
  | ok p => rw [read_of_ok h, bytes_advance]
  | error e => rw [read_of_error h]

end Buffer

end PocketLink
