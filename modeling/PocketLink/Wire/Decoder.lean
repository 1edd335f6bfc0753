import PocketLink.Text.Utf16
import PocketLink.Wire.Encoding
import PocketLink.Wire.Error

/-!
# Decoders

A decoder takes a field off the front of the unread bytes: it answers the value and the bytes that
follow, or it fails. Since a failure answers no bytes at all, a field of several parts is read whole
or not at all, whichever part is missing.
-/

namespace PocketLink

/-- A function from the unread bytes to a value and the bytes behind it. -/
abbrev Decoder := StateT (List UInt8) (Except WireError)

namespace Decoder

/-- The first `n` bytes. -/
def take (n : Nat) : Decoder (List UInt8) := fun unread =>
  if n ≤ unread.length then .ok (unread.take n, unread.drop n)
  else .error (.truncated n unread.length)

/-- A 16-bit word. -/
def u16 : Decoder UInt16 := do
  return UInt16.ofNat (LittleEndian.value (← take 2))

/-- A word. -/
def u32 : Decoder UInt32 := do
  return UInt32.ofNat (LittleEndian.value (← take 4))

/-- A signed word. -/
def i32 : Decoder Int32 := do
  return (← u32).toInt32

/-- A list of units without the zero units at its end. -/
def stripZeros (units : List UInt16) : List UInt16 :=
  (units.reverse.dropWhile (· == 0)).reverse

/-- The text of a string body. Zero units at its end belong to no text. -/
def text (body : List UInt8) : Except WireError String :=
  if body.length % 2 ≠ 0 then .error .invalidUtf16
  else match Utf16.decode? (stripZeros (LittleEndian.toUnits body)) with
    | some s => .ok s
    | none => .error .invalidUtf16

/-- A counted string: the number of units, then the units. -/
def string : Decoder String := do
  let count ← u32
  text (← take (2 * count.toNat))

/-- A terminated string: the number of bytes, then the units. -/
def terminated : Decoder String := do
  let size ← u32
  text (← take size.toNat)

/-- An optional field: any presence word but zero announces a value. -/
def optional {α : Type} (field : Decoder α) : Decoder (Option α) := do
  if (← u32) = Encoding.absent then return none
  return some (← field)

/-- Bytes behind their length word, which may announce no more than `max`. -/
def sized (max : Nat) : Decoder (List UInt8) := do
  let size ← u32
  if max < size.toNat then throw (.fieldTooLarge size.toNat max)
  take size.toNat

/-! ## Laws -/

theorem take_append (taken rest : List UInt8) :
    take taken.length (taken ++ rest) = .ok (taken, rest) := by
  simp [take]

theorem take_of_lt {n : Nat} {unread : List UInt8} (h : unread.length < n) :
    take n unread = .error (.truncated n unread.length) := by
  simp [take, Nat.not_le.mpr h]

theorem on_bind {α β : Type} (first : Decoder α) (next : α → Decoder β) (unread : List UInt8) :
    (first >>= next) unread =
      match first unread with
      | .ok (a, rest) => next a rest
      | .error e => .error e := by
  show (first unread >>= fun p => next p.1 p.2) = _
  cases first unread with
  | ok p => rfl
  | error e => rfl

theorem u32_append (w : UInt32) (rest : List UInt8) :
    u32 (Encoding.word w ++ rest) = .ok (w, rest) := by
  have h : take 4 (Encoding.word w ++ rest) = .ok (Encoding.word w, rest) :=
    take_append (Encoding.word w) rest
  have hv : UInt32.ofNat (LittleEndian.value (Encoding.word w)) = w := by simp [Encoding.word]
  rw [u32, on_bind, h]
  simp only [hv]
  rfl

end Decoder

end PocketLink
