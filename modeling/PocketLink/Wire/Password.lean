import PocketLink.Text.Utf16
import PocketLink.Wire.Error
import PocketLink.Wire.LittleEndian

/-!
# The password challenge

A device that is reached directly may ask for a password. It is sent as UTF-16 with a zero unit at
its end, every byte combined with a one-byte key by exclusive or, behind the number of bytes as a
16-bit word. The device answers one byte.
-/

namespace PocketLink.Password

/-- The bytes of a password and its zero unit, before the key is applied. -/
def plain (password : String) : List UInt8 :=
  LittleEndian.ofUnits (Utf16.encode password ++ [0])

/-- The challenge for a password, if 16 bits can count its bytes. -/
def challenge (password : String) (key : UInt8) : Except WireError (List UInt8) :=
  let size := 2 * (Utf16.length password + 1)
  if size < UInt16.size then
    .ok (LittleEndian.u16 (UInt16.ofNat size) ++ (plain password).map (· ^^^ key))
  else
    .error (.stringTooLong (Utf16.length password + 1))

/-- Whether the device's answer means that the password was accepted. -/
def accepted (reply : UInt8) : Bool := reply ≠ 0

theorem length_plain (password : String) :
    (plain password).length = 2 * (Utf16.length password + 1) := by
  simp [plain, Utf16.length]

end PocketLink.Password
