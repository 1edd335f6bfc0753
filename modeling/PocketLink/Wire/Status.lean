/-!
# Status codes

Two kinds of codes report failures. The protocol channel holds an HRESULT, the system channel a
Win32 error as the device reports it; a Win32 error becomes an HRESULT by a fixed prefix.
-/

namespace PocketLink.Status

/-- Success. -/
def ok : UInt32 := 0

/-- Unspecified failure. -/
def fail : UInt32 := 0x80004005

/-- No outcome known yet; the first value of the protocol channel. -/
def unexpected : UInt32 := 0x8000FFFF

/-- The device did not accept the password. -/
def accessDenied : UInt32 := 0x80070005

def outOfMemory : UInt32 := 0x8007000E

/-- An argument was refused. -/
def invalidArgument : UInt32 := 0x80070057

/-- The context is connected already. -/
def alreadyInitialized : UInt32 := 0x80041001

/-- Win32: the password does not match. -/
def invalidPassword : UInt32 := 86

/-- Win32: a path is longer than the device takes. -/
def pathTooLong : UInt32 := 206

/-- Win32: no further devices. -/
def noMoreDevices : UInt32 := 1248

/-- Win32: no connection. -/
def notConnected : UInt32 := 2250

/-- The handle that a device answers for a failed open. -/
def invalidHandle : UInt32 := 0xFFFFFFFF

/-- The HRESULT of a Win32 error: success stays success, any other code keeps its low half. -/
def ofWin32 (code : UInt32) : UInt32 :=
  if code = 0 then ok else 0x80070000 ||| (code &&& 0xFFFF)

theorem ofWin32_ne_ok {code : UInt32} (h : code ≠ 0) : ofWin32 code ≠ ok := by
  intro heq
  have hnat := congrArg UInt32.toNat heq
  simp only [ofWin32, if_neg h, ok, UInt32.toNat_or] at hnat
  have hle : (0x80070000 : UInt32).toNat ≤
      (0x80070000 : UInt32).toNat ||| (code &&& 0xFFFF).toNat := Nat.left_le_or
  rw [hnat] at hle
  exact absurd hle (by decide)

end PocketLink.Status
