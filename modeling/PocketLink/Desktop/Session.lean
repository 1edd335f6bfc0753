import PocketLink.Context.Connect
import PocketLink.Desktop.Basic

/-!
# Descriptions and sessions

What a device tells about itself, and the sessions that are opened on it. A session is a call
context for one device, whose information it borrows; it can be opened only while the device is
connected.
-/

namespace PocketLink

/-- What identifies a device. -/
structure DeviceDescription where
  /-- Its identifier. -/
  id : Guid
  /-- The major version of its operating system. -/
  osMajor : UInt32
  /-- The minor version of its operating system. -/
  osMinor : UInt32
  /-- Its name. -/
  name : String
  /-- The name of its operating system. -/
  platform : Option String
  deriving DecidableEq, Repr

/-- What identifies a device, which needs a well-formed identifier. -/
def DeviceInfo.describe (info : DeviceInfo) : Except Error DeviceDescription := do
  return {
    id := ← info.id
    osMajor := info.osMajor
    osMinor := info.osMinor
    name := info.name
    platform := info.osName }

/-- The physical kind of a link. -/
inductive LinkKind where
  | usb
  | infrared
  | serial
  | network
  deriving DecidableEq, Repr

/-- The link of every device is taken to be a cable. -/
def DeviceInfo.linkKind (_ : DeviceInfo) : LinkKind := .usb

/-- A call context on a device. -/
structure Session where
  /-- The number of the device. -/
  device : DeviceId
  /-- The context, which borrows the device's information. -/
  context : Context

/-- Opens a session on a device that is connected. -/
def Desktop.createSession {σ : Type} (d : Desktop σ) (id : DeviceId) : Except Error Session :=
  match d.status id with
  | .disconnected => .error .noMoreDevices
  | .connected => .ok {
      device := id
      context := {
        settings := d.settings
        resolver := d.resolver
        info := some (d.info id) } }

/-- A session that is let go of ends its connection. -/
def Session.dropped (s : Session) : Session :=
  if s.context.isConnected then { s with context := s.context.disconnected } else s

end PocketLink
