import PocketLink.Desktop.Session
import PocketLink.Remote.Documents

/-!
# Devices as documents

What a desktop tells about a device, as members of a JSON object.
-/

namespace PocketLink

/-- The document of an identifier: its fields and its text. -/
def Guid.toJson (g : Guid) : Json := .ofMembers [
  ("data1", .ofWord g.data1), ("data2", .ofNat g.data2.toNat), ("data3", .ofNat g.data3.toNat),
  ("data4", .ofText (String.ofList (Hex.fixed Hex.lower 16 g.data4.toNat))),
  ("text", .ofText g.text)]

/-- The word for a status. -/
def DeviceStatus.text : DeviceStatus → String
  | connected => "connected"
  | disconnected => "disconnected"

/-- The word for a link. -/
def LinkKind.text : LinkKind → String
  | usb => "usb"
  | infrared => "ir"
  | serial => "serial"
  | network => "network"

/-- The document of what identifies a device. -/
def DeviceDescription.toJson (d : DeviceDescription) : Json := .ofMembers [
  ("id", .ofText d.id.text), ("os_major", .ofWord d.osMajor), ("os_minor", .ofWord d.osMinor),
  ("name", .ofText d.name), ("platform", .ofOption .ofText d.platform)]

namespace DeviceInfo

/-- The document of a device's link: its kind and the addresses at its ends. -/
def linkToJson (info : DeviceInfo) : Json := .ofMembers [
  ("device_ip", .ofOption .ofText info.deviceIp), ("host_ip", .ofOption .ofText info.localIp),
  ("connection_type", .ofText info.linkKind.text)]

/-- What is known about a device, member by member. -/
def members (info : DeviceInfo) : List (String × Json) := [
  ("name", .ofText info.name),
  ("os_version", .array [.ofWord info.osMajor, .ofWord info.osMinor]),
  ("build", .ofWord info.buildNumber),
  ("processor", .ofWord info.processorType),
  ("os_name", .ofOption .ofText info.osName),
  ("model", .ofOption .ofText info.model),
  ("device_ip", .ofOption .ofText info.deviceIp),
  ("local_ip", .ofOption .ofText info.localIp),
  ("object_path", .ofOption .ofText info.objectPath),
  ("connection", info.linkToJson)]

end DeviceInfo

end PocketLink
