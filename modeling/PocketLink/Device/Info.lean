import PocketLink.Device.Guid
import PocketLink.Files
import PocketLink.Json.Printer
import PocketLink.Json.Reader
import PocketLink.Json.Record

/-!
# Device information

Everything that is known about a device: how to reach it and how to identify it. It is kept in JSON
files, whose fields all have defaults, so that a file need only say what differs.

How a device is reached follows from its transport tag alone.
-/

namespace PocketLink

/-- Why a document of the program could not be loaded. -/
inductive FileFault where
  /-- The file could not be read. -/
  | io (cause : IoError)
  /-- The file was read, but it is not a document of the expected form. -/
  | malformed
  deriving DecidableEq, Repr

/-- The text shown for a fault. -/
def FileFault.message : FileFault → String
  | .io cause => cause.message
  | .malformed => "parse"

/-- How a device is reached. -/
inductive TransportKind where
  /-- A direct connection to the device's address, with a password challenge if need be. -/
  | legacy
  /-- A connected descriptor that a broker hands over. -/
  | broker
  /-- A local proxy socket named after the device's address. -/
  | proxy
  deriving DecidableEq, Repr

def TransportKind.brokerTags : List String := ["udev", "hal", "odccm", "broker"]

/-- How a device with a given transport tag is reached. -/
def TransportKind.ofTag : Option String → TransportKind
  | none => .legacy
  | some tag =>
    if ['p', 'p', 'p'].isPrefixOf tag.toList then .legacy
    else if tag ∈ brokerTags then .broker
    else .proxy

/-- What is known about a device. -/
structure DeviceInfo where
  /-- The name given to the device. -/
  name : String := ""
  /-- The text form of its identifier. -/
  guid : Option String := none
  /-- The path under which discovery announces it. -/
  objectPath : Option String := none
  /-- The major version of its operating system. -/
  osMajor : UInt32 := 0
  /-- The minor version of its operating system. -/
  osMinor : UInt32 := 0
  /-- The build number of its operating system. -/
  buildNumber : UInt32 := 0
  /-- The code of its processor architecture. -/
  processorType : UInt32 := 0
  /-- The name of its operating system. -/
  osName : Option String := none
  /-- The hardware model. -/
  model : Option String := none
  /-- The first partnership identifier. -/
  partnerId1 : UInt32 := 0
  /-- The second partnership identifier. -/
  partnerId2 : UInt32 := 0
  /-- The address of the device. -/
  deviceIp : Option String := none
  /-- The address of the host's interface towards the device. -/
  localIp : Option String := none
  /-- The transport tag. -/
  transport : Option String := none
  /-- The password that guards the device. -/
  password : Option String := none
  /-- The key with which the password is sent. -/
  key : UInt8 := 0
  /-- The process that manages the connection. -/
  managerPid : Option UInt32 := none
  /-- The socket of the broker that owns the device. -/
  brokerSocket : Option Path := none
  deriving DecidableEq, Repr

namespace DeviceInfo

/-- How the device is reached. -/
def transportKind (info : DeviceInfo) : TransportKind := TransportKind.ofTag info.transport

/-! ## The file form -/

/-- The names of the fields in a file, in the order in which they are written. -/
def fieldNames : List String :=
  ["name", "guid", "object_path", "os_major", "os_minor", "build_number", "processor_type",
    "os_name", "model", "partner_id_1", "partner_id_2", "device_ip", "local_iface_ip", "transport",
    "password", "key", "dccm_pid", "broker_socket"]

/-- The value of each field in a file. -/
def fieldValues (info : DeviceInfo) : List Json :=
  let word (w : UInt32) := Json.ofNat w.toNat
  let text := Json.ofOption Json.ofText
  [.ofText info.name, text info.guid, text info.objectPath, word info.osMajor, word info.osMinor,
    word info.buildNumber, word info.processorType, text info.osName, text info.model,
    word info.partnerId1, word info.partnerId2, text info.deviceIp, text info.localIp,
    text info.transport, text info.password, .ofNat info.key.toNat,
    Json.ofOption word info.managerPid, Json.ofOption (fun p => .ofText p.text) info.brokerSocket]

/-- The document of a device. -/
def toJson (info : DeviceInfo) : Json := Json.ofMembers (fieldNames.zip info.fieldValues)

/-- The device of a document; `none` if some field does not hold what it should. -/
def ofJson? (v : Json) : Option DeviceInfo := do
  let slots ← v.slots? fieldNames
  let text (i : Nat) : Option (Option String) :=
    Json.field none (Json.nullable Json.text?) (slots[i]?.join)
  let word (i : Nat) : Option UInt32 :=
    (Json.field 0 (Json.natBelow? UInt32.size) (slots[i]?.join)).map UInt32.ofNat
  let name ← Json.field "" Json.text? (slots[0]?.join)
  let guid ← text 1
  let objectPath ← text 2
  let osMajor ← word 3
  let osMinor ← word 4
  let buildNumber ← word 5
  let processorType ← word 6
  let osName ← text 7
  let model ← text 8
  let partnerId1 ← word 9
  let partnerId2 ← word 10
  let deviceIp ← text 11
  let localIp ← text 12
  let transport ← text 13
  let password ← text 14
  let key ← Json.field 0 (Json.natBelow? UInt8.size) (slots[15]?.join)
  let managerPid ← Json.field none (Json.nullable (Json.natBelow? UInt32.size)) (slots[16]?.join)
  let brokerSocket ← text 17
  return {
    name, guid, objectPath, osMajor, osMinor, buildNumber, processorType, osName, model,
    partnerId1, partnerId2, deviceIp, localIp, transport, password
    key := UInt8.ofNat key
    managerPid := managerPid.map UInt32.ofNat
    brokerSocket := brokerSocket.map Path.mk }

/-- The device of a file's text. -/
def parse? (text : String) : Option DeviceInfo := Json.parse? text >>= ofJson?

/-- The text of a device's file. -/
def render (info : DeviceInfo) : String := info.toJson.spread

def load (files : Files) (p : Path) : Except FileFault DeviceInfo :=
  match files.readText p with
  | .error cause => .error (.io cause)
  | .ok text =>
    match parse? text with
    | some info => .ok info
    | none => .error .malformed

/-- Writes a device file. -/
def save (info : DeviceInfo) (files : Files) (p : Path) : Except IoError Files :=
  files.write p (Utf8.encode info.render)

end DeviceInfo

end PocketLink
