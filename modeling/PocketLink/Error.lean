import PocketLink.Resolver.Selector
import PocketLink.Wire.Error
import PocketLink.Wire.Status

/-!
# Failures of operations

Each failure is a cause; its text and the code under which the protocol channel records it are
functions of the cause.
-/

namespace PocketLink

/-- Why no device information could be had. -/
inductive ResolutionFailure where
  /-- A source has no such device. -/
  | noMatch (selector : Selector)
  /-- No source of several has such a device. -/
  | noSource (selector : Selector)
  /-- A file or directory of device files could not be used. -/
  | unreadable (path : Path) (fault : FileFault)
  /-- The device has no connection manager. -/
  | noManager
  /-- The connection manager of the device does not run. -/
  | managerGone (pid : UInt32)
  /-- The device has no address. -/
  | noAddress
  /-- Any other reason, in words. -/
  | other (reason : String)
  deriving DecidableEq, Repr

/-- The text shown for a reason. -/
def ResolutionFailure.message : ResolutionFailure → String
  | .noMatch selector => "no " ++ selector.text
  | .noSource selector => "no source knows the " ++ selector.text
  | .unreadable path fault => path.text ++ ": " ++ fault.message
  | .noManager => "no connection manager pid recorded"
  | .managerGone pid => "connection manager not running with pid " ++ Nat.repr pid.toNat
  | .noAddress => "no device IP recorded"
  | .other reason => reason

/-- Why a broker handed over no descriptor. -/
inductive BrokerFailure where
  /-- The device has no broker. -/
  | noSocket (device : String)
  /-- The broker could not be reached. -/
  | unreachable (socket : Path) (cause : IoError)
  /-- More descriptors came than can be received. -/
  | overflow
  /-- The broker ended the handover without a descriptor. -/
  | nothingSent
  /-- More than one descriptor came. -/
  | severalSent (count : Nat)
  /-- Any other reason, in words. -/
  | other (reason : String)
  deriving DecidableEq, Repr

/-- The text shown for a reason. -/
def BrokerFailure.message : BrokerFailure → String
  | .noSocket device => "no broker socket recorded for " ++ device
  | .unreachable socket cause => socket.text ++ ": " ++ cause.message
  | .overflow => "ENOBUFS: No buffer space available"
  | .nothingSent => "broker closed without a descriptor"
  | .severalSent count => "expected one descriptor, got " ++ Nat.repr count
  | .other reason => reason

/-- Which argument was refused, before anything was done. -/
inductive ArgumentFault where
  /-- A text is no identifier. -/
  | malformedGuid
  /-- A device has no identifier. -/
  | noGuid
  /-- An address cannot name a proxy socket. -/
  | proxyIdentifier
  /-- Any other argument, in words. -/
  | other (what : String)
  deriving DecidableEq, Repr

/-- The text shown for a refused argument. -/
def ArgumentFault.message : ArgumentFault → String
  | .malformedGuid => "malformed GUID"
  | .noGuid => "device has no GUID"
  | .proxyIdentifier => "proxy identifier"
  | .other what => what

/-- Why an operation failed. -/
inductive Error where
  /-- There is no connection. -/
  | notConnected
  /-- There is a connection already. -/
  | alreadyConnected
  /-- The device refused the password, or the challenge did not come to an end. -/
  | accessDenied
  /-- The stream to the device failed. -/
  | transport (cause : IoError)
  /-- The envelope of a reply carried a status other than success. -/
  | protocol (status : UInt32)
  /-- A request could not be encoded or a reply could not be decoded. -/
  | wire (cause : WireError)
  /-- No device information could be had. -/
  | resolution (reason : ResolutionFailure)
  /-- A broker handed over no descriptor. -/
  | broker (reason : BrokerFailure)
  /-- The device performed the call and reported a failure of it. -/
  | remote (code : UInt32)
  /-- There are no (more) devices. -/
  | noMoreDevices
  /-- A path is longer than devices take. -/
  | pathTooLong (length max : Nat)
  /-- An argument was refused. -/
  | invalidArgument (fault : ArgumentFault)
  /-- A document is not of the expected form. -/
  | parse
  /-- A local file operation failed. -/
  | io (cause : IoError)
  deriving DecidableEq, Repr

namespace Error

/-- A failure on the wire: those of the stream itself are failures of the transport. -/
def ofWire : WireError → Error
  | .io cause => .transport cause
  | cause => .wire cause

/-- A failure to load a document. -/
def ofFileFault : FileFault → Error
  | .io cause => .io cause
  | .malformed => .parse

/-- The short name of the kind of a failure. -/
def kind : Error → String
  | notConnected => "NotConnected"
  | alreadyConnected => "AlreadyConnected"
  | accessDenied => "AccessDenied"
  | transport .. => "Transport"
  | protocol .. => "Protocol"
  | wire .. => "Wire"
  | resolution .. => "Resolution"
  | broker .. => "Broker"
  | remote .. => "Remote"
  | noMoreDevices => "NoMoreDevices"
  | pathTooLong .. => "PathTooLong"
  | invalidArgument .. => "InvalidArgument"
  | parse => "Parse"
  | io .. => "Io"

/-- A status as it is shown: the mark of the base and eight digits. -/
def statusText (status : UInt32) : String :=
  String.ofList (['0', 'x'] ++ Hex.fixed Hex.lower 8 status.toNat)

/-- The text shown for a failure. -/
def message : Error → String
  | notConnected => "not connected to a device"
  | alreadyConnected => "context is already connected"
  | accessDenied => "access denied by device"
  | transport cause => "transport: " ++ cause.message
  | protocol status => "device returned protocol status " ++ statusText status
  | wire cause => "wire: " ++ cause.message
  | resolution reason => "device info unavailable: " ++ reason.message
  | broker reason => "broker: " ++ reason.message
  | remote code => "remote call failed with error " ++ Nat.repr code.toNat
  | noMoreDevices => "no more devices"
  | pathTooLong length max =>
    "path of " ++ Nat.repr length ++ " characters exceeds the " ++ Nat.repr max ++
      " character limit"
  | invalidArgument fault => "invalid argument: " ++ fault.message
  | parse => "parse"
  | io cause => cause.message

/-- The code under which the protocol channel records a failure. -/
def hresult : Error → UInt32
  | notConnected => Status.ofWin32 Status.notConnected
  | alreadyConnected => Status.alreadyInitialized
  | accessDenied => Status.accessDenied
  | protocol status => status
  | remote code => Status.ofWin32 code
  | noMoreDevices => Status.ofWin32 Status.noMoreDevices
  | pathTooLong _ _ => Status.ofWin32 Status.pathTooLong
  | invalidArgument _ => Status.invalidArgument
  | wire (.alloc _) => Status.outOfMemory
  | transport _ | wire _ | resolution _ | broker _ | parse | io _ => Status.fail

end Error

/-- The identifier of a device. -/
def DeviceInfo.id (info : DeviceInfo) : Except Error Guid :=
  match info.guid with
  | none => .error (.invalidArgument .noGuid)
  | some text =>
    match Guid.parse? text with
    | some g => .ok g
    | none => .error (.invalidArgument .malformedGuid)

end PocketLink
