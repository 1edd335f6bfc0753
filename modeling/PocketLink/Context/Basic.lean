import PocketLink.Link.Socket
import PocketLink.Remote.Answer
import PocketLink.Resolver.Basic
import PocketLink.Settings

/-!
# Call contexts

A context is one connection to a device and the state of its calls: a socket, the buffers of the
request and of its reply, and two channels on which failures are recorded. The protocol channel
holds the status of the last exchange, the system channel the last error of the device.

A context is connected exactly while it has a dialect. The information about its device is supplied
when the context is made, or it is resolved when the context connects and dropped when it
disconnects.
-/

namespace PocketLink

/-- One connection to a device and the state of its calls. -/
structure Context where
  /-- The settings of the connection. -/
  settings : Settings
  /-- Where device information comes from unless it was supplied. -/
  resolver : Resolver
  /-- Where descriptors come from that another process hands over. -/
  broker : Broker := Broker.ofDevice
  /-- Which device is meant unless its information was supplied. -/
  selector : Selector := .default
  /-- The information in use. -/
  info : Option DeviceInfo := none
  /-- Whether the information was resolved by this context. -/
  ownsInfo : Bool := false
  /-- The connection. -/
  socket : Socket := {}
  /-- The request that is being written. -/
  request : Buffer := {}
  /-- The last reply. -/
  reply : Buffer := {}
  /-- The dialect of the connection, as long as there is one. -/
  dialect : Option Dialect := none
  /-- The protocol channel. -/
  protocolStatus : UInt32 := Status.unexpected
  /-- The system channel. -/
  systemError : UInt32 := 0

abbrev Call := Operation Context Error

namespace Context

/-- A context that resolves the default device from the directory of the settings. -/
def new (settings : Settings) (files : Files) : Context where
  settings := settings
  resolver := Resolver.directory files settings.infoDir

/-- The context that asks another source for device information. -/
def withResolver (c : Context) (resolver : Resolver) : Context := { c with resolver }

/-- The context that asks another broker for descriptors. -/
def withBroker (c : Context) (broker : Broker) : Context := { c with broker }

/-- The context that resolves another device. -/
def withSelector (c : Context) (selector : Selector) : Context := { c with selector }

/-- The context that borrows device information, and keeps it when it disconnects. -/
def withInfo (c : Context) (info : DeviceInfo) : Context :=
  { c with info := some info, ownsInfo := false }

def isConnected (c : Context) : Bool := c.dialect.isSome

/-! ## The parts of a context -/

/-- Runs an operation on the connection. -/
def onSocket {α : Type} (act : Operation Socket Error α) : Call α :=
  Operation.within Context.socket (fun s c => { c with socket := s }) id act

/-- Runs an operation on the request buffer. -/
def onRequest {α : Type} (act : BufferM α) : Call α :=
  Operation.within Context.request (fun b c => { c with request := b }) Error.ofWire act

def onReply {α : Type} (act : Operation Buffer Error α) : Call α :=
  Operation.within Context.reply (fun b c => { c with reply := b }) id act

/-- Runs an operation on the connection and the reply buffer. -/
def onSocketAndReply {α : Type} (act : Operation (Socket × Buffer) Error α) : Call α :=
  Operation.within (fun c => (c.socket, c.reply))
    (fun s c => { c with socket := s.1, reply := s.2 }) id act

/-! ## The channels -/

/-- The context after a failure was recorded on its channels. -/
def recorded (e : Error) (c : Context) : Context :=
  match e with
  | .remote code => { c with systemError := code }
  | .wire _ | .transport _ => { c with protocolStatus := Status.fail }
  | .pathTooLong _ _ =>
    { c with protocolStatus := Status.ok, systemError := Status.pathTooLong }
  | _ => c

def fail {α : Type} (e : Error) : Call α := do
  modify (recorded e)
  throw e

/-- Runs an operation and records its failure. -/
def recording {α : Type} (act : Call α) : Call α := do
  match ← Operation.attempt act with
  | .ok a => return a
  | .error e => fail e

/-- The dialect of the connection. Without one, the channels say so. -/
def ensureConnected : Call Dialect := do
  match (← get).dialect with
  | some d => return d
  | none =>
    modify fun c => { c with protocolStatus := Status.ok, systemError := Status.notConnected }
    throw .notConnected

end Context

end PocketLink
