import PocketLink.Context.Basic
import PocketLink.Wire.Password

/-!
# Connecting and disconnecting

How a connection is made depends on the transport of the device: a direct dial with a password
challenge, a descriptor from a broker, or a local proxy socket. The manager of the connection must
run and the address of the device must be known, unless a broker takes care of both.

A connection that cannot be made leaves the context as it was, except for the protocol channel.
-/

namespace PocketLink.Context

def deviceAddress (info : DeviceInfo) : Except Error String :=
  match info.deviceIp with
  | some address => .ok address
  | none => .error (.resolution .noAddress)

/-- The address of a device whose connection manager runs. -/
def managedAddress (world : Outside) (info : DeviceInfo) : Except Error String :=
  match info.managerPid with
  | none => .error (.resolution .noManager)
  | some pid =>
    if world.isAlive pid then deviceAddress info else .error (.resolution (.managerGone pid))

/-- Sends a password and reads what the device says to it. Whatever goes wrong, access is denied. -/
def challenge (password : String) (key : UInt8) : Operation Socket Error Unit :=
  match Password.challenge password key with
  | .error _ => throw .accessDenied
  | .ok bytes =>
    let verdict : Operation Socket Error (List UInt8) := do
      Socket.writeAll bytes
      Socket.readExact 1
    tryCatch verdict (fun _ => throw .accessDenied) >>= fun
      | [reply] => if Password.accepted reply then pure () else throw .accessDenied
      | _ => throw .accessDenied

/-- Makes the connection to a device and answers the dialect to use. -/
def establish (world : Outside) (broker : Broker) (settings : Settings) (info : DeviceInfo) :
    Operation Socket Error Dialect :=
  match info.transportKind with
  | .legacy => do
    let address ← liftExcept (managedAddress world info)
    Socket.connect world address settings.port settings.connectTimeout
    Socket.setTimeout settings.ioTimeout
    match info.password with
    | some password => if password ≠ "" then challenge password info.key
    | none => pure ()
    return .v1
  | .broker => do
    let descriptor ← liftExcept (broker.request world info)
    Socket.adopt descriptor
    Socket.setTimeout settings.ioTimeout
    return Dialect.ofVersion info.osMajor info.osMinor
  | .proxy => do
    let address ← liftExcept (managedAddress world info)
    Socket.connectProxy world settings.proxyDir address
    Socket.setTimeout settings.ioTimeout
    return Dialect.ofVersion info.osMajor info.osMinor
where
  liftExcept {α : Type} (answer : Except Error α) : Operation Socket Error α :=
    match answer with
    | .ok a => pure a
    | .error e => throw e

/-- The information to connect with: what was supplied, else what is resolved. -/
def infoToUse (c : Context) : Except Error DeviceInfo :=
  match c.info with
  | some info => .ok info
  | none => c.resolver.resolve c.selector

/-- The context after it was connected in some dialect. Resolved information becomes its own. -/
def connected (c : Context) (info : DeviceInfo) (d : Dialect) : Context :=
  match c.info with
  | some _ => { c with dialect := some d }
  | none => { c with dialect := some d, info := some info, ownsInfo := true }

/-- The context after a connection could not be made. -/
def refused (c : Context) (e : Error) : Context :=
  { c with socket := c.socket.closed, protocolStatus := e.hresult }

/-- Connects to the device and settles the dialect. -/
def connect (world : Outside) : Call Unit := do
  let c ← get
  if c.isConnected then throw .alreadyConnected
  match c.infoToUse with
  | .error e => throw e
  | .ok info =>
    match ← Operation.attempt (onSocket (establish world c.broker c.settings info)) with
    | .ok d => modify (connected · info d)
    | .error e => do
      modify (refused · e)
      throw e

/-- The context after it was disconnected. Resolved information is dropped. -/
def disconnected (c : Context) : Context :=
  { c with
    dialect := none
    info := if c.ownsInfo then none else c.info
    ownsInfo := false
    socket := c.socket.closed }

/-- Ends the connection. -/
def disconnect : Call Unit := do
  if (← get).isConnected then modify disconnected else throw .notConnected

/-- Takes a handle that shuts the connection down from elsewhere. -/
def interruptHandle : Call InterruptHandle := do
  if (← get).isConnected then onSocket Socket.handle else throw .notConnected

/-- The context after a handle was used. -/
def interrupted (c : Context) (h : InterruptHandle) : Context :=
  { c with socket := c.socket.interrupted h }

end PocketLink.Context
