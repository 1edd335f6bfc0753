import PocketLink.Desktop.Basic

/-!
# Discovery events

Discovery announces devices that come and go one by one, and a broker that comes and goes with all
of its devices. Sinks are told about the former only, and only if the announcement changes the list.
-/

namespace PocketLink

/-- What discovery announces. -/
inductive DiscoveryEvent where
  /-- A device came. -/
  | deviceConnected (path : String)
  /-- A device went. -/
  | deviceDisconnected (path : String)
  /-- The broker came, with the devices that it has. -/
  | brokerOnline (paths : List String)
  /-- The broker went, and its devices with it. -/
  | brokerOffline
  deriving DecidableEq, Repr

/-- What a sink is told about a device. -/
inductive Change where
  | connected
  | disconnected
  deriving DecidableEq, Repr

/-- A notice that is to be delivered to a sink. -/
structure Notice (σ : Type) where
  /-- The cookie of the sink. -/
  cookie : UInt32
  /-- The sink. -/
  sink : σ
  /-- What is told. -/
  change : Change
  /-- About which device. -/
  device : DeviceId

/-- Delivers notices one after another. -/
def deliver {σ : Type} {m : Type → Type} [Monad m] (tell : Notice σ → m (Except Error Unit))
    (notices : List (Notice σ)) : m Unit :=
  -- a sink that fails keeps no other one from being told
  notices.forM fun notice => discard (tell notice)

namespace Desktop

variable {σ : Type}

/-- One notice for each sink, in the order of their cookies. -/
def notices (d : Desktop σ) (change : Change) (device : DeviceId) : List (Notice σ) :=
  d.sinks.map fun (cookie, sink) => { cookie, sink, change, device }

/-- What the resolver knows about the device announced under a path. -/
def lookUp (d : Desktop σ) (path : String) : Option DeviceInfo :=
  (d.resolver.resolve (.objectPath path)).toOption

/-- Adds an announced device, unless a listed one has the path or nothing is known about it. -/
def deviceConnected (d : Desktop σ) (path : String) : Desktop σ × List (Notice σ) :=
  match d.lookUp path with
  | none => (d, [])
  | some info =>
    if d.isClosed || (d.withPath? path).isSome then (d, [])
    else (d.addDevice info, d.notices .connected d.created.length)

def deviceDisconnected (d : Desktop σ) (path : String) : Desktop σ × List (Notice σ) :=
  match d.withPath? path with
  | none => (d, [])
  | some id => (d.removeWhere (· == id), d.notices .disconnected id)

/-- Adds the devices of the broker about which something is known, one for each path. -/
def brokerOnline (d : Desktop σ) (paths : List String) : Desktop σ :=
  if d.isClosed then d
  else (paths.filterMap d.lookUp).foldl (fun d info =>
    if (d.withPath? (info.objectPath.getD "")).isSome then d else d.addDevice info) d

/-- Whether a device is one of the broker's. -/
def isBrokered (d : Desktop σ) (id : DeviceId) : Bool :=
  match (d.info id).objectPath with
  | some path => brokerPrefix.toList.isPrefixOf path.toList
  | none => false

/-- Removes the devices of the broker. -/
def brokerOffline (d : Desktop σ) : Desktop σ := d.removeWhere d.isBrokered

/-- The desktop after an announcement, and the notices that it calls for. -/
def handle (d : Desktop σ) : DiscoveryEvent → Desktop σ × List (Notice σ)
  | .deviceConnected path => d.deviceConnected path
  | .deviceDisconnected path => d.deviceDisconnected path
  | .brokerOnline paths => (d.brokerOnline paths, [])
  | .brokerOffline => (d.brokerOffline, [])

end Desktop

end PocketLink
