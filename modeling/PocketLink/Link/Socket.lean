import PocketLink.Error
import PocketLink.Link.Broker

/-!
# Sockets

A socket holds at most one channel at a time. Opening it closes the channel it held before. Closed
channels are kept, because the device's end of a connection can be asked about after it was closed.

A handle taken from an open socket can shut its connection down from elsewhere; it means that
connection only, whatever the socket holds by then.
-/

namespace PocketLink

structure Socket where
  /-- The channel that it holds. -/
  current : Option Channel := none
  /-- The channels that it held before, the latest first. -/
  retired : List Channel := []
  deriving DecidableEq, Repr

/-- The right to shut one connection down. -/
structure InterruptHandle where
  /-- How many connections its socket had held before. -/
  serial : Nat
  deriving DecidableEq, Repr

namespace Socket

/-- Whether the socket holds a channel. -/
def isOpen (s : Socket) : Bool := s.current.isSome

/-- How many bytes the device may still let this side read. -/
def supply (s : Socket) : Nat :=
  match s.current with
  | some channel => channel.supply
  | none => 0

/-- All bytes that were sent, over one connection after another. -/
def sent (s : Socket) : List UInt8 :=
  s.retired.reverse.flatMap Channel.sent ++ (s.current.map Channel.sent).getD []

/-- How many connections the socket has held so far. -/
def connections (s : Socket) : Nat := s.retired.length + (if s.isOpen then 1 else 0)

/-- The socket after it let go of its channel. -/
def closed (s : Socket) : Socket :=
  match s.current with
  | none => s
  | some channel => { current := none, retired := channel.shut :: s.retired }

/-- The closed socket after it took a channel. -/
def holding (s : Socket) (channel : Channel) : Socket := { s with current := some channel }

/-! ## Opening and closing -/

/-- Lets go of the channel. -/
def close : Operation Socket Error Unit := modify closed

/-- Lets go of the channel and takes the one that is answered, if one is. -/
def replace (answer : Except Error Channel) : Operation Socket Error Unit := do
  close
  match answer with
  | .ok channel => modify (holding · channel)
  | .error e => throw e

def connect (world : Outside) (host : String) (port : UInt16) (timeout : Option UInt64) :
    Operation Socket Error Unit :=
  replace ((world.dial host port timeout).mapError Error.transport)

/-- Whether an address can name a proxy socket. -/
def isProxyIdentifier (identifier : String) : Bool :=
  identifier ≠ "" && !identifier.toList.contains '/'

def connectProxy (world : Outside) (dir : Path) (identifier : String) :
    Operation Socket Error Unit :=
  replace (
    if isProxyIdentifier identifier then
      (world.connectProxy (dir.join (identifier ++ ".sock"))).mapError Error.transport
    else .error (.invalidArgument .proxyIdentifier))

def channelOf : Descriptor → Except Error Channel
  | .stream channel => .ok channel
  | .file => .error (.transport .notASocket)
  | .otherSocket family => .error (.transport (.unsupportedFamily family))

/-- Takes a descriptor over. -/
def adopt (descriptor : Descriptor) : Operation Socket Error Unit := replace (channelOf descriptor)

/-! ## Using the channel -/

/-- Runs an operation on the channel, if there is one. -/
def onChannel {ε α : Type} (failure : ε → Error) (act : Operation Channel ε α) :
    Operation Socket Error α := do
  match (← get).current with
  | none => throw .notConnected
  | some channel =>
    Operation.within (fun _ => channel) (fun c s => s.holding c) failure act

/-- Sets the deadline of sends and receives. No time at all is refused. -/
def setTimeout (timeout : Option UInt64) : Operation Socket Error Unit :=
  onChannel Error.transport do
    if timeout = some 0 then throw .zeroTimeout

/-- Sends a body as one frame. -/
def send (body : List UInt8) : Operation Socket Error Unit :=
  onChannel Error.ofWire (Channel.send body)

/-- Sends bytes as they are. -/
def writeAll (bytes : List UInt8) : Operation Socket Error Unit :=
  onChannel Error.transport (Channel.writeAll bytes)

/-- Receives exactly `n` bytes as they are. -/
def readExact (n : Nat) : Operation Socket Error (List UInt8) :=
  onChannel Error.transport (Channel.readExact n)

/-- Receives a frame into a buffer. -/
def recv (max : UInt32) : Operation (Socket × Buffer) Error Unit := do
  match (← get).1.current with
  | none => throw .notConnected
  | some channel =>
    Operation.within (fun s => (channel, s.2)) (fun c s => (s.1.holding c.1, c.2)) Error.ofWire
      (Channel.recv max)

/-! ## Interrupting -/

/-- Takes a handle on the connection. -/
def handle : Operation Socket Error InterruptHandle := do
  let s ← get
  if s.isOpen then return { serial := s.retired.length } else throw .notConnected

/-- The socket after a handle was used: its connection is shut down, and the socket still holds
it. A handle of another connection does nothing. -/
def interrupted (s : Socket) (h : InterruptHandle) : Socket :=
  match s.current with
  | some channel => if h.serial = s.retired.length then s.holding channel.shut else s
  | none => s

/-! ## Laws -/

theorem on_onChannel {ε α : Type} {failure : ε → Error} {act : Operation Channel ε α} {s : Socket}
    {c : Channel} (h : s.current = some c) :
    (onChannel failure act).on s =
      ((act.on c).1.mapError failure, s.holding (act.on c).2) := by
  simp [onChannel, Operation.on_bind, h]

theorem on_onChannel_none {ε α : Type} {failure : ε → Error} {act : Operation Channel ε α}
    {s : Socket} (h : s.current = none) :
    (onChannel failure act).on s = (.error .notConnected, s) := by
  simp [onChannel, Operation.on_bind, h]

theorem on_recv {s : Socket} {c : Channel} (h : s.current = some c) (max : UInt32) (b : Buffer) :
    (recv max).on (s, b) =
      (((Frame.recv max).on (c.incoming, b)).1.mapError Error.ofWire,
        s.holding { c with incoming := ((Frame.recv max).on (c.incoming, b)).2.1 },
        ((Frame.recv max).on (c.incoming, b)).2.2) := by
  simp [recv, Channel.recv, Operation.on_bind, h]

theorem on_recv_none {s : Socket} (h : s.current = none) (max : UInt32) (b : Buffer) :
    (recv max).on (s, b) = (.error .notConnected, s, b) := by
  simp [recv, Operation.on_bind, h]

theorem isOpen_closed (s : Socket) : s.closed.isOpen = false := by
  unfold closed
  split
  · simp [isOpen, *]
  · rfl

theorem isOpen_interrupted (s : Socket) (h : InterruptHandle) :
    (s.interrupted h).isOpen = s.isOpen := by
  unfold interrupted
  split
  · split <;> simp_all [isOpen, holding]
  · rfl

end Socket

end PocketLink
