import PocketLink.Device.Info
import PocketLink.Link.Channel

/-!
# The outside world

What a client meets when it asks the outside: whether a process runs, who answers at an address, and
what a broker hands over. It is a record of functions, so that everything said about a client holds
whatever the outside does.
-/

namespace PocketLink

/-- What a descriptor that a broker hands over stands for. -/
inductive Descriptor where
  /-- A connected stream, over the network or local. -/
  | stream (channel : Channel)
  /-- Something that is no socket. -/
  | file
  /-- A socket of a family that carries no device connections. -/
  | otherSocket (family : String)
  deriving DecidableEq, Repr

/-- The world outside a client. -/
structure Outside where
  /-- Whether a process with this number runs. -/
  runs : UInt32 → Bool
  /-- Who answers at a host and port, within an optional time in milliseconds. -/
  dial : String → UInt16 → Option UInt64 → Except IoError Channel
  /-- Who answers at a local socket. -/
  proxy : Path → Except IoError Channel
  /-- What the broker at a local socket hands over. -/
  broker : Path → Except IoError (List Descriptor)

namespace Outside

/-- Whether a process runs. Zero and numbers above those of processes name none. -/
def isAlive (world : Outside) (pid : UInt32) : Bool :=
  0 < pid && pid < 0x80000000 && world.runs pid

/-- The longest path of a local socket, in bytes, is one less than this. -/
def addressLimit : Nat := 108

/-- A path as the address of a local socket. -/
def checkAddress (p : Path) : Except IoError Unit :=
  if p.text.toList.contains '\x00' then .error .zeroByteInAddress
  else if addressLimit ≤ p.text.utf8ByteSize then .error .addressTooLong
  else if p.text = "" then .error .invalidArgument
  else .ok ()

/-- Connects to a local socket. -/
def connectProxy (world : Outside) (p : Path) : Except IoError Channel := do
  checkAddress p
  world.proxy p

/-- Asks the broker at a local socket. -/
def askBroker (world : Outside) (p : Path) : Except IoError (List Descriptor) := do
  checkAddress p
  world.broker p

end Outside

end PocketLink
