import PocketLink.Wire.Frame

/-!
# Channels

A channel is a connected stream between this side and a device: what the device has sent and is
still to be read, and what it has been sent. Either side may end the connection. When this side
shuts it down, everything already sent can still be read and nothing more goes either way; when the
device goes, sending fails.

What a device does is a list of acts. It takes one turn whenever a message to it is complete, so
that a channel carries the whole behaviour of a device that answers.
-/

namespace PocketLink

/-- One act of a device. -/
structure Act where
  /-- Bytes that it sends. -/
  bytes : List UInt8 := []
  /-- Whether it then ends its own sending, and goes on reading. -/
  ends : Bool := false
  /-- Whether it then closes the connection entirely. -/
  closes : Bool := false
  deriving DecidableEq, Repr

/-- A connected stream to a device. -/
structure Channel where
  /-- What the device sent; as long as it may send more, a reader who wants more waits in vain. -/
  incoming : Source := { afterwards := .wouldBlock }
  /-- What the device was sent. -/
  outgoing : Sink := { refusal := .brokenPipe }
  /-- What the device does each time a message to it is complete. -/
  turns : List Act := []
  /-- Whether this side shut the connection down. -/
  isShut : Bool := false
  /-- Whether the device closed the connection. -/
  isGone : Bool := false
  deriving DecidableEq, Repr

namespace Channel

/-- The bytes that the device was sent. -/
def sent (c : Channel) : List UInt8 := c.outgoing.taken

/-- Whether the device may still send. -/
def isOpenInwards (c : Channel) : Bool := c.incoming.afterwards = .wouldBlock

/-- How many bytes the device may still let this side read, by all of its turns. -/
def supply (c : Channel) : Nat :=
  c.incoming.bytes.length + (c.turns.flatMap Act.bytes).length

/-- The device sends some bytes. They are lost if it can no longer send. -/
def deliver (c : Channel) (bytes : List UInt8) : Channel :=
  if c.isOpenInwards then
    { c with incoming := { c.incoming with arrivals := c.incoming.arrivals ++ [.piece bytes] } }
  else c

/-- The device can send nothing more. -/
def endInwards (c : Channel) : Channel :=
  { c with incoming := { c.incoming with afterwards := .endOfStream } }

/-- The device acts. -/
def perform (c : Channel) (act : Act) : Channel :=
  let c := c.deliver act.bytes
  if act.closes then
    { c.endInwards with outgoing := c.outgoing.cut .brokenPipe, isGone := true }
  else if act.ends then c.endInwards
  else c

/-- The device takes its next turn, if it has one. -/
def takeTurn (c : Channel) : Channel :=
  match c.turns with
  | [] => c
  | act :: turns => { c with turns }.perform act

/-- This side shuts the connection down in both directions. -/
def shut (c : Channel) : Channel :=
  { c.endInwards with outgoing := c.outgoing.cut .brokenPipe, isShut := true }

/-! ## Sending and receiving -/

/-- Runs an operation on the sending direction. -/
def outwards {ε α : Type} (act : Operation Sink ε α) : Operation Channel ε α :=
  Operation.within Channel.outgoing (fun s c => { c with outgoing := s }) id act

/-- Runs an operation on the receiving direction. -/
def inwards {ε α : Type} (act : Operation Source ε α) : Operation Channel ε α :=
  Operation.within Channel.incoming (fun s c => { c with incoming := s }) id act

/-- Sends a frame, after which the device takes a turn. -/
def send (body : List UInt8) : Operation Channel WireError Unit := do
  outwards (Frame.send body)
  modify takeTurn

/-- Sends bytes as they are, after which the device takes a turn. -/
def writeAll (bytes : List UInt8) : Operation Channel IoError Unit := do
  outwards do
    Sink.writeAll bytes
    Sink.flush
  modify takeTurn

/-- Receives a frame into a buffer. -/
def recv (max : UInt32) : Operation (Channel × Buffer) WireError Unit :=
  Operation.within (fun s => (s.1.incoming, s.2))
    (fun s old => ({ old.1 with incoming := s.1 }, s.2)) id (Frame.recv max)

/-- Receives exactly `n` bytes as they are. -/
def readExact (n : Nat) : Operation Channel IoError (List UInt8) := inwards (Source.readExact n)

/-! ## Laws -/

variable {c : Channel}

theorem bytes_deliver {bytes : List UInt8} (h : c.isOpenInwards = true) :
    (c.deliver bytes).incoming.bytes = c.incoming.bytes ++ bytes := by
  rw [deliver, if_pos h]
  simp [Source.bytes]

theorem takeTurn_nil (hturns : c.turns = []) : c.takeTurn = c := by
  rw [takeTurn, hturns]

theorem supply_deliver_le (c : Channel) (bytes : List UInt8) :
    (c.deliver bytes).supply ≤ c.supply + bytes.length := by
  by_cases hopen : c.isOpenInwards = true
  · have hbytes : (c.deliver bytes).incoming.bytes = c.incoming.bytes ++ bytes :=
      bytes_deliver hopen
    have hturns : (c.deliver bytes).turns = c.turns := by
      rw [deliver, if_pos hopen]
    rw [supply, supply, hbytes, hturns, List.length_append]
    omega
  · rw [deliver, if_neg hopen]
    exact Nat.le_add_right _ _

/-- When the device takes its turn it says what it had to say, or less if nobody listens. -/
theorem supply_takeTurn_le (c : Channel) : c.takeTurn.supply ≤ c.supply := by
  cases hturns : c.turns with
  | nil => exact Nat.le_of_eq (congrArg supply (takeTurn_nil hturns))
  | cons act turns =>
    have hdelivered := supply_deliver_le { c with turns := turns } act.bytes
    have hsupply : c.supply = { c with turns := turns }.supply + act.bytes.length := by
      simp only [supply, hturns, List.flatMap_cons, List.length_append]
      omega
    have hperform : ({ c with turns := turns }.perform act).supply =
        ({ c with turns := turns }.deliver act.bytes).supply := by
      unfold perform
      split
      · rfl
      · split <;> rfl
    simp only [takeTurn, hturns]
    omega

end Channel

end PocketLink
