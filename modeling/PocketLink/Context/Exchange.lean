import PocketLink.Context.Basic

/-!
# Exchanges

A call is one exchange: the request goes out as a frame, the reply comes in as a frame, and its
envelope is opened. A remote operation writes its request, makes the call, notes the last error of
the device, and reads the answer.

A failed call leaves the context connected.
-/

namespace PocketLink.Context

/-- Starts a request with the number of a command. -/
def beginCommand (opcode : UInt32) : Call Unit := do
  let _ ← ensureConnected
  recording <| onRequest do
    Buffer.reset
    Buffer.writeU32 opcode

/-- Sends the request, receives the reply and opens its envelope. -/
def exchange (d : Dialect) : Call Unit := do
  let request := (← get).request
  onSocket (Socket.send request.bytes)
  onSocketAndReply (Socket.recv (← get).settings.maxFrame)
  onReply d.openEnvelope

/-- The status that a failed exchange leaves on the protocol channel. -/
def statusOf : Error → UInt32
  | .protocol status => status
  | _ => Status.fail

/-- Exchanges the request for a reply and leaves the status of that on the protocol channel. -/
def call : Call Unit := do
  let d ← ensureConnected
  modify fun c => { c with protocolStatus := Status.unexpected }
  match ← (Operation.attempt (exchange d) : Call (Except Error Unit)) with
  | .ok () => modify fun c => { c with protocolStatus := Status.ok }
  | .error e => do
    modify fun c => { c with protocolStatus := statusOf e }
    throw e

/-- Performs a remote operation. Without a connection, or with a path that is too long, nothing is
sent. -/
def perform (r : Request) : Call r.Answer := do
  let d ← ensureConnected
  match r.tooLong? with
  | some length => fail (.pathTooLong length maxPath)
  | none =>
    beginCommand (d.opcode r.command)
    recording (onRequest (r.marshal d))
    call
    let lastError ← recording (onReply Reply.word)
    modify fun c => { c with systemError := lastError }
    recording (onReply (r.unmarshal d lastError))

end PocketLink.Context
