import PocketLink.Wire.Buffer
import PocketLink.Wire.Stream

/-!
# Frames

Requests and replies travel as frames: the length of the body as a word, then the body. A frame
whose length exceeds what the receiver accepts is refused when its length has been read, and none of
its body is.
-/

namespace PocketLink

/-- The longest reply body that is accepted unless the settings say otherwise: 16 MiB. -/
def defaultMaxFrame : UInt32 := 16 * 1024 * 1024

namespace Buffer

/-- Replaces the contents by exactly `n` bytes of a source. If they do not come, the buffer is left
empty. -/
def fillFrom (n : Nat) : Operation (Source × Buffer) WireError Unit := do
  modify fun (source, _) => (source, empty)
  if sizeLimit < n then throw (.alloc n)
  let bytes ← Operation.within Prod.fst (fun source s => (source, s.2)) WireError.io
    (Source.readExact n)
  modify fun (source, _) => (source, ofBytes bytes)

end Buffer

namespace Frame

/-- The frame around a body. -/
def encode (body : List UInt8) : List UInt8 :=
  Encoding.word (UInt32.ofNat body.length) ++ body

/-- Writes a body as one frame and says that the message is complete. -/
def send (body : List UInt8) : Operation Sink WireError Unit := do
  if UInt32.size ≤ body.length then throw (.frameTooLarge (UInt32.size - 1) (UInt32.size - 1))
  Operation.within id (fun s _ => s) WireError.io do
    Sink.writeAll (Encoding.word (UInt32.ofNat body.length))
    Sink.writeAll body
    Sink.flush

/-- Reads one frame and replaces the contents of the buffer by its body. -/
def recv (max : UInt32) : Operation (Source × Buffer) WireError Unit := do
  let header ← Operation.within Prod.fst (fun source s => (source, s.2)) WireError.io
    (Source.readExact 4)
  let length := LittleEndian.value header
  if max.toNat < length then throw (.frameTooLarge length max.toNat)
  Buffer.fillFrom length

/-! ## Streams of frames -/

/-- The bodies of the complete frames that some bytes start with. -/
def bodies (bytes : List UInt8) : List (List UInt8) :=
  let rest := bytes.drop 4
  let length := LittleEndian.value (bytes.take 4)
  if bytes.length < 4 + length then []
  else if 4 ≤ bytes.length then rest.take length :: bodies (rest.drop length)
  else []
termination_by bytes.length
decreasing_by
  simp only [List.length_drop]
  omega

end Frame

end PocketLink
