import PocketLink.Error
import PocketLink.Wire.Buffer
import PocketLink.Wire.Command

/-!
# Dialects

Devices speak one of two dialects. In the first, every reply stands in a status envelope and strings
are counted; in the second, replies stand alone and strings are terminated. The two also number the
commands differently. Which one a connection speaks is settled when it is made.
-/

namespace PocketLink

/-- The way a device encodes commands, strings and replies. -/
inductive Dialect where
  /-- Status envelopes and counted strings. -/
  | v1
  /-- Bare replies and terminated strings. -/
  | v2
  deriving DecidableEq, Repr

namespace Dialect

/-- The dialect of a device that is reached through a broker or a proxy. The second one needs a
major version above four and a minor version other than zero, so that 5.0 and 6.0 speak the first.
-/
def ofVersion (major minor : UInt32) : Dialect :=
  if 4 < major ∧ 0 < minor then .v2 else .v1

/-- The short name of a dialect. -/
def name : Dialect → String
  | v1 => "V1"
  | v2 => "V2"

/-- The number of a command. -/
def opcode : Dialect → Command → UInt32
  | v1, c => c.enveloped
  | v2, c => c.bare

/-- Appends a string. -/
def writeString : Dialect → String → BufferM Unit
  | v1, text => Buffer.writeString text
  | v2, text => Buffer.writeTerminated text

/-- Appends an optional string. In the second dialect the presence word and the string are two
fields. -/
def writeOptionalString : Dialect → Option String → BufferM Unit
  | v1, text => Buffer.writeOptionalString text
  | v2, none => Buffer.writeU32 Encoding.absent
  | v2, some text => do
    Buffer.writeU32 Encoding.present
    Buffer.writeTerminated text

def readString : Dialect → BufferM String
  | v1 => Buffer.read Decoder.string
  | v2 => Buffer.read Decoder.terminated

/-- Reads the envelope of a reply. The first word announces a status if it is one; any other first
word is passed over, and what follows speaks for itself. -/
def openEnvelope : Dialect → Operation Buffer Error Unit
  | v2 => pure ()
  | v1 => do
    let first ← Operation.within id (fun b _ => b) Error.ofWire Buffer.readU32
    if first = 1 then
      let status ← Operation.within id (fun b _ => b) Error.ofWire Buffer.readU32
      if status ≠ 0 then throw (.protocol status)

theorem ofVersion_eq_v2_iff {major minor : UInt32} :
    ofVersion major minor = v2 ↔ 4 < major ∧ 0 < minor := by
  unfold ofVersion
  split <;> simp_all

end Dialect

end PocketLink
