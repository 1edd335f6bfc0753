import PocketLink.IoError

/-!
# Failures of encoding, decoding and framing
-/

namespace PocketLink

/-- Why bytes could not be encoded, decoded or framed. -/
inductive WireError where
  /-- A field needed more bytes than are left. -/
  | truncated (needed available : Nat)
  /-- The buffer could not grow by the requested number of bytes. -/
  | alloc (requested : Nat)
  /-- A string field is not UTF-16. -/
  | invalidUtf16
  /-- A string has more units than its length word can count. -/
  | stringTooLong (units : Nat)
  /-- An optional field announced more bytes than the caller accepts. -/
  | fieldTooLarge (size max : Nat)
  /-- A frame announced more bytes than the limit allows. -/
  | frameTooLarge (length max : Nat)
  /-- The stream itself failed. -/
  | io (cause : IoError)
  deriving DecidableEq, Repr

/-- The short name of the kind of a failure. -/
def WireError.kind : WireError → String
  | .truncated .. => "Truncated"
  | .alloc .. => "Alloc"
  | .invalidUtf16 => "InvalidUtf16"
  | .stringTooLong .. => "StringTooLong"
  | .fieldTooLarge .. => "FieldTooLarge"
  | .frameTooLarge .. => "FrameTooLarge"
  | .io .. => "Io"

/-- The text shown for a failure. -/
def WireError.message : WireError → String
  | .truncated needed available =>
    "truncated buffer: needed " ++ Nat.repr needed ++ " bytes, " ++ Nat.repr available ++
      " available"
  | .alloc requested => "failed to allocate " ++ Nat.repr requested ++ " bytes for wire buffer"
  | .invalidUtf16 => "string field is not valid UTF-16"
  | .stringTooLong units =>
    "string of " ++ Nat.repr units ++ " UTF-16 units does not fit its length prefix"
  | .fieldTooLarge size max =>
    "field of " ++ Nat.repr size ++ " bytes exceeds the " ++ Nat.repr max ++ " byte limit"
  | .frameTooLarge length max =>
    "frame of " ++ Nat.repr length ++ " bytes exceeds the " ++ Nat.repr max ++ " byte limit"
  | .io cause => cause.message

end PocketLink
