import PocketLink.Remote.Request

/-!
# Answers

The payload of a reply starts with the last error of the device, which the caller has read already.
Behind it stand the fields of the answer, among them one that says whether the operation succeeded:
a flag, a handle, a position, attributes or a status. If it did not, the rest is not read.
-/

namespace PocketLink

/-- The version of a device's operating system. -/
structure OsVersion where
  major : UInt32
  minor : UInt32
  build : UInt32
  platform : UInt32
  /-- Further words on the version. -/
  extra : String
  deriving DecidableEq, Repr

/-- The size of a device's object store, in bytes. -/
structure StoreInfo where
  size : UInt32
  free : UInt32
  deriving DecidableEq, Repr

/-- A started program. -/
structure ProcessInfo where
  /-- The handle of the process. -/
  process : UInt32
  /-- The handle of its first thread. -/
  thread : UInt32
  processId : UInt32
  threadId : UInt32
  deriving DecidableEq, Repr

/-- A registry value. -/
structure RegValue where
  /-- The kind of the value. -/
  kind : UInt32
  /-- Its bytes. -/
  data : List UInt8
  deriving DecidableEq, Repr

namespace RegValue

/-- The text of a string value: its units before the first zero unit. -/
def text? (v : RegValue) : Option String :=
  if v.kind = ValueKind.string ∧ v.data.length % 2 = 0 then
    Utf16.decode? ((LittleEndian.toUnits v.data).takeWhile (· ≠ 0))
  else none

/-- The number of a word value, which may have bytes behind the word. -/
def word? (v : RegValue) : Option UInt32 :=
  if v.kind = ValueKind.word ∧ 4 ≤ v.data.length then
    some (UInt32.ofNat (LittleEndian.value (v.data.take 4)))
  else none

end RegValue

namespace Reply

abbrev Reader := Operation Buffer Error

def field {α : Type} (d : Decoder α) : Reader α :=
  Operation.within id (fun b _ => b) Error.ofWire (Buffer.read d)

def word : Reader UInt32 := field Decoder.u32

/-- A string in the form of the dialect. -/
def text (d : Dialect) : Reader String :=
  Operation.within id (fun b _ => b) Error.ofWire d.readString

/-- A flag that is zero if the operation failed, for the reason that the device gave before. -/
def success (lastError : UInt32) : Reader Unit := do
  if (← word) = 0 then throw (.remote lastError)

/-- A status that is zero if the operation succeeded. -/
def status : Reader Unit := do
  let code ← word
  if code ≠ 0 then throw (.remote code)

/-- Optional data of at most `max` bytes; absent data is no data. -/
def data (max : UInt32) : Reader (List UInt8) := do
  return (← field (Decoder.optional (Decoder.sized max.toNat))).getD []

end Reply

namespace Request

/-- What the answer to a request tells. -/
@[reducible] def Answer : Request → Type
  | createFile .. => UInt32
  | readFrom .. => List UInt8
  | writeTo .. => UInt32
  | setFilePointer .. => UInt32
  | getFileAttributes .. => UInt32
  | regOpenKey .. => UInt32
  | regQueryValue .. => RegValue
  | getVersion => OsVersion
  | getStoreInformation => StoreInfo
  | createProcess .. => ProcessInfo
  | closeHandle .. => Unit
  | deleteFile .. => Unit
  | createDirectory .. => Unit
  | removeDirectory .. => Unit
  | moveFile .. => Unit
  | regCloseKey .. => Unit

/-- Reads the fields of the answer to a request, behind the last error of the device. -/
def unmarshal (d : Dialect) (lastError : UInt32) : (r : Request) → Reply.Reader r.Answer
  | createFile .. => do
    let handle ← Reply.word
    if handle = Status.invalidHandle then throw (.remote lastError)
    return handle
  | readFrom _ length => do
    Reply.success lastError
    Reply.data length
  | writeTo .. => do
    Reply.success lastError
    Reply.word
  | setFilePointer .. => do
    let position ← Reply.word
    if position = 0xFFFFFFFF ∧ lastError ≠ 0 then throw (.remote lastError)
    return position
  | getFileAttributes .. => do
    let attributes ← Reply.word
    if attributes = Attributes.invalid then throw (.remote lastError)
    return attributes
  | regOpenKey .. => do
    Reply.status
    Reply.word
  | regQueryValue _ _ maxLength => do
    Reply.status
    let kind ← Reply.word
    let data ← Reply.data maxLength
    return { kind, data }
  | getVersion => do
    Reply.success lastError
    let major ← Reply.word
    let minor ← Reply.word
    let build ← Reply.word
    let platform ← Reply.word
    let extra ← Reply.text d
    return { major, minor, build, platform, extra }
  | getStoreInformation => do
    Reply.success lastError
    let size ← Reply.word
    let free ← Reply.word
    return { size, free }
  | createProcess .. => do
    Reply.success lastError
    let process ← Reply.word
    let thread ← Reply.word
    let processId ← Reply.word
    let threadId ← Reply.word
    return { process, thread, processId, threadId }
  | closeHandle .. => Reply.success lastError
  | deleteFile .. => Reply.success lastError
  | createDirectory .. => Reply.success lastError
  | removeDirectory .. => Reply.success lastError
  | moveFile .. => Reply.success lastError
  | regCloseKey .. => Reply.status

end Request

end PocketLink
