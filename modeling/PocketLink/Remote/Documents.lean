import PocketLink.Json.Basic
import PocketLink.Remote.Answer
import PocketLink.Text.Hex

/-!
# Answers as documents

The records that devices answer with, written as JSON with their members in alphabetical order.
Bytes are written as hex digits.
-/

namespace PocketLink

namespace Json

/-- The number value of a word. -/
def ofWord (w : UInt32) : Json := ofNat w.toNat

def ofBytes (bytes : List UInt8) : Json := ofText (String.ofList (Hex.ofBytes bytes))

end Json

def OsVersion.toJson (v : OsVersion) : Json := .ofMembers [
  ("build", .ofWord v.build), ("csd_version", .ofText v.extra), ("major", .ofWord v.major),
  ("minor", .ofWord v.minor), ("platform_id", .ofWord v.platform)]

/-- The document of the size of a store. -/
def StoreInfo.toJson (s : StoreInfo) : Json := .ofMembers [
  ("free_size", .ofWord s.free), ("store_size", .ofWord s.size)]

/-- The document of a started program. -/
def ProcessInfo.toJson (p : ProcessInfo) : Json := .ofMembers [
  ("process", .ofWord p.process), ("process_id", .ofWord p.processId),
  ("thread", .ofWord p.thread), ("thread_id", .ofWord p.threadId)]

/-- The document of a registry value: its bytes and what they can be read as. -/
def RegValue.toJson (v : RegValue) : Json := .ofMembers [
  ("as_string", .ofOption .ofText v.text?), ("as_u32", .ofOption .ofWord v.word?),
  ("data", .ofBytes v.data), ("kind", .ofWord v.kind)]

namespace Request

def answerToJson : (r : Request) → r.Answer → Json
  | createFile .., (handle : UInt32) => .ofWord handle
  | readFrom .., (data : List UInt8) => .ofBytes data
  | writeTo .., (written : UInt32) => .ofWord written
  | setFilePointer .., (position : UInt32) => .ofWord position
  | getFileAttributes .., (attributes : UInt32) => .ofWord attributes
  | regOpenKey .., (handle : UInt32) => .ofWord handle
  | regQueryValue .., (value : RegValue) => value.toJson
  | getVersion, (version : OsVersion) => version.toJson
  | getStoreInformation, (store : StoreInfo) => store.toJson
  | createProcess .., (process : ProcessInfo) => process.toJson
  | closeHandle .., _ => .null
  | deleteFile .., _ => .null
  | createDirectory .., _ => .null
  | removeDirectory .., _ => .null
  | moveFile .., _ => .null
  | regCloseKey .., _ => .null

end Request

end PocketLink
