import PocketLink.Dialect
import PocketLink.Remote.Constants

/-!
# Requests

A request names a remote operation and its arguments. On the wire it is the number of the command
followed by the arguments in order; text arguments take the form of the dialect. Paths are arguments
that devices limit in length.
-/

namespace PocketLink

/-- Where the distance of a file pointer counts from. -/
inductive Origin where
  | start
  | current
  | finish
  deriving DecidableEq, Repr

/-- The word of an origin. -/
def Origin.code : Origin → UInt32
  | start => 0
  | current => 1
  | finish => 2

/-- A remote operation and its arguments. -/
inductive Request where
  /-- Open or make a file. -/
  | createFile (path : String) (access share disposition flags : UInt32)
  /-- Read up to a number of bytes. -/
  | readFrom (handle length : UInt32)
  /-- Write bytes. -/
  | writeTo (handle : UInt32) (data : List UInt8)
  /-- Move a file pointer. -/
  | setFilePointer (handle : UInt32) (distance : Int32) (origin : Origin)
  /-- Close a handle. -/
  | closeHandle (handle : UInt32)
  /-- Look up the attributes of a file. -/
  | getFileAttributes (path : String)
  /-- Delete a file. -/
  | deleteFile (path : String)
  /-- Make a directory. -/
  | createDirectory (path : String)
  /-- Remove an empty directory. -/
  | removeDirectory (path : String)
  /-- Rename or move a file. -/
  | moveFile (source target : String)
  /-- Open a registry key below another one. -/
  | regOpenKey (key : UInt32) (subKey : String)
  /-- Close a registry key. -/
  | regCloseKey (key : UInt32)
  /-- Read a registry value, or the default value of the key, of at most `maxLength` bytes. -/
  | regQueryValue (key : UInt32) (name : Option String) (maxLength : UInt32)
  /-- Ask for the version of the operating system. -/
  | getVersion
  /-- Ask for the size of the object store. -/
  | getStoreInformation
  /-- Start a program. -/
  | createProcess (application : String) (arguments : Option String)
  deriving DecidableEq, Repr

namespace Request

def command : Request → Command
  | createFile .. => .createFile
  | readFrom .. => .readFile
  | writeTo .. => .writeFile
  | setFilePointer .. => .setFilePointer
  | closeHandle .. => .closeHandle
  | getFileAttributes .. => .getFileAttributes
  | deleteFile .. => .deleteFile
  | createDirectory .. => .createDirectory
  | removeDirectory .. => .removeDirectory
  | moveFile .. => .moveFile
  | regOpenKey .. => .regOpenKey
  | regCloseKey .. => .regCloseKey
  | regQueryValue .. => .regQueryValue
  | getVersion => .getVersion
  | getStoreInformation => .getStoreInformation
  | createProcess .. => .createProcess

/-- The arguments of a request that are paths on the device. -/
def paths : Request → List String
  | createFile path .. => [path]
  | getFileAttributes path => [path]
  | deleteFile path => [path]
  | createDirectory path => [path]
  | removeDirectory path => [path]
  | moveFile source target => [source, target]
  | createProcess application _ => [application]
  | _ => []

/-- The first path that is longer than devices take, as the length that it has. -/
def tooLong? (r : Request) : Option Nat :=
  (r.paths.map Utf16.length).find? fun length => maxPath < length

/-- The bytes that a device may put into its answer about the operating system. -/
def versionSize : UInt32 := 276

/-- Appends the arguments of a request. -/
def marshal (d : Dialect) : Request → BufferM Unit
  | createFile path access share disposition flags => do
    d.writeString path
    Buffer.writeU32 access
    Buffer.writeU32 share
    Buffer.writeU32 disposition
    Buffer.writeU32 flags
  | readFrom handle length => do
    Buffer.writeU32 handle
    Buffer.writeOptionalOut (some length)
  | writeTo handle data => do
    Buffer.writeU32 handle
    Buffer.writeOptionalIn (some data)
  | setFilePointer handle distance origin => do
    Buffer.writeU32 handle
    Buffer.writeI32 distance
    Buffer.writeU32 origin.code
  | closeHandle handle => Buffer.writeU32 handle
  | getFileAttributes path => d.writeString path
  | deleteFile path => d.writeString path
  | createDirectory path => d.writeString path
  | removeDirectory path => d.writeString path
  | moveFile source target => do
    d.writeString source
    d.writeString target
  | regOpenKey key subKey => do
    Buffer.writeU32 key
    d.writeString subKey
  | regCloseKey key => Buffer.writeU32 key
  | regQueryValue key name maxLength => do
    Buffer.writeU32 key
    d.writeOptionalString name
    Buffer.writeOptionalOut (some maxLength)
  | getVersion => Buffer.writeOptionalOut (some versionSize)
  | getStoreInformation => pure ()
  | createProcess application arguments => do
    d.writeString application
    d.writeOptionalString arguments
    Buffer.writeU32 0

end Request

end PocketLink
