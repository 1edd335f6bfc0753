/-!
# Remote commands

The operations a device performs, and the two tables of numbers that name them in a request. Which
table holds depends on the dialect of the connection.
-/

namespace PocketLink

/-- A remote operation. -/
inductive Command where
  | createFile
  | readFile
  | writeFile
  | closeHandle
  | setFilePointer
  | getFileAttributes
  | deleteFile
  | moveFile
  | createDirectory
  | removeDirectory
  | regOpenKey
  | regCloseKey
  | regQueryValue
  | getVersion
  | getStoreInformation
  | createProcess
  deriving DecidableEq, Repr

namespace Command

/-- Every command, once. -/
def all : List Command :=
  [createFile, readFile, writeFile, closeHandle, setFilePointer, getFileAttributes, deleteFile,
    moveFile, createDirectory, removeDirectory, regOpenKey, regCloseKey, regQueryValue, getVersion,
    getStoreInformation, createProcess]

/-- The number of a command in the first dialect. -/
def enveloped : Command → UInt32
  | createFile => 0x05
  | readFile => 0x06
  | writeFile => 0x07
  | closeHandle => 0x08
  | setFilePointer => 0x09
  | createDirectory => 0x0F
  | removeDirectory => 0x10
  | moveFile => 0x11
  | deleteFile => 0x13
  | getFileAttributes => 0x14
  | regOpenKey => 0x1E
  | regCloseKey => 0x20
  | regQueryValue => 0x22
  | createProcess => 0x3B
  | getVersion => 0x3C
  | getStoreInformation => 0x41

/-- The number of a command in the second dialect. -/
def bare : Command → UInt32
  | getFileAttributes => 0x01
  | getVersion => 0x02
  | createFile => 0x03
  | readFile => 0x04
  | writeFile => 0x05
  | closeHandle => 0x06
  | setFilePointer => 0x07
  | createDirectory => 0x08
  | removeDirectory => 0x09
  | moveFile => 0x0A
  | deleteFile => 0x0B
  | regOpenKey => 0x12
  | regCloseKey => 0x13
  | regQueryValue => 0x15
  | getStoreInformation => 0x1C
  | createProcess => 0x24

/-- The name of a command in the documents of the platform. -/
def name : Command → String
  | createFile => "CreateFile"
  | readFile => "ReadFile"
  | writeFile => "WriteFile"
  | closeHandle => "CloseHandle"
  | setFilePointer => "SetFilePointer"
  | getFileAttributes => "GetFileAttributes"
  | deleteFile => "DeleteFile"
  | moveFile => "MoveFile"
  | createDirectory => "CreateDirectory"
  | removeDirectory => "RemoveDirectory"
  | regOpenKey => "RegOpenKeyEx"
  | regCloseKey => "RegCloseKey"
  | regQueryValue => "RegQueryValueEx"
  | getVersion => "GetVersionEx"
  | getStoreInformation => "GetStoreInformation"
  | createProcess => "CreateProcess"

def named? (text : String) : Option Command := all.find? fun c => c.name == text

end Command

/-- The port on which devices listen for direct connections. -/
def devicePort : UInt16 := 990

/-- The longest path, in UTF-16 units, that a device takes. -/
def maxPath : Nat := 260

end PocketLink
