/-!
# Numbers of the file and registry calls

The values that the arguments and answers of file and registry calls take.
-/

namespace PocketLink

namespace Access

/-- Reading a file. -/
def read : UInt32 := 0x80000000

/-- Writing a file. -/
def write : UInt32 := 0x40000000

end Access

namespace Disposition

/-- Make a file that does not exist. -/
def createNew : UInt32 := 1

/-- Make a file, or empty the one that exists. -/
def createAlways : UInt32 := 2

/-- Open a file that exists. -/
def openExisting : UInt32 := 3

/-- Open a file, and make it if need be. -/
def openAlways : UInt32 := 4

/-- Open a file that exists and empty it. -/
def truncateExisting : UInt32 := 5

end Disposition

namespace Attributes

/-- The bit of a directory. -/
def directory : UInt32 := 0x10

/-- The attributes of a plain file. -/
def normal : UInt32 := 0x80

/-- The answer for a file that cannot be looked up. -/
def invalid : UInt32 := 0xFFFFFFFF

end Attributes

namespace RootKey

/-- The root of file associations. -/
def classesRoot : UInt32 := 0x80000000

/-- The root of the user's settings. -/
def currentUser : UInt32 := 0x80000001

/-- The root of the device's settings. -/
def localMachine : UInt32 := 0x80000002

/-- The root of all users' settings. -/
def users : UInt32 := 0x80000003

end RootKey

namespace ValueKind

/-- A UTF-16 string with a zero unit at its end. -/
def string : UInt32 := 1

/-- Bytes. -/
def binary : UInt32 := 3

def word : UInt32 := 4

end ValueKind

end PocketLink
