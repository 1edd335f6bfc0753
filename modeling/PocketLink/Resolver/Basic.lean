import PocketLink.Error

/-!
# Resolvers

A resolver is a source of device information: it looks up the device that a selector means, and it
lists the devices that it knows. There are three kinds: a fixed list, a directory of device files,
and a chain of sources in which the first one that knows the device wins.

Sources are closed under chaining, so the kinds form a tree.
-/

namespace PocketLink

/-- A source of device information. -/
structure Resolver where
  /-- Looks up the device that is meant. -/
  resolve : Selector → Except Error DeviceInfo
  /-- Lists every known device. -/
  devices : Except Error (List DeviceInfo)

namespace Resolver

/-- The first of some devices that a selector means. -/
def pick (devices : List DeviceInfo) (selector : Selector) : Except Error DeviceInfo :=
  match devices.find? selector.selects with
  | some info => .ok info
  | none => .error (.resolution (.noMatch selector))

/-- A fixed list of devices, the most important first. -/
def fixed (devices : List DeviceInfo) : Resolver where
  resolve := pick devices
  devices := .ok devices

/-! ## Directories -/

/-- The name of the file that describes the active device. -/
def activeFile : String := "active_connection.json"

/-- Whether a file name is that of a device file: its extension is `json`, and it is not the file of
the active device. -/
def isDeviceFile (name : String) : Bool :=
  Path.extension? name = some "json" && name ≠ activeFile

/-- The names of the device files among some names, in the order of their bytes. -/
def deviceFiles (names : List String) : List String :=
  (names.filter isDeviceFile).mergeSort fun a b => decide (a ≤ b)

/-- The devices of a directory. A missing directory has none, and files that cannot be loaded are
passed over. -/
def devicesIn (files : Files) (dir : Path) : Except IoError (List DeviceInfo) :=
  match files.list dir with
  | .error .notFound => .ok []
  | .error cause => .error cause
  | .ok names =>
    .ok ((deviceFiles names).filterMap fun name => (DeviceInfo.load files (dir.join name)).toOption)

/-- The default device of a directory is the active one, if its file exists, even if it cannot be
loaded. Every other device is the first in the listing that is meant. -/
def resolveIn (files : Files) (dir : Path) (selector : Selector) : Except Error DeviceInfo :=
  let active := dir.join activeFile
  if selector = .default ∧ files.contains active then
    match DeviceInfo.load files active with
    | .ok info => .ok info
    | .error fault => .error (.resolution (.unreadable active fault))
  else
    match devicesIn files dir with
    | .ok devices => pick devices selector
    | .error cause => .error (.resolution (.unreadable dir (.io cause)))

/-- A directory of device files. -/
def directory (files : Files) (dir : Path) : Resolver where
  resolve := resolveIn files dir
  devices := (devicesIn files dir).mapError Error.io

/-! ## Chains -/

/-- The answer of the first source that knows the device. -/
def resolveFirst (selector : Selector) : List Resolver → Except Error DeviceInfo
  | [] => .error (.resolution (.noSource selector))
  | source :: sources =>
    match source.resolve selector with
    | .ok info => .ok info
    | .error _ => resolveFirst selector sources

/-- Whether some of the devices has the name of another one. -/
def hasName (devices : List DeviceInfo) (info : DeviceInfo) : Bool :=
  devices.any fun known => Ascii.sameName known.name info.name

/-- Appends the devices whose names are new, one by one. -/
def addNew (known found : List DeviceInfo) : List DeviceInfo :=
  found.foldl (fun all info => if hasName all info then all else all ++ [info]) known

/-- The devices of all sources that can list theirs, each name once. -/
def devicesOf (sources : List Resolver) : List DeviceInfo :=
  sources.foldl (fun all source =>
    match source.devices with
    | .ok found => addNew all found
    | .error _ => all) []

/-- Several sources, the most important first. -/
def chain (sources : List Resolver) : Resolver where
  resolve := fun selector => resolveFirst selector sources
  devices := .ok (devicesOf sources)

end Resolver

end PocketLink
