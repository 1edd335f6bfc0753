import PocketLink.Error
import PocketLink.Wire.Command
import PocketLink.Wire.Frame

/-!
# Settings

The settings of connections: where things are and how long to wait. They are kept in a JSON file
whose fields all have defaults. The defaults and the place of the file follow from the environment;
directories of the environment count only if they are absolute.
-/

namespace PocketLink

/-- What the environment of a program says about directories. -/
structure Environment where
  /-- The home directory; an empty one counts as not given. -/
  home : Option String := none
  /-- The home directory of the user's account, for want of another. -/
  accountHome : String := "/root"
  /-- The directory for configuration. -/
  configHome : Option String := none
  /-- The directory for sockets and the like. -/
  runtimeDir : Option String := none
  /-- The directory for temporary files. -/
  tempDir : Option String := none
  deriving Repr

namespace Environment

/-- A directory that is given by an absolute path. -/
def absolute? (dir : Option String) : Option Path :=
  match dir with
  | some text => if Path.isAbsolute ⟨text⟩ then some ⟨text⟩ else none
  | none => none

/-- The home directory in force. -/
def homePath (env : Environment) : Path :=
  match env.home with
  | some "" => ⟨env.accountHome⟩
  | some text => ⟨text⟩
  | none => ⟨env.accountHome⟩

/-- The configuration directory in force. -/
def configPath (env : Environment) : Path :=
  (absolute? env.configHome).getD (env.homePath.join ".config")

/-- The directory for temporary files in force. -/
def tempPath (env : Environment) : Path := ⟨env.tempDir.getD "/tmp"⟩

/-- The runtime directory in force. -/
def runtimePath (env : Environment) : Path := (absolute? env.runtimeDir).getD env.tempPath

end Environment

/-- The settings of connections. -/
structure Settings where
  /-- The port for direct connections. -/
  port : UInt16
  /-- The directory of the proxy sockets. -/
  proxyDir : Path
  /-- The directory of the device files. -/
  infoDir : Path
  /-- How long to wait for a connection, in milliseconds. -/
  connectTimeout : Option UInt64 := none
  /-- How long to wait for each send and receive, in milliseconds. -/
  ioTimeout : Option UInt64 := none
  /-- The longest reply body that is accepted. -/
  maxFrame : UInt32 := defaultMaxFrame
  deriving DecidableEq, Repr

namespace Settings

/-- The settings of a program that is told nothing. -/
def default (env : Environment) : Settings where
  port := devicePort
  proxyDir := env.runtimePath.join "synce"
  infoDir := env.configPath.join "synce"

/-- Where the settings are kept unless another file is named. -/
def defaultPath (env : Environment) : Path := (env.configPath.join "synce").join "rapi.json"

/-! ## The file form -/

/-- The names of the fields in a file, in the order in which they are written. -/
def fieldNames : List String :=
  ["rapi_port", "proxy_dir", "info_dir", "connect_timeout_ms", "io_timeout_ms", "max_frame"]

/-- The value of each field in a file. -/
def fieldValues (s : Settings) : List Json :=
  let time := Json.ofOption fun t : UInt64 => Json.ofNat t.toNat
  [.ofNat s.port.toNat, .ofText s.proxyDir.text, .ofText s.infoDir.text, time s.connectTimeout,
    time s.ioTimeout, .ofNat s.maxFrame.toNat]

/-- The document of some settings. -/
def toJson (s : Settings) : Json := Json.ofMembers (fieldNames.zip s.fieldValues)

/-- The settings of a document over some defaults; `none` if a field does not hold what it
should. -/
def ofJson? (defaults : Settings) (v : Json) : Option Settings := do
  let slots ← v.slots? fieldNames
  let port ← Json.field defaults.port.toNat (Json.natBelow? UInt16.size) (slots[0]?.join)
  let proxyDir ← Json.field defaults.proxyDir.text Json.text? (slots[1]?.join)
  let infoDir ← Json.field defaults.infoDir.text Json.text? (slots[2]?.join)
  let time (i : Nat) (old : Option UInt64) : Option (Option UInt64) :=
    Json.field old (fun v => (Json.nullable (Json.natBelow? UInt64.size) v).map
      (Option.map UInt64.ofNat)) (slots[i]?.join)
  let connectTimeout ← time 3 defaults.connectTimeout
  let ioTimeout ← time 4 defaults.ioTimeout
  let maxFrame ← Json.field defaults.maxFrame.toNat (Json.natBelow? UInt32.size) (slots[5]?.join)
  return {
    port := UInt16.ofNat port
    proxyDir := ⟨proxyDir⟩
    infoDir := ⟨infoDir⟩
    connectTimeout, ioTimeout
    maxFrame := UInt32.ofNat maxFrame }

/-- The text of a settings file. -/
def render (s : Settings) : String := s.toJson.spread

def load (defaults : Settings) (files : Files) (p : Path) : Except FileFault Settings :=
  match files.readText p with
  | .error cause => .error (.io cause)
  | .ok text =>
    match Json.parse? text >>= ofJson? defaults with
    | some s => .ok s
    | none => .error .malformed

/-- Loads the named settings file, which must exist, or else the default one, which need not. -/
def loadOrDefault (env : Environment) (files : Files) : Option Path → Except FileFault Settings
  | some p => load (default env) files p
  | none =>
    if files.contains (defaultPath env) then load (default env) files (defaultPath env)
    else .ok (default env)

/-- Writes a settings file, and makes the directories around it that are missing. -/
def save (s : Settings) (files : Files) (p : Path) : Except IoError Files := do
  let files ← match p.parent? with
    | some around => files.makeDirectories around
    | none => .ok files
  files.write p (Utf8.encode s.render)

end Settings

end PocketLink
