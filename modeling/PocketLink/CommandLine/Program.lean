import PocketLink.CommandLine.Arguments
import PocketLink.CommandLine.Transfer
import PocketLink.Remote.Documents

/-!
# The program

What each verb does, and what the program as a whole writes and answers: the output, the complaint,
and the exit code, which is zero for success, one for a failure and two for wrong arguments.
-/

namespace PocketLink.CommandLine

/-! ## Lists and states -/

/-- A text with blanks behind it up to a width. -/
def padded (width : Nat) (text : String) : String :=
  text ++ String.ofList (List.replicate (width - text.length) ' ')

/-- A row of the table of devices. -/
def row (name os transport address : String) : String :=
  padded 24 name ++ " " ++ padded 8 os ++ " " ++ padded 10 transport ++ " " ++ padded 16 address ++
    "\n"

def deviceRow (info : DeviceInfo) : String :=
  row info.name (Nat.repr info.osMajor.toNat ++ "." ++ Nat.repr info.osMinor.toNat)
    (info.transport.getD "ppp") (info.deviceIp.getD "-")

def listing (format : Format) (devices : List DeviceInfo) : String :=
  match format with
  | .json => (Json.array (devices.map DeviceInfo.toJson)).spread ++ "\n"
  | .table =>
    if devices.isEmpty then "No devices.\n"
    else row "NAME" "OS" "TRANSPORT" "ADDRESS" ++ String.join (devices.map deviceRow)

/-- The state of a device, as a table. -/
def stateTable (context : Context) (version : OsVersion) (store : StoreInfo) : String :=
  let device := match context.info with
    | some info => "device:  " ++ info.name ++ "\n"
    | none => ""
  device ++ "os:      " ++ Nat.repr version.major.toNat ++ "." ++ Nat.repr version.minor.toNat ++
    " build " ++ Nat.repr version.build.toNat ++ " " ++ version.extra ++ "\n" ++
    "store:   " ++ Size.text store.free.toNat ++ " free of " ++ Size.text store.size.toNat ++ "\n"

/-- The state of a device, as a document. -/
def stateDocument (context : Context) (version : OsVersion) (store : StoreInfo) : Json :=
  .ofMembers [
    ("device", .ofOption (fun info : DeviceInfo => .ofText info.name) context.info),
    ("dialect", .ofOption (fun d : Dialect => .ofText d.name) context.dialect),
    ("store", store.toJson),
    ("version", version.toJson)]

/-- Shows the state of a device. -/
def status (format : Format) : Step String := do
  let version ← Step.call .getVersion
  let store ← Step.call .getStoreInformation
  let context := (← get).context
  match format with
  | .table => return stateTable context version store
  | .json => return (stateDocument context version store).spread ++ "\n"

/-! ## Programs and the registry -/

/-- Starts a program, and lets go of its handles. Its arguments are joined by blanks. -/
def start (program : String) (arguments : List String) : Step String := do
  let line := if arguments.isEmpty then none else some (" ".intercalate arguments)
  let process ← Step.doing (.start program) (Step.call (.createProcess program line))
  Step.call (.closeHandle process.thread)
  Step.call (.closeHandle process.process)
  return Nat.repr process.processId.toNat ++ "\n"

/-- The longest registry value, in bytes, that is read. -/
def maxValue : UInt32 := 4096

/-- A registry value as it is shown: as a text or a number if it is one, else byte by byte. -/
def valueText (value : RegValue) : String :=
  match value.text?, value.word? with
  | some text, _ => text
  | none, some word => Error.statusText word ++ " (" ++ Nat.repr word.toNat ++ ")"
  | none, none => " ".intercalate (value.data.map fun b => String.ofList (Hex.ofBytes [b]))

/-- Reads a registry value. The key is closed whatever becomes of it. -/
def readValue (root : UInt32) (key : String) (name : Option String) : Step String := do
  let handle ← Step.doing (.openKey key) (Step.call (.regOpenKey root key))
  let value ← Step.thenAlways
    (Step.doing (.readValue name) (Step.call (.regQueryValue handle name maxValue)))
    (Step.call (.regCloseKey handle))
  return valueText value ++ "\n"

/-- Deletes files one after another. -/
def deleteAll : List String → Step Unit
  | [] => pure ()
  | path :: rest => do
    Step.doing (.delete path) (Step.call (.deleteFile path))
    deleteAll rest

/-! ## Verbs -/

/-- What a verb does on a connected device, with what it answers as output. Reading the arguments
has seen to it that there are as many words as there are to be. -/
def perform (i : Invocation) : Step String := do
  match i.verb, i.words with
  | .status, _ => status i.format
  | .get, remote :: target => getFile remote target.head?
  | .put, source :: target => putFile ⟨source⟩ target.head?
  | .mkdir, path :: _ => silent (.createDirectory path)
  | .rmdir, path :: _ => silent (.removeDirectory path)
  | .rm, paths => do
    deleteAll paths
    return ""
  | .mv, source :: target :: _ => silent (.moveFile source target)
  | .run, program :: arguments => start program arguments
  | .reg, root :: key :: name => readValue ((Verb.roots.lookup root).getD 0) key name.head?
  | _, _ => return ""
where
  /-- A remote operation that has nothing to show. -/
  silent (r : Request) : Step String := do
    let _ ← Step.call r
    return ""

/-- Which device an invocation means. -/
def Invocation.selector (i : Invocation) : Selector :=
  match i.device with
  | some name => .name name
  | none => .default

def Invocation.settings (i : Invocation) (env : Environment) (files : Files) :
    Except Failure Settings :=
  (Settings.loadOrDefault env files (i.config.map Path.mk)).mapError fun fault =>
    { task := some .loadSettings, cause := .operation (.ofFileFault fault) }

/-- Connects to the device that is meant and does there what is asked for. -/
def connectAndPerform (world : Outside) (i : Invocation) : Step String := do
  Step.doing (.connect i.selector) (Step.onContext (Context.connect world))
  perform i

/-- The words that may stand for a verb, one on a line, as shells complete them. -/
def completions : String := String.join (Verb.table.map fun entry => entry.1 ++ "\n")

/-! ## The whole -/

/-- What a run of the program leaves behind. -/
structure Outcome where
  /-- The exit code. -/
  code : UInt32 := 0
  /-- What is written to the output. -/
  output : String := ""
  /-- What is written to the error output. -/
  complaint : String := ""
  /-- The local files. -/
  files : Files
  /-- The connection to the device, as far as there was one. -/
  socket : Socket := {}

/-- The version that the program shows. -/
def versionText : String := "rapi 0.3.0\n"

/-- The help that the program shows. -/
def helpText : String :=
  "Usage: rapi [OPTIONS] <COMMAND>\n\nCommands:\n" ++
    String.join (Verb.table.map fun entry => "  " ++ entry.1 ++ "\n")

/-- What is said of arguments that are wrong. -/
def usageText : String := "error: wrong arguments\n\nFor more information, try '--help'.\n"

/-- The outcome for arguments that ask for nothing. -/
def Outcome.stopped (files : Files) : Stop → Outcome
  | .usage => { code := 2, complaint := usageText, files }
  | .help => { output := helpText, files }
  | .version => { output := versionText, files }

def Outcome.ofAnswer (files : Files) (socket : Socket) : Except Failure String → Outcome
  | .ok output => { output, files, socket }
  | .error failure => { code := 1, complaint := "rapi: " ++ failure.message ++ "\n", files, socket }

/-- Runs an invocation. -/
def Invocation.run (env : Environment) (world : Outside) (files : Files) (i : Invocation) :
    Outcome :=
  if i.verb = .completion then { output := completions, files }
  else
    match i.settings env files with
    | .error failure => Outcome.ofAnswer files {} (.error failure)
    | .ok settings =>
      if i.verb = .devices then
        let devices := (Resolver.directory files settings.infoDir).devices
        Outcome.ofAnswer files {} <|
          (devices.map (listing i.format)).mapError fun e => { cause := .operation e }
      else
        let context := (Context.new settings files).withSelector i.selector
        let (answer, job) := (connectAndPerform world i).on { context, files }
        Outcome.ofAnswer job.files job.context.socket answer

/-- Runs the program. -/
def run (env : Environment) (world : Outside) (files : Files) (args : List String) : Outcome :=
  match read args with
  | .error stop => Outcome.stopped files stop
  | .ok i => i.run env world files

end PocketLink.CommandLine
