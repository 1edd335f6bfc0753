import PocketLink.CommandLine.Program

/-!
# The command

The command as it is called from a shell: it takes in the environment and the files that an
invocation can reach, runs it, writes what it answers, and puts the file that it made in its place.
No network is within reach of it; what does not need a device works.
-/

namespace PocketLink.CommandLine

/-- The environment of this process. -/
def readEnvironment : IO Environment := do
  return {
    home := ← IO.getEnv "HOME"
    configHome := ← IO.getEnv "XDG_CONFIG_HOME"
    runtimeDir := ← IO.getEnv "XDG_RUNTIME_DIR"
    tempDir := ← IO.getEnv "TMPDIR" }

/-- The tree with what stands at one place of the file system, if anything does. -/
def takeIn (files : Files) (place : String) : IO Files := do
  let path ← IO.FS.realPath place
  if ← path.isDir then
    return (files.install ⟨place⟩ .directory).toOption.getD files
  if ← path.pathExists then
    let content ← IO.FS.readBinFile place
    return (files.install ⟨place⟩ (.file content.toList)).toOption.getD files
  return files

/-- The tree with what stands at the end of a path and at every step on the way. -/
def takeInPath (here : String) (files : Files) (p : Path) : IO Files := do
  let mut files := files
  let mut place := if p.isAbsolute then "" else here
  for name in p.names do
    place := place ++ "/" ++ name
    files ← takeIn files place
  return files

/-- The tree with a directory and the files in it. -/
def takeInDirectory (here : String) (files : Files) (p : Path) : IO Files := do
  let mut files ← takeInPath here files p
  if files.isDirectory p then
    for entry in ← (← IO.FS.realPath p.text).readDir do
      files ← takeInPath here files (p.join entry.fileName)
  return files

/-- The files that an invocation can reach. -/
def filesFor (here : String) (env : Environment) (i : Invocation) : IO Files := do
  let start : Files := { workingDirectory := (Path.mk here).names }
  let files ← takeInPath here start ⟨here⟩
  let config := (i.config.map Path.mk).getD (Settings.defaultPath env)
  let files ← takeInPath here files config
  let files ← match i.settings env files with
    | .ok settings => takeInDirectory here files settings.infoDir
    | .error _ => pure files
  i.words.foldlM (fun files word => takeInPath here files ⟨word⟩) files

/-- Nobody can be reached. -/
def unreachable : Outside where
  runs := fun _ => false
  dial := fun _ _ _ => .error .networkUnreachable
  proxy := fun _ => .error .connectionRefused
  broker := fun _ => .error .connectionRefused

/-- Writes the files that are new or changed. -/
def putBack (before after : Files) : IO Unit := do
  for (place, node) in after.nodes do
    match node with
    | .file content =>
      if before.node? place ≠ some node then
        IO.FS.writeBinFile place ⟨content.toArray⟩
    | _ => pure ()

/-- Runs the command. -/
def command (args : List String) : IO UInt32 := do
  let env ← readEnvironment
  let here := toString (← IO.currentDir)
  let files ← match read args with
    | .ok i => filesFor here env i
    | .error _ => pure {}
  let outcome := run env unreachable files args
  putBack files outcome.files
  (← IO.getStdout).putStr outcome.output
  (← IO.getStderr).putStr outcome.complaint
  return outcome.code

end PocketLink.CommandLine

/-- The entry point. -/
def main (args : List String) : IO UInt32 := PocketLink.CommandLine.command args
