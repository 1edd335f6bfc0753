import PocketLink.Error

/-!
# Failures of commands

A command that fails says what it was doing, where that is not plain, and why that failed. The
reason of a failure on the stream or on the wire has a reason of its own, which is said after it.
-/

namespace PocketLink.CommandLine

/-- What a command was doing. -/
inductive Task where
  /-- Loading the settings. -/
  | loadSettings
  /-- Connecting to a device. -/
  | connect (selector : Selector)
  /-- Opening a file. -/
  | openFile (path : String)
  /-- Making a file. -/
  | createFile (path : String)
  /-- Deleting a file. -/
  | delete (path : String)
  /-- Starting a program. -/
  | start (program : String)
  /-- Opening a registry key. -/
  | openKey (key : String)
  /-- Reading a registry value. -/
  | readValue (name : Option String)
  deriving DecidableEq, Repr

/-- What is said of a task that failed. -/
def Task.message : Task → String
  | loadSettings => "cannot load config"
  | connect selector => "cannot connect to " ++ selector.text
  | openFile path => "cannot open " ++ path
  | createFile path => "cannot create " ++ path
  | delete path => "cannot delete " ++ path
  | start program => "cannot start " ++ program
  | openKey key => "cannot open key " ++ key
  | readValue name => "cannot read " ++ name.getD "(default)"

/-- Why a command failed. -/
inductive Cause where
  /-- An operation failed. -/
  | operation (e : Error)
  /-- A local path ends in no name. -/
  | noFileName (path : Path)
  /-- A device took less than it was sent. -/
  | shortWrite (written size : Nat)
  deriving DecidableEq, Repr

/-- The reasons, the nearest first. -/
def Cause.messages : Cause → List String
  | operation (.transport cause) => [(Error.transport cause).message, cause.message]
  | operation (.wire cause) => [(Error.wire cause).message, cause.message]
  | operation e => [e.message]
  | noFileName path => [path.text ++ " has no file name"]
  | shortWrite written size =>
    ["short write: " ++ Nat.repr written ++ " of " ++ Nat.repr size ++ " bytes"]

structure Failure where
  /-- What it was doing. -/
  task : Option Task := none
  /-- Why that failed. -/
  cause : Cause
  deriving DecidableEq, Repr

/-- What is said of a failure. -/
def Failure.message (f : Failure) : String :=
  ": ".intercalate (f.task.toList.map Task.message ++ f.cause.messages)

end PocketLink.CommandLine
