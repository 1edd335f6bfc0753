import PocketLink.CommandLine.Transfer
import PocketLink.Proofs.Context.Conversation

/-!
# Remote files

A transfer opens a remote file, reads or writes it with the handle that it got, and closes the
handle, whatever came of the reading or writing. A failure to open is the end of it.
-/

namespace PocketLink

/-! ## The requests of a transfer -/

namespace Context

variable {d : Dialect} {r : Request} {c : Context}

end Context

namespace CommandLine

open Context Operation

/-! ## Steps -/

def Job.performing (job : Job) (requests : List Request) : Job :=
  { job with context := performed requests job.context }

theorem Step.on_call (r : Request) (job : Job) :
    (call r).on job =
      (((Context.perform r).on job.context).1.mapError fun e => { cause := .operation e },
        job.performing [r]) := rfl

/-! ## Transfers -/

/-- The request that opens a remote file for a transfer. -/
@[reducible] def accessing (path : String) (access disposition : UInt32) : Request :=
  .createFile path access 0 disposition Attributes.normal

/-- What both kinds of transfers do: they open a remote file, move bytes over its handle, and close
it. -/
def overHandle (task : Task) (path : String) (access disposition : UInt32)
    (move : UInt32 → Step Nat) : Step Nat := do
  let handle ← Step.doing task (Step.call (accessing path access disposition))
  Step.thenAlways (move handle) (Step.call (.closeHandle handle))

/-- What a transfer comes to when its handle was closed: a failure to close it counts more than a
failure to move bytes. -/
def closing {α : Type} (closed : Except Error Unit) (moved : Except Failure α) : Except Failure α :=
  match closed with
  | .ok () => moved
  | .error e => .error { cause := .operation e }

variable {task : Task} {path : String} {access disposition : UInt32} {move : UInt32 → Step Nat}
  {job : Job}

end CommandLine

end PocketLink
