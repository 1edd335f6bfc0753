import PocketLink.Proofs.CommandLine.RemoteFiles
import PocketLink.Proofs.Files

/-!
# Files from the device

A remote file is read chunk by chunk, and the local file has at any time the chunks that have come
so far. The end of the file is a chunk without bytes. When it has come, or a read has failed, the
handle is closed.
-/

namespace PocketLink.CommandLine

open Context Operation

-- Nothing here depends on how an operation works, only on what it answers.
seal Context.perform

/-- The request for the next chunk of a remote file. -/
@[reducible] def reading (handle : UInt32) : Request :=
  .readFrom handle (UInt32.ofNat chunkSize)

variable {d : Dialect} {handle : UInt32} {path : Path} {job : Job} {written : List UInt8}

/-! ## One read -/

theorem getFile_eq (remote : String) (target : Option String) :
    getFile remote target =
      transferred remote (target.getD (remoteName remote)) <$>
        overHandle (.openFile remote) remote Access.read Disposition.openExisting
          fun handle => download handle ⟨target.getD (remoteName remote)⟩ := by
  rw [getFile, overHandle, map_bind]
  rfl

/-! ## Whole downloads -/

end PocketLink.CommandLine
