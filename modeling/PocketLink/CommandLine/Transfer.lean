import PocketLink.CommandLine.Job
import PocketLink.Context.Spending
import PocketLink.Text.Size

/-!
# File transfer

Files go to and from a device in chunks of 64 KiB, one call for each. A file from a device ends with
an empty chunk, and so does what is read of a local file. The remote file is closed whatever became
of the transfer.
-/

namespace PocketLink.CommandLine

/-- How many bytes go in one call. -/
def chunkSize : Nat := 64 * 1024

/-- What is said of a transfer. -/
def transferred (source target : String) (size : Nat) : String :=
  source ++ " -> " ++ target ++ " (" ++ Size.text size ++ ")\n"

/-! ## From the device -/

/-- The last name of a path on a device. -/
def remoteName (path : String) : String :=
  String.ofList ((Path.splitFrom '\\' [] path.toList).getLast?.getD [])

/-- Reads the next chunk of a remote file and appends it to a local one, which has some bytes
already. Behind the last chunk comes an empty one; then it answers how many bytes there are. -/
def downloadRound (handle : UInt32) (target : Path) (written : List UInt8) :
    Step (List UInt8 ⊕ Nat) := do
  let chunk ← Step.call (.readFrom handle (UInt32.ofNat chunkSize))
  if chunk.isEmpty then return .inr written.length
  let written := written ++ chunk
  Step.changeFiles (·.write target written)
  return .inl written

theorem Step.spends_call (r : Request) :
    Operation.Spends (fun job : Job => job.context.supply) 4 (Step.call r) := by
  rw [Step.call, Step.onContext]
  exact (Context.spends_perform r).within fun _ _ => rfl

/-- Each chunk is taken off what the device may still send. -/
theorem supply_downloadRound_lt {handle : UInt32} {target : Path} {written more : List UInt8}
    {job job' : Job}
    (h : (downloadRound handle target written).on job = (.ok (.inl more), job')) :
    job'.context.supply < job.context.supply := by
  obtain ⟨chunk, called, hcall, hrest⟩ := Operation.of_on_bind_ok h
  have hless : called.context.supply < job.context.supply :=
    (Step.spends_call _).lt (by decide) hcall
  dsimp only at hrest
  split at hrest
  · cases hrest
  · obtain ⟨_, changed, hchange, hend⟩ := Operation.of_on_bind_ok hrest
    have hkept := Step.context_changeFiles (·.write target (written ++ chunk)) called
    rw [hchange] at hkept
    cases hend
    rwa [hkept]

/-- Reads a remote file to its end, and appends what comes to a local file that has some bytes
already. Answers how many it has in the end. -/
def downloadFrom (handle : UInt32) (target : Path) (written : List UInt8) : Step Nat :=
  Operation.loop (fun job _ => job.context.supply) (downloadRound handle target)
    supply_downloadRound_lt written

/-- Makes a local file and reads a remote one into it. -/
def download (handle : UInt32) (target : Path) : Step Nat := do
  Step.doing (.createFile target.text) (Step.changeFiles (·.write target []))
  downloadFrom handle target []

/-- Copies a file from the device. -/
def getFile (remote : String) (target : Option String) : Step String := do
  let target : Path := ⟨target.getD (remoteName remote)⟩
  let handle ← Step.doing (.openFile remote) <|
    Step.call (.createFile remote Access.read 0 Disposition.openExisting Attributes.normal)
  let size ← Step.thenAlways (download handle target) (Step.call (.closeHandle handle))
  return transferred remote target.text size

/-! ## To the device -/

/-- Reads the next piece of a local file and writes it to a remote one, which has to take it as a
whole. It goes on with the rest of the file and the bytes so far; at the end of the file it answers
how many there were. -/
def uploadRound (handle : UInt32) (progress : OpenFile × Nat) : Step ((OpenFile × Nat) ⊕ Nat) := do
  let (piece, rest) ← Step.ofAnswer ((progress.1.read chunkSize).mapError Error.io)
  if piece.isEmpty then return .inr progress.2
  let written ← Step.call (.writeTo handle piece)
  if written.toNat ≠ piece.length then Step.fail (.shortWrite written.toNat piece.length)
  return .inl (rest, progress.2 + piece.length)

/-- Each piece is taken off the local file. -/
theorem size_uploadRound_lt {handle : UInt32} {job job' : Job} {progress next : OpenFile × Nat}
    (h : (uploadRound handle progress).on job = (.ok (.inl next), job')) :
    next.1.size < progress.1.size := by
  obtain ⟨⟨piece, rest⟩, opened, hread, hrest⟩ := Operation.of_on_bind_ok h
  rw [Step.on_ofAnswer, Prod.mk.injEq] at hread
  have hpiece : progress.1.read chunkSize = .ok (piece, rest) :=
    Operation.mapError_eq_ok_iff.mp (Operation.mapError_eq_ok_iff.mp hread.1)
  dsimp only at hrest
  split at hrest
  · cases hrest
  next hmore =>
    obtain ⟨written, called, -, hrest⟩ := Operation.of_on_bind_ok hrest
    split at hrest
    · obtain ⟨_, _, hfail, -⟩ := Operation.of_on_bind_ok hrest
      cases hfail
    · cases hrest
      exact OpenFile.size_lt_of_read hpiece fun hnil => hmore (List.isEmpty_iff.mpr hnil)

/-- Writes what is left of a local file to a remote one. Answers how many bytes the file has. -/
def uploadFrom (handle : UInt32) (progress : OpenFile × Nat) : Step Nat :=
  Operation.loop (fun _ progress => progress.1.size) (uploadRound handle) size_uploadRound_lt
    progress

/-- Writes a local file to a remote one. Answers how many bytes it has. -/
def upload (handle : UInt32) (file : OpenFile) : Step Nat := uploadFrom handle (file, 0)

/-- The path on the device for a local file. -/
def defaultTarget (source : Path) : Step String :=
  match source.fileName? with
  | some name => return "\\My Documents\\" ++ name
  | none => Step.fail (.noFileName source)

/-- Copies a file to the device. The local file has to be there before the remote one is made. -/
def putFile (source : Path) (target : Option String) : Step String := do
  let target ← match target with
    | some target => pure target
    | none => defaultTarget source
  let file ← Step.doing (.openFile source.text) (Step.onFiles (·.openToRead source))
  let handle ← Step.doing (.createFile target) <|
    Step.call (.createFile target Access.write 0 Disposition.createAlways Attributes.normal)
  let size ← Step.thenAlways (upload handle file) (Step.call (.closeHandle handle))
  return transferred source.text target size

end PocketLink.CommandLine
