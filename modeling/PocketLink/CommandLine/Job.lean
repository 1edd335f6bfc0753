import PocketLink.CommandLine.Failure
import PocketLink.Context.Connect
import PocketLink.Context.Exchange

/-!
# Jobs

What a command works on: a call context, and the local files. A step of a command calls the device,
reads or changes the files, and may fail.
-/

namespace PocketLink.CommandLine

/-- The context and the files of a command. -/
structure Job where
  /-- The connection to the device. -/
  context : Context
  /-- The local files. -/
  files : Files

abbrev Step := Operation Job Failure

namespace Step

def fail {α : Type} (cause : Cause) : Step α := throw { cause := cause }

/-- Goes on with an answer. -/
def ofAnswer {α : Type} : Except Error α → Step α
  | .ok a => pure a
  | .error e => fail (.operation e)

/-- Says what a step does, in case that it fails. -/
def doing {α : Type} (task : Task) (act : Step α) : Step α :=
  tryCatch act fun failure => throw { failure with task := some task }

/-- An operation of the context. -/
def onContext {α : Type} (act : Call α) : Step α :=
  Operation.within Job.context (fun c job => { job with context := c })
    (fun e => { cause := .operation e }) act

/-- A remote operation. -/
def call (r : Request) : Step r.Answer := onContext (Context.perform r)

/-- What the files answer. -/
def onFiles {α : Type} (look : Files → Except IoError α) : Step α := do
  ofAnswer ((look (← get).files).mapError Error.io)

def changeFiles (change : Files → Except IoError Files) : Step Unit := do
  let files ← onFiles change
  modify fun job => { job with files }

/-- Runs a step to its end, whatever comes of it, then another one, and only then looks at what the
first one answered. The failure of the second one counts more. -/
def thenAlways {α β : Type} (act : Step α) (last : Step β) : Step α := do
  let answer ← (Operation.attempt act : Step (Except Failure α))
  let _ ← last
  match answer with
  | .ok a => return a
  | .error failure => throw failure

/-! ## Laws -/

theorem on_ofAnswer {α : Type} (answer : Except Error α) (job : Job) :
    (ofAnswer answer).on job = (answer.mapError fun e => { cause := .operation e }, job) := by
  cases answer <;> rfl

theorem on_doing {α : Type} (task : Task) (act : Step α) (job : Job) :
    (doing task act).on job =
      ((act.on job).1.mapError fun failure => { failure with task := some task },
        (act.on job).2) := by
  rw [doing, Operation.on_tryCatch]
  match act.on job with
  | (.ok a, job') => rfl
  | (.error failure, job') => rfl

theorem on_onFiles {α : Type} (look : Files → Except IoError α) (job : Job) :
    (onFiles look).on job =
      ((look job.files).mapError fun e => { cause := .operation (.io e) }, job) := by
  simp only [onFiles, Operation.on_bind, Operation.on_get, on_ofAnswer]
  cases look job.files <;> rfl

theorem context_changeFiles (change : Files → Except IoError Files) (job : Job) :
    ((changeFiles change).on job).2.context = job.context := by
  rw [changeFiles, Operation.on_bind, on_onFiles]
  cases change job.files <;> rfl

/-- The last step runs on what the first one left, whether that one failed or not. -/
theorem on_thenAlways {α β : Type} (act : Step α) (last : Step β) (job : Job) :
    (thenAlways act last).on job =
      match last.on (act.on job).2 with
      | (.ok _, job') => ((act.on job).1, job')
      | (.error failure, job') => (.error failure, job') := by
  simp only [thenAlways, Operation.on_bind, Operation.on_attempt]
  cases h : last.on (act.on job).2 with
  | mk answer job' =>
    cases answer with
    | error failure => rfl
    | ok b => cases (act.on job).1 <;> rfl

end Step

end PocketLink.CommandLine
