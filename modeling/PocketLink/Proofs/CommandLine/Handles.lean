import PocketLink.CommandLine.Program
import PocketLink.Proofs.CommandLine.Download
import PocketLink.Proofs.CommandLine.Upload

/-!
# Handles

A device gives handles for files, registry keys, programs and threads, and each of them has to be
given back by a request of its own. A command makes its requests one after another, so that the
handles that it got, and those that it gave back, are found in the requests that it made.

A command borrows a handle: it uses it and gives it back, whatever came of the using. Starting a
program is the exception. It gets two handles, and if the first one cannot be given back it does not
go on to the second one.
-/

namespace PocketLink

/-- A handle of a device, by the request with which it is given back. -/
inductive Handle where
  /-- A file, a program or a thread. -/
  | object (value : UInt32)
  /-- A registry key. -/
  | key (value : UInt32)
  deriving DecidableEq

namespace Request

/-- The request that gives a handle back. -/
def closing : Handle → Request
  | .object value => .closeHandle value
  | .key value => .regCloseKey value

/-- The handle that a request gives back. -/
def closed? : Request → Option Handle
  | closeHandle value => some (.object value)
  | regCloseKey value => some (.key value)
  | _ => none

/-- The handles that an answer to a request gives. -/
def given : (r : Request) → r.Answer → List Handle
  | createFile .., handle => [.object handle]
  | regOpenKey .., handle => [.key handle]
  | createProcess .., process => [.object process.process, .object process.thread]
  | _, _ => []

/-- A request that neither gets a handle nor gives one back. -/
structure IsUse (r : Request) : Prop where
  closes : r.closed? = none
  gives : ∀ a, r.given a = []

/-- What a request is on the wire: nothing if it is refused before it is sent. -/
def wire (d : Dialect) (c : Context) (r : Request) : List UInt8 :=
  ((Invocation.remote r).body? d c).elim [] Frame.encode

theorem wire_eq_frame {d : Dialect} {r : Request} (c : Context) (paths : r.tooLong? = none)
    (fits : (r.fields d).Fits) (hlt : (r.payload d).length < UInt32.size) :
    r.wire d c = r.frame d := by
  rw [wire, Invocation.body?_remote c paths fits hlt]
  rfl

/-- Nothing keeps a request that gives a handle back from being sent. -/
theorem wire_closing (d : Dialect) (c : Context) (h : Handle) :
    (closing h).wire d c = (closing h).frame d := by
  have hlength (opcode value : UInt32) :
      (Encoding.word opcode ++ Encoding.word value).length < UInt32.size := by
    simp only [Encoding.word, List.length_append, LittleEndian.length_u32, UInt32.size]
    omega
  cases h with
  | object value =>
    refine wire_eq_frame c rfl (fun field hfield => ?_) (hlength _ value)
    rw [List.mem_singleton.mp hfield]
    exact trivial
  | key value =>
    refine wire_eq_frame c rfl (fun field hfield => ?_) (hlength _ value)
    rw [List.mem_singleton.mp hfield]
    exact trivial

end Request

/-! ## Devices that are sent everything -/

namespace Channel

/-- A channel to a device that takes whatever it is sent, and leaves the connection open. -/
structure Attentive (c : Channel) : Prop where
  room : c.outgoing.room = none
  stays : ∀ act ∈ c.turns, act.closes = false

theorem perform_of_stays (c : Channel) {act : Act} (h : act.closes = false) :
    (c.perform act).outgoing = c.outgoing ∧ (c.perform act).turns = c.turns := by
  have hdeliver : (c.deliver act.bytes).outgoing = c.outgoing ∧
      (c.deliver act.bytes).turns = c.turns := by
    unfold deliver
    split
    · exact ⟨rfl, rfl⟩
    · exact ⟨rfl, rfl⟩
  have hopen : ¬ act.closes = true := by
    rw [h]
    exact Bool.false_ne_true
  unfold perform
  rw [if_neg hopen]
  split
  · exact hdeliver
  · exact hdeliver

theorem Attentive.takeTurn {c : Channel} (h : c.Attentive) : c.takeTurn.Attentive := by
  cases hturns : c.turns with
  | nil => rwa [takeTurn_nil hturns]
  | cons act turns =>
    have hact : act.closes = false := h.stays act (by rw [hturns]; exact List.mem_cons_self ..)
    obtain ⟨hout, hrest⟩ := { c with turns := turns }.perform_of_stays hact
    have hturn : c.takeTurn = { c with turns := turns }.perform act := by
      rw [Channel.takeTurn, hturns]
    refine ⟨?_, fun other hother => ?_⟩
    · rw [hturn, hout]
      exact h.room
    · rw [hturn, hrest] at hother
      exact h.stays other (by rw [hturns]; exact List.mem_cons_of_mem act hother)

end Channel

namespace Context

variable {d : Dialect} {r : Request} {c : Context}

/-- A context that is connected to such a device. -/
structure Attended (d : Dialect) (c : Context) : Prop where
  dialect : c.dialect = some d
  channel : ∃ ch, c.socket.current = some ch ∧ ch.Attentive

/-- A request is sent unless it is refused before that, and the next one will be too. -/
theorem Attended.perform (h : c.Attended d) (r : Request) :
    ((perform r).on c).2.Attended d ∧
      ((perform r).on c).2.socket.sent = c.socket.sent ++ r.wire d c := by
  obtain ⟨ch, hc, hattentive⟩ := h.channel
  have hopen : c.socket.isOpen = true := by
    rw [Socket.isOpen, hc]
    rfl
  have hstanding : Standing c ((Context.perform r).on c).2 :=
    (upholds_perform h.dialect hopen r).after (.refl c)
  have hd := hstanding.dialect.trans h.dialect
  cases hbody : (Invocation.remote r).body? d c with
  | none =>
    obtain ⟨e, hlink⟩ := onLink_act_refused h.dialect hopen hbody
    have hsocket : ((Context.perform r).on c).2.socket = c.socket := congrArg (·.2.1) hlink
    refine ⟨⟨hd, ch, ?_, hattentive⟩, ?_⟩
    · rw [hsocket, hc]
    · rw [hsocket, Request.wire, hbody]
      exact (List.append_nil _).symm
  | some body =>
    have hroom := Sink.hasRoom_of_none hattentive.room (Frame.encode body).length
    obtain ⟨out, hout, -, hlink⟩ := onLink_act_sent h.dialect hc hbody hroom
    rw [hattentive.room, Option.map_none] at hout
    have hturn : { ch with outgoing := out }.takeTurn.Attentive :=
      Channel.Attentive.takeTurn ⟨hout, hattentive.stays⟩
    refine ⟨⟨hd, ?_⟩, ?_⟩
    · have hsocket : ((Context.perform r).on c).2.socket =
          (onLink (Invocation.remote r).act c).2.1 := rfl
      rw [hsocket, hlink]
      split
      · exact ⟨_, rfl, hturn.room, hturn.stays⟩
      · exact ⟨_, rfl, hturn.room, hturn.stays⟩
    · rw [Request.wire, hbody]
      exact sent_act h.dialect hc hbody hroom

theorem Attended.performed (h : c.Attended d) (requests : List Request) :
    (performed requests c).socket.sent = c.socket.sent ++ requests.flatMap (Request.wire d c) := by
  induction requests generalizing c with
  | nil => exact (List.append_nil _).symm
  | cons r requests ih =>
    obtain ⟨hnext, hsent⟩ := h.perform r
    have hrest : Request.wire d ((Context.perform r).on c).2 = Request.wire d c := rfl
    rw [performed_cons, ih hnext, hsent, hrest, List.append_assoc]
    rfl

/-! ## Handles -/

/-- The handles that a device gives in the answers to some requests, one after another. -/
def obtained : List Request → Context → List Handle
  | [], _ => []
  | r :: requests, c =>
    (match ((perform r).on c).1 with
      | .ok a => r.given a
      | .error _ => []) ++ obtained requests ((perform r).on c).2

theorem obtained_cons_ok {a : r.Answer} (h : ((perform r).on c).1 = .ok a)
    (requests : List Request) :
    obtained (r :: requests) c = r.given a ++ obtained requests ((perform r).on c).2 := by
  rw [obtained, h]

theorem obtained_cons_error {e : Error} (h : ((perform r).on c).1 = .error e)
    (requests : List Request) :
    obtained (r :: requests) c = obtained requests ((perform r).on c).2 := by
  rw [obtained, h]
  rfl

theorem obtained_append (first last : List Request) (c : Context) :
    obtained (first ++ last) c = obtained first c ++ obtained last (performed first c) := by
  induction first generalizing c with
  | nil => rfl
  | cons r first ih =>
    rw [List.cons_append, obtained, ih, obtained, List.append_assoc]
    rfl

theorem obtained_of_isUse {requests : List Request} (h : ∀ r ∈ requests, r.IsUse) (c : Context) :
    obtained requests c = [] := by
  induction requests generalizing c with
  | nil => rfl
  | cons r requests ih =>
    have hrest := ih fun other hother => h other (List.mem_cons_of_mem r hother)
    cases hanswer : ((perform r).on c).1 with
    | ok a => rw [obtained_cons_ok hanswer, hrest, (h r (List.mem_cons_self ..)).gives a]; rfl
    | error e => rw [obtained_cons_error hanswer, hrest]

end Context

namespace CommandLine

open Context Operation

seal Context.perform

/-! ## Steps that use handles -/

variable {α β : Type} {act : Step α}

/-- From one job to another, the context changes by uses only. -/
def Using (job job' : Job) : Prop :=
  ∃ used : List Request, (∀ r ∈ used, r.IsUse) ∧ job'.context = performed used job.context

theorem Using.trans {job job' job'' : Job} (h : Using job job') (h' : Using job' job'') :
    Using job job'' := by
  obtain ⟨first, hfirst, hcontext⟩ := h
  obtain ⟨last, hlast, hcontext'⟩ := h'
  refine ⟨first ++ last, List.forall_mem_append.mpr ⟨hfirst, hlast⟩, ?_⟩
  rw [performed_append, ← hcontext, hcontext']

/-- A step that changes the context by uses only. -/
def Uses (act : Step α) : Prop := ∀ job, Using job (act.on job).2

theorem uses_of_kept (h : ∀ job, (act.on job).2.context = job.context) : Uses act := by
  intro job
  refine ⟨[], fun r hr => ?_, h job⟩
  cases hr

theorem uses_pure (a : α) : Uses (pure a : Step α) := uses_of_kept fun _ => rfl

theorem uses_fail (cause : Cause) : Uses (Step.fail cause : Step α) := uses_of_kept fun _ => rfl

theorem uses_call {r : Request} (h : r.IsUse) : Uses (Step.call r) := by
  intro job
  refine ⟨[r], fun other hother => ?_, rfl⟩
  rw [List.mem_singleton.mp hother]
  exact h

theorem uses_onFiles (look : Files → Except IoError α) : Uses (Step.onFiles look) := by
  refine uses_of_kept fun job => ?_
  rw [Step.on_onFiles]

theorem Uses.doing (h : Uses act) (task : Task) : Uses (Step.doing task act) := by
  intro job
  rw [Step.on_doing]
  exact h job

theorem Uses.bind {next : α → Step β} (h : Uses act) (hn : ∀ a, Uses (next a)) :
    Uses (act >>= next) := by
  intro job
  have hfirst := h job
  rw [on_bind]
  match act.on job, hfirst with
  | (.error failure, job'), hfirst => exact hfirst
  | (.ok a, job'), hfirst => exact hfirst.trans (hn a job')

theorem uses_changeFiles (change : Files → Except IoError Files) :
    Uses (Step.changeFiles change) :=
  (uses_onFiles change).bind fun _ => uses_of_kept fun _ => rfl

theorem uses_loop {size : Job → α → Nat} {round : α → Step (α ⊕ β)}
    {smaller : ∀ {job job' a a'}, (round a).on job = (.ok (.inl a'), job') →
      size job' a' < size job a} (h : ∀ a, Uses (round a)) (a : α) :
    Uses (loop size round smaller a) := by
  intro job
  exact after_loop (R := Using) Using.trans h a job

theorem uses_download (handle : UInt32) (target : Path) : Uses (download handle target) := by
  refine ((uses_changeFiles _).doing _).bind fun _ => ?_
  rw [downloadFrom]
  refine uses_loop (fun written => ?_) []
  refine (uses_call ⟨rfl, fun _ => rfl⟩).bind fun chunk => ?_
  split
  · exact uses_pure _
  · exact (uses_changeFiles _).bind fun _ => uses_pure _

theorem uses_upload (handle : UInt32) (file : OpenFile) : Uses (upload handle file) := by
  rw [upload, uploadFrom]
  refine uses_loop (fun progress => ?_) (file, 0)
  refine (uses_of_kept fun job => ?_).bind fun read => ?_
  · rw [Step.on_ofAnswer]
  split
  split
  · exact uses_pure _
  refine (uses_call ⟨rfl, fun _ => rfl⟩).bind fun written => ?_
  split
  · exact (uses_fail _).bind fun _ => uses_pure _
  · exact uses_pure _

theorem uses_deleteAll (paths : List String) : Uses (deleteAll paths) := by
  induction paths with
  | nil => exact uses_pure _
  | cons path paths ih => exact ((uses_call ⟨rfl, fun _ => rfl⟩).doing _).bind fun _ => ih

theorem uses_status (format : Format) : Uses (status format) := by
  refine (uses_call ⟨rfl, fun _ => rfl⟩).bind fun version => ?_
  refine (uses_call ⟨rfl, fun _ => rfl⟩).bind fun store => ?_
  refine (uses_of_kept fun _ => rfl).bind fun job => ?_
  cases format with
  | table => exact uses_pure _
  | json => exact uses_pure _

theorem uses_silent {r : Request} (h : r.IsUse) : Uses (perform.silent r) :=
  (uses_call h).bind fun _ => uses_pure _

/-! ## Steps that give back what they got -/

theorem Step.after_thenAlways (act : Step α) (last : Step β) (job : Job) :
    ((Step.thenAlways act last).on job).2 = (last.on (act.on job).2).2 := by
  rw [Step.on_thenAlways]
  match last.on (act.on job).2 with
  | (.ok _, job') => rfl
  | (.error failure, job') => rfl

/-- A step that gives back exactly the handles that it got, after it used them. -/
def Settles (act : Step α) : Prop :=
  ∀ job, ∃ (used : List Request) (closed : List Handle), (∀ r ∈ used, r.closed? = none) ∧
    (act.on job).2.context = performed (used ++ closed.map Request.closing) job.context ∧
    closed.Perm (obtained used job.context)

theorem Uses.settles (h : Uses act) : Settles act := by
  intro job
  obtain ⟨used, hused, hcontext⟩ := h job
  refine ⟨used, [], fun r hr => (hused r hr).closes, ?_, ?_⟩
  · rw [List.map_nil, List.append_nil]
    exact hcontext
  · rw [obtained_of_isUse hused]

theorem Uses.settles_bind {next : α → Step β} (h : Uses act) (hn : ∀ a, Settles (next a)) :
    Settles (act >>= next) := by
  intro job
  obtain ⟨first, hfirst, hcontext⟩ := h job
  rw [on_bind]
  match hact : act.on job with
  | (.error failure, job') =>
    obtain hsettled := h.settles job
    rwa [hact] at hsettled
  | (.ok a, job') =>
    rw [hact] at hcontext
    obtain ⟨used, closed, hused, hcontext', hperm⟩ := hn a job'
    refine ⟨first ++ used, closed, fun r hr => ?_, ?_, ?_⟩
    · rcases List.mem_append.mp hr with hr | hr
      · exact (hfirst r hr).closes
      · exact hused r hr
    · rw [List.append_assoc, performed_append, ← hcontext]
      exact hcontext'
    · rw [obtained_append, obtained_of_isUse hfirst, ← hcontext]
      exact hperm

theorem Settles.map (h : Settles act) (f : α → β) : Settles (f <$> act) := by
  intro job
  rw [on_map]
  exact h job

/-- A handle that is got by a request, used, and always given back. -/
theorem settles_borrowing {opening : Request} (task : Task) {handle : opening.Answer → Handle}
    (hopening : opening.closed? = none) (hgiven : ∀ a, opening.given a = [handle a])
    {use : opening.Answer → Step α} (huse : ∀ a, Uses (use a)) {last : opening.Answer → Step Unit}
    (hlast : ∀ a job, ((last a).on job).2 = job.performing [Request.closing (handle a)]) :
    Settles (Step.doing task (Step.call opening) >>= fun a =>
      Step.thenAlways (use a) (last a)) := by
  intro job
  rw [on_bind, Step.on_doing, Step.on_call]
  cases hanswer : ((Context.perform opening).on job.context).1 with
  | error e =>
    refine ⟨[opening], [], fun r hr => ?_, rfl, ?_⟩
    · rw [List.mem_singleton.mp hr]
      exact hopening
    · rw [obtained_cons_error hanswer]
      exact .refl []
  | ok a =>
    obtain ⟨used, hused, hcontext⟩ := huse a (job.performing [opening])
    refine ⟨opening :: used, [handle a], fun r hr => ?_, ?_, ?_⟩
    · rcases List.mem_cons.mp hr with rfl | hr
      · exact hopening
      · exact (hused r hr).closes
    · have hlast' : ((Step.thenAlways (use a) (last a)).on (job.performing [opening])).2 = _ :=
        (Step.after_thenAlways ..).trans (hlast a _)
      refine (congrArg Job.context hlast').trans ?_
      rw [Job.performing, hcontext, ← performed_append]
      rfl
    · rw [obtained_cons_ok hanswer, obtained_of_isUse hused, List.append_nil, hgiven]

theorem settles_overHandle (task : Task) (path : String) (access disposition : UInt32)
    {move : UInt32 → Step Nat} (h : ∀ handle, Uses (move handle)) :
    Settles (overHandle task path access disposition move) := by
  have hgiven (handle : UInt32) :
      (accessing path access disposition).given handle = [.object handle] := rfl
  have hlast (handle : UInt32) (job : Job) : ((Step.call (.closeHandle handle)).on job).2 =
      job.performing [Request.closing (.object handle)] := rfl
  exact settles_borrowing task rfl hgiven h hlast

theorem settles_getFile (remote : String) (target : Option String) :
    Settles (getFile remote target) := by
  rw [getFile_eq]
  exact (settles_overHandle _ _ _ _ fun handle => uses_download handle _).map _

theorem settles_putFile (source : Path) (target : Option String) :
    Settles (putFile source target) := by
  have htarget : Uses (target.elim (defaultTarget source) pure) := by
    cases target with
    | some target => exact uses_pure _
    | none =>
      rw [Option.elim, defaultTarget]
      split
      · exact uses_pure _
      · exact uses_fail _
  rw [putFile_eq]
  refine htarget.settles_bind fun resolved => ?_
  refine ((uses_onFiles _).doing _).settles_bind fun _ => ?_
  exact (settles_overHandle _ _ _ _ fun handle => uses_upload handle _).map _

theorem settles_readValue (root : UInt32) (key : String) (name : Option String) :
    Settles (readValue root key name) := by
  have hread : readValue root key name =
      (fun value => valueText value ++ "\n") <$>
        (Step.doing (.openKey key) (Step.call (.regOpenKey root key)) >>= fun handle =>
          Step.thenAlways
            (Step.doing (.readValue name) (Step.call (.regQueryValue handle name maxValue)))
            (Step.call (.regCloseKey handle))) := by
    rw [readValue, map_bind]
    rfl
  have huse (handle : UInt32) : Uses (Step.doing (.readValue name)
      (Step.call (.regQueryValue handle name maxValue))) :=
    Uses.doing (uses_call ⟨rfl, fun _ => rfl⟩) (.readValue name)
  have hgiven (handle : UInt32) :
      (Request.regOpenKey root key).given handle = [.key handle] := rfl
  have hlast (handle : UInt32) (job : Job) : ((Step.call (.regCloseKey handle)).on job).2 =
      job.performing [Request.closing (.key handle)] := rfl
  rw [hread]
  exact (settles_borrowing (.openKey key) rfl hgiven huse hlast).map _

/-! ## Programs -/

/-- The request that starts a program. -/
@[reducible] def starting (program : String) (arguments : List String) : Request :=
  .createProcess program (if arguments.isEmpty then none else some (" ".intercalate arguments))

/-- A program is started, but the handle of its thread cannot be closed. -/
def Strands (i : Invocation) (c : Context) (process : ProcessInfo) : Prop :=
  ∃ program arguments, i.verb = .run ∧ i.words = program :: arguments ∧
    ((Context.perform (starting program arguments)).on c).1 = .ok process ∧
    ∃ e, ((Context.perform (.closeHandle process.thread)).on
      (performed [starting program arguments] c)).1 = .error e

section Starting

variable {program : String} {arguments : List String} {job : Job} {process : ProcessInfo}
  {e : Error}

theorem on_start_refused
    (h : ((Context.perform (starting program arguments)).on job.context).1 = .error e) :
    ((start program arguments).on job).2 = job.performing [starting program arguments] := by
  have hrefused : (Step.doing (.start program) (Step.call (starting program arguments))).on job =
      (.error { task := some (.start program), cause := .operation e },
        job.performing [starting program arguments]) := by
    rw [Step.on_doing, Step.on_call, h]
    rfl
  rw [start, on_bind_error hrefused]

/-- Behind the program that was started, the first request is to close the handle of its thread. -/
theorem on_start_started
    (h : ((Context.perform (starting program arguments)).on job.context).1 = .ok process) :
    (start program arguments).on job =
      ((do
        Step.call (.closeHandle process.thread)
        Step.call (.closeHandle process.process)
        return Nat.repr process.processId.toNat ++ "\n") : Step String).on
          (job.performing [starting program arguments]) := by
  have hstarted : (Step.doing (.start program) (Step.call (starting program arguments))).on job =
      (.ok process, job.performing [starting program arguments]) := by
    rw [Step.on_doing, Step.on_call, h]
    rfl
  rw [start, on_bind_ok hstarted]

theorem on_start_stranded
    (h : ((Context.perform (starting program arguments)).on job.context).1 = .ok process)
    (hthread : ((Context.perform (.closeHandle process.thread)).on
      (performed [starting program arguments] job.context)).1 = .error e) :
    ((start program arguments).on job).2 =
      job.performing [starting program arguments, .closeHandle process.thread] := by
  have hclose : (Step.call (.closeHandle process.thread)).on
      (job.performing [starting program arguments]) = (.error { cause := .operation e },
        job.performing [starting program arguments, .closeHandle process.thread]) :=
    Prod.ext (congrArg (Except.mapError _) hthread) rfl
  rw [on_start_started h, on_bind_error hclose]

theorem on_start_settled
    (h : ((Context.perform (starting program arguments)).on job.context).1 = .ok process)
    (hthread : ((Context.perform (.closeHandle process.thread)).on
      (performed [starting program arguments] job.context)).1 = .ok ()) :
    ((start program arguments).on job).2 = job.performing
      [starting program arguments, .closeHandle process.thread, .closeHandle process.process] := by
  have hclose : (Step.call (.closeHandle process.thread)).on
      (job.performing [starting program arguments]) = (.ok (),
        job.performing [starting program arguments, .closeHandle process.thread]) :=
    Prod.ext (congrArg (Except.mapError _) hthread) rfl
  rw [on_start_started h, on_bind_ok hclose, bind_pure_comp, on_map, Step.on_call]
  rfl

end Starting

/-! ## Commands -/

theorem settles_perform {i : Invocation} (h : i.verb ≠ .run) : Settles (perform i) := by
  unfold perform
  split
  · exact (uses_status _).settles
  · exact settles_getFile _ _
  · exact settles_putFile _ _
  · exact (uses_silent ⟨rfl, fun _ => rfl⟩).settles
  · exact (uses_silent ⟨rfl, fun _ => rfl⟩).settles
  · exact ((uses_deleteAll _).bind fun _ => uses_pure _).settles
  · exact (uses_silent ⟨rfl, fun _ => rfl⟩).settles
  · next hverb _ => exact absurd hverb h
  · exact settles_readValue _ _ _
  · exact (uses_pure _).settles

/-- The two ways in which a command can end: it gave back what it got, or it kept the handle of a
program whose thread could not be closed. -/
inductive Released (i : Invocation) (c : Context) (got : List Handle) : List Handle → Prop
  | settled {closed : List Handle} (perm : closed.Perm got) (h : ∀ process, ¬ Strands i c process) :
      Released i c got closed
  | stranded {process : ProcessInfo} (h : Strands i c process)
      (both : got = [.object process.process, .object process.thread]) :
      Released i c got [.object process.thread]

theorem released_start {i : Invocation} {program : String} {arguments : List String}
    (hverb : i.verb = .run) (hwords : i.words = program :: arguments) (job : Job) :
    ∃ (used : List Request) (closed : List Handle), (∀ r ∈ used, r.closed? = none) ∧
      ((start program arguments).on job).2.context =
        performed (used ++ closed.map Request.closing) job.context ∧
      Released i job.context (obtained used job.context) closed := by
  have hused : ∀ r ∈ [starting program arguments], r.closed? = none := by
    intro r hr
    rw [List.mem_singleton.mp hr]
    rfl
  refine ⟨[starting program arguments], ?_⟩
  cases hanswer : ((Context.perform (starting program arguments)).on job.context).1 with
  | error e =>
    refine ⟨[], hused, congrArg Job.context (on_start_refused hanswer), .settled ?_ ?_⟩
    · rw [obtained_cons_error hanswer]
      exact .refl []
    · rintro process ⟨_, _, -, hwords', hanswer', -⟩
      cases hwords.symm.trans hwords'
      cases hanswer.symm.trans hanswer'
  | ok process =>
    have hgot : obtained [starting program arguments] job.context =
        [.object process.process, .object process.thread] := obtained_cons_ok hanswer []
    cases hthread : ((Context.perform (.closeHandle process.thread)).on
        (performed [starting program arguments] job.context)).1 with
    | error e =>
      exact ⟨[.object process.thread], hused,
        congrArg Job.context (on_start_stranded hanswer hthread),
        .stranded ⟨program, arguments, hverb, hwords, hanswer, e, hthread⟩ hgot⟩
    | ok closed =>
      refine ⟨[.object process.thread, .object process.process], hused,
        congrArg Job.context (on_start_settled hanswer hthread), .settled ?_ ?_⟩
      · rw [hgot]
        exact .swap _ _ []
      · rintro process' ⟨_, _, -, hwords', hanswer', e, hthread'⟩
        cases hwords.symm.trans hwords'
        cases hanswer.symm.trans hanswer'
        cases hthread.symm.trans hthread'

theorem released_perform (i : Invocation) (job : Job) :
    ∃ (used : List Request) (closed : List Handle), (∀ r ∈ used, r.closed? = none) ∧
      ((perform i).on job).2.context =
        performed (used ++ closed.map Request.closing) job.context ∧
      Released i job.context (obtained used job.context) closed := by
  by_cases hverb : i.verb = .run
  · cases hwords : i.words with
    | nil =>
      have hnothing : perform i = pure "" := by
        unfold perform
        rw [hverb, hwords]
      refine ⟨[], [], fun r hr => ?_, ?_, .settled (.refl []) ?_⟩
      · cases hr
      · rw [hnothing]
        rfl
      · rintro process ⟨_, _, -, hwords', -⟩
        cases hwords.symm.trans hwords'
    | cons program arguments =>
      have hstart : perform i = start program arguments := by
        unfold perform
        rw [hverb, hwords]
      rw [hstart]
      exact released_start hverb hwords job
  · obtain ⟨used, closed, hused, hcontext, hperm⟩ := settles_perform hverb job
    refine ⟨used, closed, hused, hcontext, .settled hperm ?_⟩
    rintro process ⟨_, _, hrun, -⟩
    exact hverb hrun

theorem Strands.unique {i : Invocation} {c : Context} {process process' : ProcessInfo}
    (h : Strands i c process) (h' : Strands i c process') : process = process' := by
  obtain ⟨program, arguments, -, hwords, hanswer, -⟩ := h
  obtain ⟨program', arguments', -, hwords', hanswer', -⟩ := h'
  cases hwords.symm.trans hwords'
  exact Except.ok.inj (hanswer.symm.trans hanswer')

/-- What a command does on a device that is sent everything: first it makes requests that give no
handle back, and then it gives handles back, each of them by a request that is sent. It gives back
exactly those that it got unless it started a program whose thread could not be closed. In that case
it gives back the handle of the thread, and keeps that of the program. -/
theorem handles_given_back_iff {d : Dialect} (i : Invocation) {job : Job}
    (h : job.context.Attended d) :
    let c := job.context
    let after := ((perform i).on job).2.context
    ∃ (used : List Request) (closed : List Handle), (∀ r ∈ used, r.closed? = none) ∧
      after = performed (used ++ closed.map Request.closing) c ∧
      after.socket.sent = c.socket.sent ++ used.flatMap (Request.wire d c) ++
        closed.flatMap (fun handle => (Request.closing handle).frame d) ∧
      (closed.Perm (obtained used c) ↔ ∀ process, ¬ Strands i c process) ∧
      ∀ process, Strands i c process →
        obtained used c = [.object process.process, .object process.thread] ∧
          closed = [.object process.thread] := by
  intro c after
  obtain ⟨used, closed, hused, hcontext, hreleased⟩ := released_perform i job
  refine ⟨used, closed, hused, hcontext, ?_, ?_⟩
  · have hsent := h.performed (used ++ closed.map Request.closing)
    have hclosing : (closed.map Request.closing).flatMap (Request.wire d c) =
        closed.flatMap fun handle => (Request.closing handle).frame d := by
      rw [List.flatMap_map]
      exact congrArg (closed.flatMap ·) (funext fun handle => Request.wire_closing d c handle)
    rw [List.flatMap_append, hclosing, ← List.append_assoc, ← hcontext] at hsent
    exact hsent
  · cases hreleased with
    | settled hperm hnone =>
      exact ⟨iff_of_true hperm hnone, fun process hstrands => absurd hstrands (hnone process)⟩
    | stranded hstrands hboth =>
      refine ⟨iff_of_false (fun hperm => ?_) fun hnone => hnone _ hstrands,
        fun process' hstrands' => ?_⟩
      · have hlength := hperm.length_eq
        rw [hboth] at hlength
        cases hlength
      · cases hstrands.unique hstrands'
        exact ⟨hboth, rfl⟩

theorem attended_answeredBy (d : Dialect) (max : UInt32) (frames : List (List UInt8)) :
    (answeredBy d max frames).Attended d := by
  refine ⟨rfl, _, rfl, rfl, fun act hact => ?_⟩
  obtain ⟨f, -, rfl⟩ := List.mem_map.mp hact
  rfl

/-- A registry key whose value cannot be read, and which cannot be closed either. -/
theorem handles_given_back_reg :
    let c := answeredBy .v2 64 [Encoding.word 0 ++ (Encoding.word 0 ++ Encoding.word 5),
      Encoding.word 0 ++ Encoding.word 2, Encoding.word 0 ++ Encoding.word 6]
    let i : Invocation :=
      { verb := .reg, words := ["hklm", "k"], device := none, config := none, format := .table }
    let after := ((perform i).on { context := c, files := {} }).2.context
    c.Attended .v2 ∧
      after.socket.sent = [Request.regOpenKey RootKey.localMachine "k",
        .regQueryValue 5 none maxValue, .regCloseKey 5].flatMap (Request.frame .v2) ∧
      ∃ (used : List Request) (closed : List Handle),
        after = performed (used ++ closed.map Request.closing) c ∧
        closed.Perm (obtained used c) := by
  intro c i after
  have h : c.Attended .v2 := attended_answeredBy .v2 64 _
  obtain ⟨used, closed, -, hafter, -, hperm, -⟩ :=
    @handles_given_back_iff .v2 i { context := c, files := {} } h
  have hnone : ∀ process, ¬ Strands i c process := by
    rintro process ⟨program, arguments, hrun, -⟩
    cases hrun
  exact ⟨h, by decide +kernel, used, closed, hafter, hperm.mpr hnone⟩

/-- It is not so that each handle of a program that was started is given back: if the device refuses
to close the thread, no request to close the program is sent. -/
theorem not_handles_given_back :
    ¬ ∀ (d : Dialect) (i : Invocation) (job : Job) (program : String) (arguments : List String)
        (process : ProcessInfo),
      job.context.Attended d → i.verb = .run → i.words = program :: arguments →
      ((Context.perform (starting program arguments)).on job.context).1 = .ok process →
      ∀ handle ∈ [process.process, process.thread],
        (Request.closeHandle handle).frame d <:+: ((perform i).on job).2.context.socket.sent := by
  intro claim
  let c := answeredBy .v2 64 [Encoding.word 0 ++ (Encoding.word 1 ++ (Encoding.word 7 ++
      (Encoding.word 8 ++ (Encoding.word 9 ++ Encoding.word 10)))),
    Encoding.word 6 ++ Encoding.word 0]
  let i : Invocation :=
    { verb := .run, words := ["\\a"], device := none, config := none, format := .table }
  have hstarted : ((Context.perform (starting "\\a" [])).on c).1 = .ok ⟨7, 8, 9, 10⟩ := by
    decide +kernel
  have hclosed := claim .v2 i { context := c, files := {} } "\\a" [] _
    (attended_answeredBy .v2 64 _) rfl rfl hstarted 7 (List.mem_cons_self ..)
  revert hclosed
  decide +kernel

end CommandLine

end PocketLink
