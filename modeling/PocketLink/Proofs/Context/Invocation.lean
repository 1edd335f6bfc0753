import PocketLink.Context.Exchange
import PocketLink.Proofs.Link.Socket
import PocketLink.Proofs.Remote.Reading

/-!
# Invocations

What a caller does with a connected context: raw calls and remote operations, requests that are
begun and written, replies that are read. None of it opens or closes a connection. The device
information, the dialect and the sources of both stand, and what fails does so for reasons of the
call.
-/

namespace PocketLink

/-! ## Invocations and actions -/

/-- A call of either kind. -/
inductive Invocation where
  /-- Sends the request as it was written. -/
  | raw
  /-- Performs a remote operation. -/
  | remote (r : Request)

namespace Invocation

/-- What an invocation answers. -/
@[reducible] def Result : Invocation → Type
  | raw => Unit
  | remote r => r.Answer

/-- Runs an invocation. -/
def act : (i : Invocation) → Call i.Result
  | raw => Context.call
  | remote r => Context.perform r

end Invocation

/-- What a caller does with a context between connecting and disconnecting. -/
inductive Action where
  /-- Makes a call. -/
  | invoke (i : Invocation)
  /-- Starts a request. -/
  | beginCommand (opcode : UInt32)
  /-- Does anything to the request. -/
  | write (act : BufferM Unit)
  /-- Does anything to the reply. -/
  | read (act : BufferM Unit)

namespace Action

/-- The context after an action, whether it succeeded or failed. -/
def after (c : Context) : Action → Context
  | invoke i => (i.act.on c).2
  | beginCommand opcode => ((Context.beginCommand opcode).on c).2
  | write act => ((Context.onRequest act).on c).2
  | read act => ((Context.onReply (Operation.within id (fun b _ => b) Error.ofWire act)).on c).2

/-- The context after some actions, one after another. -/
def run (actions : List Action) (c : Context) : Context := actions.foldl after c

end Action

theorem Error.isOfCall_of_isOfReply {e : Error} (h : e.isOfReply = true) : e.isOfCall = true := by
  cases e <;> first | rfl | cases h

namespace Context

/-! ## What stands -/

/-- A context in which everything is as it was in `s`, but for the buffers, the channels and what
the connection has carried. -/
structure Standing (s c : Context) : Prop where
  settings : c.settings = s.settings
  resolver : c.resolver = s.resolver
  broker : c.broker = s.broker
  selector : c.selector = s.selector
  info : c.info = s.info
  ownsInfo : c.ownsInfo = s.ownsInfo
  dialect : c.dialect = s.dialect
  isOpen : c.socket.isOpen = s.socket.isOpen
  retired : c.socket.retired = s.socket.retired

theorem Standing.refl (c : Context) : Standing c c := ⟨rfl, rfl, rfl, rfl, rfl, rfl, rfl, rfl, rfl⟩

theorem Standing.isConnected {s c : Context} (h : Standing s c) :
    c.isConnected = s.isConnected := by
  rw [Context.isConnected, Context.isConnected, h.dialect]

theorem Standing.recorded {s c : Context} (h : Standing s c) (e : Error) :
    Standing s (c.recorded e) := by
  cases e <;> exact { h with }

theorem Standing.holds {s c : Context} (h : Standing s c) (hopen : s.socket.isOpen = true) :
    c.socket.Holds s.socket.retired := ⟨h.isOpen.trans hopen, h.retired⟩

section Upholds

open Operation

variable {α : Type} {s : Context} {allowed : Error → Prop}

theorem upholds_onRequest (act : BufferM α) :
    Upholds (Standing s) (·.isOfCall = true) (onRequest act) :=
  upholds_within act (fun _ _ h => { h with }) Error.isOfCall_ofWire

theorem upholds_onReply {act : Reply.Reader α} (h : Reply.OnlyReads act) :
    Upholds (Standing s) (·.isOfCall = true) (onReply act) := by
  rintro c hc
  refine ⟨{ hc with }, fun e he => ?_⟩
  rw [onReply, on_within, mapError_id] at he
  exact Error.isOfCall_of_isOfReply ((h c.reply.bytes).failure rfl he)

theorem upholds_fail {e : Error} (h : allowed e) : Upholds (Standing s) allowed (fail e : Call α) :=
  (upholds_modify fun _ hc => hc.recorded e).bind fun _ => upholds_throw h

theorem upholds_recording {act : Call α} (h : Upholds (Standing s) allowed act) :
    Upholds (Standing s) allowed (recording act) :=
  h.attempt_bind upholds_pure fun _ he => upholds_fail he

theorem upholds_onSocket {act : Operation Socket Error α} (hopen : s.socket.isOpen = true)
    (h : Upholds (Socket.Holds s.socket.retired) allowed act) :
    Upholds (Standing s) allowed (onSocket act) :=
  h.within (fun _ hc => hc.holds hopen)
    (fun _ _ hc hs => { hc with isOpen := hs.1.trans hopen.symm, retired := hs.2 }) fun _ he => he

theorem upholds_onSocketAndReply {act : Operation (Socket × Buffer) Error α}
    (hopen : s.socket.isOpen = true)
    (h : Upholds (fun p : Socket × Buffer => p.1.Holds s.socket.retired) allowed act) :
    Upholds (Standing s) allowed (onSocketAndReply act) :=
  h.within (fun _ hc => hc.holds hopen)
    (fun _ _ hc hs => { hc with isOpen := hs.1.trans hopen.symm, retired := hs.2 }) fun _ he => he

/-! ## Calls on a connected context -/

theorem on_ensureConnected {c : Context} {d : Dialect} (h : c.dialect = some d) :
    ensureConnected.on c = (.ok d, c) := by
  simp only [ensureConnected, on_bind, on_get, h]
  rfl

/-- Every call asks for the dialect first and goes on with that of the connection. -/
theorem upholds_ensureConnected {d : Dialect} (hd : s.dialect = some d) {next : Dialect → Call α}
    (h : Upholds (Standing s) allowed (next d)) :
    Upholds (Standing s) allowed (ensureConnected >>= next) := by
  intro c hc
  rw [on_bind_ok (on_ensureConnected (hc.dialect.trans hd))]
  exact h c hc

theorem upholds_beginCommand {d : Dialect} (hd : s.dialect = some d) (opcode : UInt32) :
    Upholds (Standing s) (·.isOfCall = true) (beginCommand opcode) :=
  upholds_ensureConnected hd (upholds_recording (upholds_onRequest _))

theorem upholds_exchange (hopen : s.socket.isOpen = true) (d : Dialect) :
    Upholds (Standing s) (·.isOfCall = true) (exchange d) := by
  refine upholds_get.bind fun c => ?_
  refine (upholds_onSocket hopen (Socket.upholds_send _ _)).bind fun _ => ?_
  refine upholds_get.bind fun c' => ?_
  refine (upholds_onSocketAndReply hopen (Socket.upholds_recv _ _)).bind fun _ => ?_
  exact upholds_onReply d.composed_openEnvelope.onlyReads

theorem upholds_call {d : Dialect} (hd : s.dialect = some d) (hopen : s.socket.isOpen = true) :
    Upholds (Standing s) (·.isOfCall = true) call := by
  refine upholds_ensureConnected hd ?_
  refine (upholds_modify fun c hc => { hc with }).bind fun _ => ?_
  refine (upholds_exchange hopen d).attempt_bind (fun _ => ?_) fun e he => ?_
  · exact upholds_modify fun c hc => { hc with }
  · exact (upholds_modify fun c hc => { hc with }).bind fun _ => upholds_throw he

theorem upholds_perform {d : Dialect} (hd : s.dialect = some d) (hopen : s.socket.isOpen = true)
    (r : Request) : Upholds (Standing s) (·.isOfCall = true) (perform r) := by
  refine upholds_ensureConnected hd ?_
  split
  · exact upholds_fail rfl
  · refine (upholds_beginCommand hd _).bind fun _ => ?_
    refine (upholds_recording (upholds_onRequest _)).bind fun _ => ?_
    refine (upholds_call hd hopen).bind fun _ => ?_
    refine (upholds_recording (upholds_onReply Reply.composed_word.onlyReads)).bind
      fun lastError => ?_
    refine (upholds_modify fun c hc => { hc with }).bind fun _ => ?_
    exact upholds_recording (upholds_onReply (r.composed_unmarshal d lastError).onlyReads)

/-- An invocation on an open connection leaves it open and fails for reasons of the call only. -/
theorem upholds_act {d : Dialect} (hd : s.dialect = some d) (hopen : s.socket.isOpen = true)
    (i : Invocation) : Upholds (Standing s) (·.isOfCall = true) i.act := by
  cases i with
  | raw => exact upholds_call hd hopen
  | remote r => exact upholds_perform hd hopen r

/-! ## Calls on any context -/

/-- Without a connection nothing is called: the channels say so, and that is all. -/
theorem on_ensureConnected_none {c : Context} (h : c.dialect = none) (next : Dialect → Call α) :
    (ensureConnected >>= next).on c =
      (.error .notConnected,
        { c with protocolStatus := Status.ok, systemError := Status.notConnected }) := by
  simp only [ensureConnected, on_bind, on_get, h, on_modify, on_throw]

theorem on_act_none {c : Context} (h : c.dialect = none) (i : Invocation) :
    i.act.on c =
      (.error .notConnected,
        { c with protocolStatus := Status.ok, systemError := Status.notConnected }) := by
  cases i with
  | raw => exact on_ensureConnected_none h _
  | remote r => exact on_ensureConnected_none h _

/-- An action opens and closes nothing, whether the context is connected or not. -/
theorem standing_after {c : Context} (hopen : c.isConnected = true → c.socket.isOpen = true)
    (a : Action) : Standing c (a.after c) := by
  cases hd : c.dialect with
  | some d =>
    have hsocket : c.socket.isOpen = true := hopen (by rw [isConnected, hd]; rfl)
    cases a with
    | invoke i => exact (upholds_act hd hsocket i).after (.refl c)
    | beginCommand opcode => exact (upholds_beginCommand hd opcode).after (.refl c)
    | write act => exact (upholds_onRequest act).after (.refl c)
    | read act => exact { Standing.refl c with }
  | none =>
    cases a with
    | invoke i =>
      rw [Action.after, on_act_none hd i]
      exact { Standing.refl c with }
    | beginCommand opcode =>
      rw [Action.after, beginCommand, on_ensureConnected_none hd]
      exact { Standing.refl c with }
    | write act => exact (upholds_onRequest act).after (.refl c)
    | read act => exact { Standing.refl c with }

end Upholds

end Context

end PocketLink
