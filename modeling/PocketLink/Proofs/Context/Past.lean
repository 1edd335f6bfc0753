import PocketLink.Proofs.Context.Dialects
import PocketLink.Proofs.Context.Connection

/-!
# What earlier connections leave

The connections that a socket held before are kept, but nothing that is done with a context looks at
what became of them. Two contexts that are the same in everything else stay the same in everything
else, step by step, and whatever is done with one of them comes out as it does with the other. Only
their number counts, because handles are numbered by it.
-/

namespace PocketLink

open Operation

/-! ## Sockets -/

namespace Socket

/-- Two sockets that hold the same channel after as many others. -/
structure SamePresent (s s' : Socket) : Prop where
  current : s'.current = s.current
  count : s'.retired.length = s.retired.length

variable {s s' : Socket}

theorem SamePresent.closed (h : s.SamePresent s') : s.closed.SamePresent s'.closed := by
  unfold Socket.closed
  rw [h.current]
  cases s.current with
  | none => exact h
  | some channel => exact ⟨rfl, congrArg (· + 1) h.count⟩

theorem SamePresent.holding (h : s.SamePresent s') (channel : Channel) :
    (s.holding channel).SamePresent (s'.holding channel) := ⟨rfl, h.count⟩

theorem SamePresent.isOpen (h : s.SamePresent s') : s'.isOpen = s.isOpen :=
  congrArg Option.isSome h.current

theorem SamePresent.interrupted (h : s.SamePresent s') (handle : InterruptHandle) :
    (s.interrupted handle).SamePresent (s'.interrupted handle) := by
  unfold Socket.interrupted
  rw [h.current, h.count]
  cases s.current with
  | none => exact h
  | some channel =>
    dsimp only
    split
    · exact h.holding channel.shut
    · exact h

theorem agree_onChannel {ε α : Type} (failure : ε → Error) (act : Operation Channel ε α) :
    Agree SamePresent (onChannel failure act) (onChannel failure act) := by
  refine agree_get_bind fun s s' hs => ?_
  rw [hs.current]
  cases s.current with
  | none => exact agree_throw _
  | some channel =>
    refine (agree_self act).within failure (fun _ _ _ => rfl) ?_
    rintro t t' c _ ht rfl
    exact ht.holding c

theorem agree_replace (answer : Except Error Channel) :
    Agree SamePresent (replace answer) (replace answer) := by
  refine (agree_modify fun _ _ hs => hs.closed).bind fun _ => ?_
  cases answer with
  | ok channel => exact agree_modify fun _ _ hs => hs.holding channel
  | error e => exact agree_throw e

/-- Two sockets with the same present, and the same buffer beside each. -/
def SameBeside (p p' : Socket × Buffer) : Prop := p.1.SamePresent p'.1 ∧ p'.2 = p.2

theorem agree_recv (max : UInt32) : Agree SameBeside (recv max) (recv max) := by
  refine agree_get_bind fun p p' hp => ?_
  rw [hp.1.current]
  cases p.1.current with
  | none => exact agree_throw _
  | some channel =>
    refine (agree_self (Channel.recv max)).within Error.ofWire ?_ ?_
    · intro t t' ht
      exact congrArg (channel, ·) ht.2.symm
    · rintro t t' c _ ht rfl
      exact ⟨ht.1.holding c.1, rfl⟩

theorem agree_handle : Agree SamePresent handle handle := by
  refine agree_get_bind fun s s' hs => ?_
  rw [hs.isOpen, hs.count]
  split
  · exact agree_pure _
  · exact agree_throw _

end Socket

namespace Context

/-! ## Connections -/

section Establish

theorem agree_challenge (password : String) (key : UInt8) :
    Agree Socket.SamePresent (challenge password key) (challenge password key) := by
  unfold challenge
  split
  · exact agree_throw _
  · next bytes _ =>
    have hverdict := (Socket.agree_onChannel Error.transport (Channel.writeAll bytes)).bind fun _ =>
      Socket.agree_onChannel Error.transport (Channel.readExact 1)
    refine (hverdict.tryCatch fun _ => agree_throw _).bind fun reply => ?_
    split
    · split
      · exact agree_pure _
      · exact agree_throw _
    · exact agree_throw _

theorem agree_liftExcept {α : Type} (answer : Except Error α) :
    Agree Socket.SamePresent (establish.liftExcept answer) (establish.liftExcept answer) := by
  cases answer with
  | ok a => exact agree_pure a
  | error e => exact agree_throw e

theorem agree_establish (world : Outside) (broker : Broker) (settings : Settings)
    (info : DeviceInfo) :
    Agree Socket.SamePresent (establish world broker settings info)
      (establish world broker settings info) := by
  have htimeout : Agree Socket.SamePresent (Socket.setTimeout settings.ioTimeout)
      (Socket.setTimeout settings.ioTimeout) := Socket.agree_onChannel _ _
  unfold establish
  split
  · refine (agree_liftExcept _).bind fun address => (Socket.agree_replace _).bind fun _ => ?_
    refine htimeout.bind fun _ => ?_
    split
    · split
      · exact (agree_challenge _ _).bind fun _ => agree_pure _
      · exact agree_pure _
    · exact agree_pure _
  · refine (agree_liftExcept _).bind fun descriptor => (Socket.agree_replace _).bind fun _ => ?_
    exact htimeout.bind fun _ => agree_pure _
  · refine (agree_liftExcept _).bind fun address => (Socket.agree_replace _).bind fun _ => ?_
    exact htimeout.bind fun _ => agree_pure _

end Establish

/-! ## Contexts -/

/-- Two contexts that are the same but for what their earlier connections carried. -/
inductive SamePresent (c : Context) : Context → Prop
  | intro {s : Socket} (h : c.socket.SamePresent s) : SamePresent c { c with socket := s }

namespace SamePresent

variable {α : Type}

theorem recorded (e : Error) (c c' : Context) (h : SamePresent c c') :
    SamePresent (c.recorded e) (c'.recorded e) := by
  cases h with
  | intro h => cases e <;> exact .intro h

theorem agree_onSocket {act : Operation Socket Error α}
    (h : Agree Socket.SamePresent act act) : Agree SamePresent (onSocket act) (onSocket act) := by
  refine h.within id ?_ ?_
  · rintro c _ ⟨hc⟩
    exact hc
  · rintro c _ s s' ⟨-⟩ hs
    exact .intro hs

theorem agree_onSocketAndReply {act : Operation (Socket × Buffer) Error α}
    (h : Agree Socket.SameBeside act act) :
    Agree SamePresent (onSocketAndReply act) (onSocketAndReply act) := by
  refine h.within id ?_ ?_
  · rintro c _ ⟨hc⟩
    exact ⟨hc, rfl⟩
  · rintro c _ ⟨s, b⟩ ⟨s', b'⟩ ⟨-⟩ ⟨hs, hb⟩
    cases hb
    exact .intro hs

theorem agree_onRequest (act : BufferM α) :
    Agree SamePresent (onRequest act) (onRequest act) := by
  refine (agree_self act).within Error.ofWire ?_ ?_
  · rintro c _ ⟨-⟩
    rfl
  · rintro c _ b _ ⟨hc⟩ rfl
    exact .intro hc

theorem agree_onReply (act : Operation Buffer Error α) :
    Agree SamePresent (onReply act) (onReply act) := by
  refine (agree_self act).within id ?_ ?_
  · rintro c _ ⟨-⟩
    rfl
  · rintro c _ b _ ⟨hc⟩ rfl
    exact .intro hc

/-! ## Calls -/

theorem agree_ensureConnected : Agree SamePresent ensureConnected ensureConnected := by
  refine agree_get_bind ?_
  rintro c _ ⟨hc⟩
  dsimp only
  cases c.dialect with
  | some d => exact agree_pure d
  | none =>
    refine (agree_modify ?_).bind fun _ => agree_throw _
    rintro c _ ⟨hc⟩
    exact .intro hc

theorem agree_fail (e : Error) : Agree SamePresent (fail e : Call α) (fail e) :=
  (agree_modify (recorded e)).bind fun _ => agree_throw e

theorem agree_beginCommand (opcode : UInt32) :
    Agree SamePresent (beginCommand opcode) (beginCommand opcode) :=
  agree_ensureConnected.bind fun _ => agree_recording recorded (agree_onRequest _)

theorem agree_exchange (d : Dialect) : Agree SamePresent (exchange d) (exchange d) := by
  refine agree_get_bind ?_
  rintro c _ ⟨hc⟩
  refine (agree_onSocket (Socket.agree_onChannel _ _)).bind fun _ => agree_get_bind ?_
  rintro c' _ ⟨hc'⟩
  exact (agree_onSocketAndReply (Socket.agree_recv _)).bind fun _ => agree_onReply _

theorem agree_call : Agree SamePresent call call := by
  refine agree_ensureConnected.bind fun d => (agree_modify ?_).bind fun _ =>
    (agree_exchange d).attempt.bind fun answer => ?_
  · rintro c _ ⟨hc⟩
    exact .intro hc
  · cases answer with
    | ok a =>
      refine agree_modify ?_
      rintro c _ ⟨hc⟩
      exact .intro hc
    | error e =>
      refine (agree_modify ?_).bind fun _ => agree_throw e
      rintro c _ ⟨hc⟩
      exact .intro hc

theorem agree_perform (r : Request) : Agree SamePresent (perform r) (perform r) := by
  refine agree_ensureConnected.bind fun d => ?_
  split
  · exact agree_fail _
  · refine (agree_beginCommand _).bind fun _ => ?_
    refine (agree_recording recorded (agree_onRequest _)).bind fun _ => agree_call.bind fun _ => ?_
    refine (agree_recording recorded (agree_onReply _)).bind fun lastError => ?_
    refine (agree_modify ?_).bind fun _ => agree_recording recorded (agree_onReply _)
    rintro c _ ⟨hc⟩
    exact .intro hc

theorem agree_act (i : Invocation) : Agree SamePresent i.act i.act := by
  cases i with
  | raw => exact agree_call
  | remote r => exact agree_perform r

/-! ## Connecting and disconnecting -/

theorem isConnected {c c' : Context} (h : SamePresent c c') : c'.isConnected = c.isConnected := by
  cases h
  rfl

theorem connected {s s' : Socket} (hs : s.SamePresent s') (c : Context) (info : DeviceInfo)
    (d : Dialect) : SamePresent (Context.connected { c with socket := s } info d)
      (Context.connected { c with socket := s' } info d) := by
  unfold Context.connected
  cases c.info with
  | some _ => exact .intro hs
  | none => exact .intro hs

theorem disconnected {c c' : Context} (h : SamePresent c c') :
    SamePresent c.disconnected c'.disconnected := by
  cases h with
  | intro hs => exact .intro hs.closed

theorem agree_connect (world : Outside) : Agree SamePresent (connect world) (connect world) := by
  rintro c c' h
  rw [on_connect, on_connect, h.isConnected]
  by_cases hconnected : c.isConnected = true
  · rw [if_pos hconnected, if_pos hconnected]
    exact ⟨rfl, h⟩
  rw [if_neg hconnected, if_neg hconnected]
  obtain @⟨s, hs⟩ := h
  have hinfo : ({ c with socket := s } : Context).infoToUse = c.infoToUse := rfl
  rw [hinfo]
  cases c.infoToUse with
  | error e => exact ⟨rfl, .intro hs⟩
  | ok info =>
    obtain ⟨hanswer, hafter⟩ := agree_establish world c.broker c.settings info c.socket s hs
    dsimp only
    match hon : (establish world c.broker c.settings info).on c.socket,
      hon' : (establish world c.broker c.settings info).on s with
    | (.ok d, t), (.ok d', t') =>
      rw [hon, hon'] at hanswer hafter
      cases hanswer
      exact ⟨rfl, connected hafter c info d⟩
    | (.error e, t), (.error e', t') =>
      rw [hon, hon'] at hanswer hafter
      cases hanswer
      exact ⟨rfl, .intro hafter.closed⟩
    | (.ok d, t), (.error e, t') | (.error e, t), (.ok d, t') =>
      rw [hon, hon'] at hanswer
      cases hanswer

theorem agree_disconnect : Agree SamePresent disconnect disconnect := by
  refine agree_get_bind fun c c' h => ?_
  rw [h.isConnected]
  split
  · exact agree_modify fun _ _ => disconnected
  · exact agree_throw _

theorem agree_interruptHandle : Agree SamePresent interruptHandle interruptHandle := by
  refine agree_get_bind fun c c' h => ?_
  rw [h.isConnected]
  split
  · exact agree_onSocket Socket.agree_handle
  · exact agree_throw _

/-! ## Whole runs -/

variable {c c' : Context}

theorem after (h : SamePresent c c') (step : Step) :
    SamePresent (step.after c) (step.after c') := by
  cases step with
  | act a =>
    cases a with
    | invoke i => exact (agree_act i c c' h).2
    | beginCommand opcode => exact (agree_beginCommand opcode c c' h).2
    | write act => exact (agree_onRequest act c c' h).2
    | read act => exact (agree_onReply _ c c' h).2
  | connect world => exact (agree_connect world c c' h).2
  | disconnect => exact (agree_disconnect c c' h).2
  | takeHandle => exact (agree_interruptHandle c c' h).2
  | interrupt handle =>
    cases h with
    | intro hs => exact .intro (hs.interrupted handle)
  | sourcesChange resolver broker =>
    cases h with
    | intro hs => exact .intro hs
  | channelChanges change =>
    cases h with
    | intro hs => exact .intro ⟨congrArg (Option.map change) hs.current, hs.count⟩

theorem run (h : SamePresent c c') (steps : List Step) :
    SamePresent (Step.run steps c) (Step.run steps c') := by
  induction steps generalizing c c' with
  | nil => exact h
  | cons step steps ih => exact ih (h.after step)

end SamePresent

end Context

end PocketLink
