import PocketLink.Proofs.Context.Codes
import PocketLink.Proofs.Context.Past
import PocketLink.Proofs.Context.Traffic

/-!
# Interrupted connections

A handle means the connection that it was taken on. While that connection is there, using the handle
shuts it down: nothing more is sent over it, and every call that has a request to send fails. The
context stays connected until it is disconnected, and then nothing is left of the interruption. Once
the connection is gone, using the handle does nothing.

Connections are told apart by how many came before. That number stands as long as the context is not
disconnected, grows when it is, and never falls.
-/

namespace PocketLink

/-! ## Channels that take nothing -/

namespace Sink

theorem upholds_writeAll_full (bytes : List UInt8) :
    Operation.Upholds (fun s => s.room = some 0) (fun _ => True) (writeAll bytes) := by
  intro s hs
  refine ⟨?_, fun _ _ => trivial⟩
  have hroom : (pour s.room s.offers bytes).room = some 0 := by
    rw [room_pour, hs, Option.map_some, Nat.zero_sub]
  simp only [writeAll, Operation.on_bind, Operation.on_get, Operation.on_set]
  split
  · exact hroom
  · exact hroom

end Sink

theorem Frame.upholds_send_full (body : List UInt8) :
    Operation.Upholds (fun s => s.room = some 0) (fun _ => True) (send body) := by
  have hflush : Operation.Upholds (fun s : Sink => s.room = some 0) (fun _ => True) Sink.flush :=
    Operation.upholds_modify fun _ hs => hs
  have hparts := (Sink.upholds_writeAll_full (Encoding.word (UInt32.ofNat body.length))).bind
    fun _ => (Sink.upholds_writeAll_full body).bind fun _ => hflush
  have hwrite : Operation.Upholds (fun s : Sink => s.room = some 0) (fun _ => True)
      (Operation.within id (fun s _ => s) WireError.io do
        Sink.writeAll (Encoding.word (UInt32.ofNat body.length))
        Sink.writeAll body
        Sink.flush) :=
    hparts.within (fun _ hs => hs) (fun _ _ _ hs => hs) fun _ _ => trivial
  unfold send
  by_cases hsize : UInt32.size ≤ body.length
  · rw [if_pos hsize]
    exact (Operation.upholds_throw trivial).bind fun _ => hwrite
  · rw [if_neg hsize]
    exact hwrite

theorem Socket.length_le_closed (s : Socket) : s.retired.length ≤ s.closed.retired.length := by
  unfold closed
  split
  · exact Nat.le_refl _
  · exact Nat.le_succ _

namespace Channel

/-- The channel takes no byte any more. -/
def TakesNothing (ch : Channel) : Prop := ch.outgoing.room = some 0

variable {ch : Channel}

theorem takesNothing_shut (ch : Channel) : ch.shut.TakesNothing := rfl

/-- Whatever a device does, a channel that takes nothing stays one. -/
theorem TakesNothing.perform (h : ch.TakesNothing) (act : Act) :
    (ch.perform act).TakesNothing ∧ (ch.perform act).sent = ch.sent := by
  refine ⟨?_, (perform_outgoing ch ch.outgoing act).1⟩
  have hdeliver : (ch.deliver act.bytes).outgoing = ch.outgoing := by
    unfold deliver
    split <;> rfl
  unfold Channel.perform TakesNothing
  split
  · rfl
  · split
    · exact (congrArg Sink.room hdeliver).trans h
    · exact (congrArg Sink.room hdeliver).trans h

end Channel

/-- A step in the course of a connection, after which a channel that took nothing still does. The
context is not disconnected, and nobody opens the channel again or sends anything over it. -/
def Step.Stays : Step → Prop
  | disconnect => False
  | channelChanges change =>
    ∀ ch : Channel, ch.TakesNothing → (change ch).TakesNothing ∧ (change ch).sent = ch.sent
  | _ => True

/-- The acts of a device are such steps. -/
theorem Step.stays_perform (act : Act) : (Step.channelChanges (·.perform act)).Stays :=
  fun _ h => h.perform act

/-- Whether a step uses a handle. -/
def Step.uses (h : InterruptHandle) : Step → Bool
  | interrupt h' => h' = h
  | _ => false

namespace Context

variable {c : Context} {d : Dialect} {sent : List UInt8} {h : InterruptHandle} {n : Nat}

/-! ## Cut off -/

/-- A connected context over whose channel no byte can be sent beyond those that were. -/
structure CutOff (d : Dialect) (sent : List UInt8) (c : Context) : Prop where
  dialect : c.dialect = some d
  sent : c.socket.sent = sent
  channel : ∃ ch, c.socket.current = some ch ∧ ch.TakesNothing

theorem CutOff.isOpen (hc : CutOff d sent c) : c.socket.isOpen = true := by
  obtain ⟨ch, hch, -⟩ := hc.channel
  rw [Socket.isOpen, hch]
  rfl

theorem CutOff.isConnected (hc : CutOff d sent c) : c.isConnected = true := by
  rw [Context.isConnected, hc.dialect]
  rfl

/-- A channel in place of the present one that has sent as much and takes nothing. -/
theorem CutOff.holding (hc : CutOff d sent c) {c' : Context} (hd : c'.dialect = some d)
    {ch ch' : Channel} (hch : c.socket.current = some ch) (hsent : ch'.sent = ch.sent)
    (hfull : ch'.TakesNothing) (hsocket : c'.socket = c.socket.holding ch') : CutOff d sent c' := by
  rw [← List.append_nil ch.sent] at hsent
  refine ⟨hd, ?_, ch', ?_, hfull⟩
  · rw [hsocket, Socket.sent_holding hch hsent, List.append_nil, hc.sent]
  · rw [hsocket]
    rfl

theorem status_call (hd : c.dialect = some d) {e : Error} (he : (call.on c).1 = .error e) :
    (call.on c).2.protocolStatus = statusOf e := by
  rw [on_call hd] at he ⊢
  split at he
  · cases he
  · cases he
    rfl

/-- Whatever fails at the channel, the protocol channel says that it failed. -/
theorem status_of_transport (hd : c.dialect = some d) (hopen : c.socket.isOpen = true)
    (i : Invocation) {cause : IoError} (he : (i.act.on c).1 = .error (.transport cause)) :
    (i.act.on c).2.protocolStatus = Status.fail := by
  cases i with
  | raw => exact status_call hd he
  | remote r =>
    have hsettled := settled_perform hd hopen r
    rw [show ((perform r).on c).1 = .error (.transport cause) from he] at hsettled
    exact hsettled.1

/-- An invocation that has a request to send fails at the channel. -/
theorem CutOff.onLink_act (hc : CutOff d sent c) {i : Invocation} {body : List UInt8}
    (hb : i.body? d c = some body) :
    ∃ cause, (i.act.on c).1 = .error (.transport cause) ∧ CutOff d sent (i.act.on c).2 := by
  obtain ⟨ch, hch, hfull⟩ := hc.channel
  obtain ⟨hr, hsize⟩ := Option.filter_eq_some_iff.mp hb
  rw [decide_eq_true_eq] at hsize
  have hlt : 0 < (Frame.encode body).length := by
    rw [Frame.length_encode]
    omega
  obtain ⟨out, hsend, htaken, -⟩ := Frame.on_send_stopped hsize hfull hlt
  have hroom : out.room = some 0 := by
    have hafter := (Frame.upholds_send_full body).after hfull
    rwa [hsend] at hafter
  have hlink : onLink i.act c = (.error (.transport ch.outgoing.refusal),
      c.socket.holding { ch with outgoing := out }, c.reply) := by
    rw [Context.onLink_act hc.dialect hr, on_transaction, link,
      Socket.on_transfer_unsent c.settings.maxFrame c.reply hch hsend]
    rfl
  rw [List.take_zero, List.append_nil] at htaken
  have hstanding := (upholds_act hc.dialect hc.isOpen i).after (.refl c)
  have hdialect := hstanding.dialect.trans hc.dialect
  have hafter : CutOff d sent (i.act.on c).2 :=
    @CutOff.holding _ _ _ hc _ hdialect _ { ch with outgoing := out } hch htaken hroom
      (congrArg (·.2.1) hlink)
  exact ⟨_, congrArg (·.1) hlink, hafter⟩

/-- No step in the course of the connection lets anything through. -/
theorem CutOff.after (hc : CutOff d sent c) {step : Step} (hstep : step.Stays) :
    CutOff d sent (step.after c) := by
  obtain ⟨ch, hch, hfull⟩ := hc.channel
  cases step with
  | act a =>
    cases ha : a.body? d c with
    | none =>
      have hstanding : Standing c (a.after c) := standing_after (fun _ => hc.isOpen) a
      have hsocket : (a.after c).socket = c.socket.holding ch := by
        rw [socket_after_of_none hc.dialect hc.isOpen ha, Socket.holding_current hch]
      exact hc.holding (hstanding.dialect.trans hc.dialect) hch rfl hfull hsocket
    | some body =>
      cases a with
      | invoke i =>
        obtain ⟨cause, -, hafter⟩ := hc.onLink_act ha
        exact hafter
      | beginCommand opcode => cases ha
      | write act => cases ha
      | read act => cases ha
  | connect world =>
    rw [Step.after, on_connect, if_pos hc.isConnected]
    exact hc
  | disconnect => exact hstep.elim
  | takeHandle =>
    rw [Step.after, interruptHandle_after]
    exact hc
  | interrupt handle =>
    have hsocket : (c.interrupted handle).socket =
        c.socket.holding (if handle.serial = c.socket.retired.length then ch.shut else ch) := by
      simp only [interrupted, Socket.interrupted, hch]
      split
      · rfl
      · exact (Socket.holding_current hch).symm
    refine hc.holding hc.dialect hch ?_ ?_ hsocket
    · split <;> rfl
    · split
      · rfl
      · exact hfull
  | sourcesChange resolver broker => exact ⟨hc.dialect, hc.sent, hc.channel⟩
  | channelChanges change =>
    obtain ⟨hchanged, hsent⟩ := hstep ch hfull
    refine hc.holding hc.dialect hch hsent hchanged ?_
    rw [Step.after, hch]
    rfl

theorem CutOff.run (hc : CutOff d sent c) {steps : List Step}
    (hsteps : ∀ step ∈ steps, step.Stays) : CutOff d sent (Step.run steps c) := by
  induction steps generalizing c with
  | nil => exact hc
  | cons step steps ih =>
    have hstep := hsteps step (List.mem_cons_self ..)
    exact ih (hc.after hstep) fun other hother => hsteps other (List.mem_cons_of_mem step hother)

/-! ## Which connection a handle means -/

/-- A context on the connection that comes after so many others. -/
structure OnConnection (d : Dialect) (n : Nat) (c : Context) : Prop where
  dialect : c.dialect = some d
  isOpen : c.socket.isOpen = true
  serial : c.socket.retired.length = n

theorem OnConnection.isConnected (hc : OnConnection d n c) : c.isConnected = true := by
  rw [Context.isConnected, hc.dialect]
  rfl

/-- A handle is taken on the connection that there is. -/
theorem onConnection_of_taken {supplied : Option DeviceInfo} (sound : Sound supplied c)
    (taken : (interruptHandle.on c).1 = .ok h) : ∃ d, OnConnection d h.serial c := by
  by_cases hc : c.isConnected = true
  · obtain ⟨d, hd⟩ := Option.isSome_iff_exists.mp hc
    have hopen : c.socket.isOpen = true := sound.isOpen.trans hc
    have hhandle : (interruptHandle.on c).1 = .ok { serial := c.socket.retired.length } := by
      simp [interruptHandle, Operation.on_bind, hc, onSocket, Socket.handle, hopen]
    cases hhandle.symm.trans taken
    exact ⟨d, hd, hopen, rfl⟩
  · have hhandle : (interruptHandle.on c).1 = .error .notConnected := by
      simp [interruptHandle, Operation.on_bind, hc]
    cases hhandle.symm.trans taken

/-- Unless it is disconnected, a context stays on its connection. -/
theorem OnConnection.after (hc : OnConnection d n c) {step : Step} (hstep : step ≠ .disconnect) :
    OnConnection d n (step.after c) := by
  have standing {c' : Context} (hs : Standing c c') : OnConnection d n c' :=
    ⟨hs.dialect.trans hc.dialect, hs.isOpen.trans hc.isOpen, by rw [hs.retired, hc.serial]⟩
  cases step with
  | act a => exact standing (standing_after (fun _ => hc.isOpen) a)
  | connect world =>
    rw [Step.after, on_connect, if_pos hc.isConnected]
    exact hc
  | disconnect => exact absurd rfl hstep
  | takeHandle =>
    rw [Step.after, interruptHandle_after]
    exact hc
  | interrupt handle => exact standing (standing_interrupted c handle)
  | sourcesChange resolver broker => exact ⟨hc.dialect, hc.isOpen, hc.serial⟩
  | channelChanges change =>
    refine ⟨hc.dialect, ?_, hc.serial⟩
    rw [Step.after, Socket.isOpen, Option.isSome_map]
    exact hc.isOpen

theorem OnConnection.run (hc : OnConnection d n c) {steps : List Step}
    (hsteps : .disconnect ∉ steps) : OnConnection d n (Step.run steps c) := by
  induction steps generalizing c with
  | nil => exact hc
  | cons step steps ih =>
    rw [List.mem_cons, not_or] at hsteps
    exact ih (hc.after (Ne.symm hsteps.1)) hsteps.2

/-- Its handle cuts a connection off. -/
theorem OnConnection.cutOff (hc : OnConnection d h.serial c) :
    CutOff d c.socket.sent (c.interrupted h) := by
  obtain ⟨ch, hch⟩ := Socket.exists_current hc.isOpen
  have hsocket : (c.interrupted h).socket = c.socket.holding ch.shut := by
    rw [interrupted, Socket.interrupted, hch]
    exact if_pos hc.serial.symm
  have hsent : ch.shut.sent = ch.sent ++ [] := (List.append_nil ch.sent).symm
  refine ⟨hc.dialect, ?_, ch.shut, ?_, ch.takesNothing_shut⟩
  · rw [hsocket, Socket.sent_holding hch hsent, List.append_nil]
  · rw [hsocket]
    rfl

/-! ## Handles of earlier connections -/

theorem on_disconnect (c : Context) :
    disconnect.on c =
      if c.isConnected then (.ok (), c.disconnected) else (.error .notConnected, c) := by
  by_cases hc : c.isConnected = true
  · simp [disconnect, Operation.on_bind, hc]
  · simp [disconnect, Operation.on_bind, hc]

theorem Connecting.length_le {world : Outside} {after : Except Error Unit × Context}
    (hc : Connecting world c after) :
    c.socket.retired.length ≤ after.2.socket.retired.length := by
  have hclosed := c.socket.length_le_closed
  cases hc with
  | made uses =>
    unfold connected
    cases c.info <;> exact hclosed
  | unresolved => exact Nat.le_refl _
  | unreached => exact hclosed
  | denied =>
    refine hclosed.trans ?_
    exact Nat.le_succ _

/-- No step makes the number of earlier connections smaller. -/
theorem Reachable.length_le_after (hr : Reachable c) (step : Step) :
    c.socket.retired.length ≤ (step.after c).socket.retired.length := by
  obtain ⟨supplied, sound⟩ := hr.sound
  cases step with
  | act a =>
    have hstanding := standing_after (fun hc => sound.isOpen.trans hc) a
    exact Nat.le_of_eq (congrArg List.length hstanding.retired.symm)
  | connect world =>
    by_cases hc : c.isConnected = true
    · rw [Step.after, on_connect, if_pos hc]
    · rw [Bool.not_eq_true] at hc
      exact (connecting world hc).length_le
  | disconnect =>
    rw [Step.after, on_disconnect]
    split
    · exact c.socket.length_le_closed
    · exact Nat.le_refl _
  | takeHandle => rw [Step.after, interruptHandle_after]
  | interrupt handle =>
    have hstanding := standing_interrupted c handle
    exact Nat.le_of_eq (congrArg List.length hstanding.retired.symm)
  | sourcesChange resolver broker => exact Nat.le_refl _
  | channelChanges change => exact Nat.le_refl _

theorem Reachable.length_le_run (hr : Reachable c) (steps : List Step) :
    c.socket.retired.length ≤ (Step.run steps c).socket.retired.length := by
  induction steps generalizing c with
  | nil => exact Nat.le_refl _
  | cons step steps ih => exact (hr.length_le_after step).trans (ih (hr.after step))

/-- A handle of an earlier connection does nothing. -/
theorem interrupted_of_lt (hlt : h.serial < c.socket.retired.length) : c.interrupted h = c := by
  have hsocket : c.socket.interrupted h = c.socket := by
    unfold Socket.interrupted
    split
    · exact if_neg (Nat.ne_of_lt hlt)
    · rfl
  rw [interrupted, hsocket]

/-- So a run is what it is without all the steps that use the handle. -/
theorem run_filter_of_lt (hr : Reachable c) (hlt : h.serial < c.socket.retired.length)
    (steps : List Step) :
    Step.run steps c = Step.run (steps.filter fun step => !step.uses h) c := by
  induction steps generalizing c with
  | nil => rfl
  | cons step steps ih =>
    have hrest := ih (hr.after step) (Nat.lt_of_lt_of_le hlt (hr.length_le_after step))
    by_cases huses : step.uses h = true
    · cases step with
      | interrupt other =>
        have hsame : other = h := of_decide_eq_true huses
        have hafter : (Step.interrupt other).after c = c := by
          rw [Step.after, hsame, interrupted_of_lt hlt]
        rw [hafter] at hrest
        rw [List.filter_cons_of_neg (by simp [huses]), ← hrest]
        exact congrArg (Step.run steps) hafter
      | _ => cases huses
    · rw [List.filter_cons_of_pos (by simp [huses])]
      exact hrest

/-- Once the context was disconnected, the connection is an earlier one. -/
theorem OnConnection.lt_run (hc : OnConnection d n c) (hr : Reachable c) {steps : List Step}
    (hsteps : .disconnect ∈ steps) : n < (Step.run steps c).socket.retired.length := by
  obtain ⟨first, last, rfl, hfirst⟩ := List.eq_append_cons_of_mem hsteps
  have hstill := hc.run hfirst
  have hgone : (Step.disconnect.after (Step.run first c)).socket.retired.length = n + 1 := by
    obtain ⟨ch, hch⟩ := Socket.exists_current hstill.isOpen
    rw [Step.after, on_disconnect, if_pos hstill.isConnected, disconnected, Socket.closed, hch]
    exact congrArg (· + 1) hstill.serial
  have hlater := ((hr.run first).after .disconnect).length_le_run last
  rw [hgone] at hlater
  have hrun : Step.run (first ++ .disconnect :: last) c =
      Step.run last (Step.disconnect.after (Step.run first c)) := List.foldl_append
  rw [hrun]
  exact hlater

/-! ## Connecting again -/

theorem connected_keeps (c : Context) (info : DeviceInfo) (d : Dialect) :
    (connected c info d).socket = c.socket ∧ (connected c info d).settings = c.settings ∧
      (connected c info d).dialect = some d := by
  unfold connected
  cases c.info <;> exact ⟨rfl, rfl, rfl⟩

theorem Connecting.connected_of_ok {world : Outside} {after : Except Error Unit × Context}
    (hc : Connecting world c after) (hok : after.1 = .ok ()) :
    ∃ d ch, after.2.dialect = some d ∧ after.2.socket.current = some ch ∧
      after.2.settings = c.settings := by
  cases hc with
  | @made info _ ch _ d =>
    obtain ⟨hsocket, hsettings, hdialect⟩ :=
      connected_keeps { c with socket := c.socket.closed.holding ch } info d
    refine ⟨d, ch, hdialect, ?_, hsettings⟩
    rw [hsocket]
    rfl
  | unresolved | unreached | denied => cases hok

/-- Over a connection without a password, the context holds the very channel to whom it reached. -/
theorem current_of_unasked {world : Outside} {info : DeviceInfo} {ch : Channel}
    (hc : c.isConnected = false) (huses : c.Uses info)
    (hreached : Reached world c.broker c.settings info ch)
    (hdeadline : c.settings.ioTimeout ≠ some 0) (hunasked : ∀ password, ¬ info.AsksFor password) :
    ((connect world).on c).2.socket.current = some ch := by
  have hnot : ¬ c.isConnected = true := by
    rw [hc]
    exact Bool.false_ne_true
  have hestablish := on_establish world c.broker c.settings info c.socket
  rw [reach_eq_ok_iff.mpr hreached] at hestablish
  have hholds : (c.socket.closed.holding ch).current = some ch := rfl
  obtain ⟨d, -, hgreet⟩ := on_greet_unasked hholds hdeadline hunasked
  rw [on_connect, if_neg hnot, infoToUse_eq_ok_iff.mpr huses]
  dsimp only at hestablish ⊢
  rw [hestablish, hgreet]
  dsimp only
  rw [(connected_keeps _ info d).1]
  rfl

/-- A context that can be connected. It is, exactly if a device is reached and lets it in. As far as
the device then answers each request with a frame, the calls over the new connection find them. -/
structure Connectable (world : Outside) (c : Context) : Prop where
  connects : ((connect world).on c).1 = .ok () ↔ ∃ info ch, c.Uses info ∧
    Reached world c.broker c.settings info ch ∧ c.settings.ioTimeout ≠ some 0 ∧ info.LetsIn ch
  answers : ((connect world).on c).1 = .ok () →
    let c' := ((connect world).on c).2
    ∃ d ch, c'.dialect = some d ∧ c'.socket.current = some ch ∧
      (∀ info reached, c.Uses info → Reached world c.broker c.settings info reached →
        (∀ password, ¬ info.AsksFor password) → ch = reached) ∧
      ∀ frames, ch.Supplies [] frames → (∀ f ∈ frames, f.length ≤ c.settings.maxFrame.toNat) →
        ∀ actions, Action.exchanges d actions c' ≤ frames.length →
          ∀ (i : Invocation) (body : List UInt8), i.body? d (Action.run actions c') = some body →
            ∀ f, frames[Action.exchanges d actions c']? = some f →
              i.Finds d (Action.run actions c') f

theorem connectable (world : Outside) (hc : c.isConnected = false) : Connectable world c := by
  have hconnecting := connecting world hc
  refine ⟨hconnecting.ok_iff, fun hok => ?_⟩
  intro c'
  obtain ⟨d, ch, hd, hch, hsettings⟩ := hconnecting.connected_of_ok hok
  refine ⟨d, ch, hd, hch, ?_, ?_⟩
  · intro info reached huses hreached hunasked
    obtain ⟨_, _, -, -, hdeadline, -⟩ := hconnecting.ok_iff.mp hok
    have hcurrent := current_of_unasked hc huses hreached hdeadline hunasked
    exact Option.some.inj (hch.symm.trans hcurrent)
  · intro frames hsupplies fits actions henough i body hbody f hf
    rw [← hsettings] at fits
    have hstart : Awaits d c'.settings.maxFrame [] frames c' := ⟨hd, rfl, ch, hch, hsupplies⟩
    have hawaits := hstart.run fits henough
    obtain ⟨hlt, rfl⟩ := List.getElem?_eq_some_iff.mp hf
    rw [List.drop_eq_getElem_cons hlt] at hawaits
    exact hawaits.finds hbody (fits _ (List.getElem_mem hlt)) List.prefix_rfl

/-- Once it is disconnected, it makes no difference what the channel of a connection was. -/
theorem samePresent_disconnected (hopen : c.socket.isOpen = true) (ch : Channel) :
    SamePresent ({ c with socket := c.socket.holding ch } : Context).disconnected
      c.disconnected := by
  obtain ⟨present, hpresent⟩ := Socket.exists_current hopen
  have hsame : (c.socket.holding ch).closed.SamePresent c.socket.closed := by
    rw [Socket.closed, Socket.closed, hpresent]
    exact ⟨rfl, rfl⟩
  exact .intro hsame

/-! ## Interrupting -/

/-- A handle ends the connection that it was taken on, and no other. While the context is on that
connection, using the handle lets no further byte through: every call with a request to send fails
at the channel, and says so on the protocol channel, until the context is disconnected, and that it
can be. From then on everything goes as if the connection had not been interrupted: the context can
be connected, and called. As soon as the context was disconnected, using the handle changes
nothing, however often and whenever it is done. -/
theorem interrupt_ends_own_connection {c₁ : Context} (hr : Reachable c₁)
    (taken : (interruptHandle.on c₁).1 = .ok h) (between : List Step) :
    let c₂ := Step.run between c₁
    (.disconnect ∉ between → ∀ after : List Step, (∀ step ∈ after, step.Stays) →
      let c := Step.run after (c₂.interrupted h)
      (c.isConnected = true ∧ c.dialect = c₂.dialect ∧ c.socket.sent = c₂.socket.sent) ∧
      (∀ (d : Dialect) (i : Invocation) (body : List UInt8), c.dialect = some d →
        i.body? d c = some body →
          (∃ cause, (i.act.on c).1 = .error (.transport cause)) ∧
          (i.act.on c).2.protocolStatus = Status.fail ∧
          (i.act.on c).2.socket.sent = c.socket.sent ∧ (i.act.on c).2.isConnected = true) ∧
      disconnect.on c = (.ok (), c.disconnected) ∧
      ∀ later : List Step,
        let c' := Step.run later c.disconnected
        (∀ ch : Channel,
          let other := Step.run later { c with socket := c.socket.holding ch }.disconnected
          SamePresent other c' ∧ ∀ i : Invocation, (i.act.on c').1 = (i.act.on other).1) ∧
        (c'.isConnected = false → ∀ world, Connectable world c')) ∧
    (.disconnect ∈ between →
      c₂.interrupted h = c₂ ∧
      ∀ later : List Step,
        Step.run later c₂ = Step.run (later.filter fun step => !step.uses h) c₂) := by
  obtain ⟨supplied, sound⟩ := hr.sound
  obtain ⟨d, hc₁⟩ := onConnection_of_taken sound taken
  intro c₂
  refine ⟨fun hstay after hafter => ?_, fun hgone => ?_⟩
  · have hc₂ : OnConnection d h.serial c₂ := hc₁.run hstay
    intro c
    have hc : CutOff d c₂.socket.sent c := hc₂.cutOff.run hafter
    refine ⟨⟨hc.isConnected, hc.dialect.trans hc₂.dialect.symm, hc.sent⟩, ?_, ?_, ?_⟩
    · intro d' i body hd' hbody
      cases hc.dialect.symm.trans hd'
      obtain ⟨cause, hfail, hstill⟩ := hc.onLink_act hbody
      exact ⟨⟨cause, hfail⟩, status_of_transport hc.dialect hc.isOpen i hfail,
        hstill.sent.trans hc.sent.symm, hstill.isConnected⟩
    · rw [on_disconnect, if_pos hc.isConnected]
    · intro later c'
      refine ⟨?_, fun hidle world => connectable world hidle⟩
      intro ch other
      have hsame : SamePresent other c' := (samePresent_disconnected hc.isOpen ch).run later
      exact ⟨hsame, fun i => (SamePresent.agree_act i other c' hsame).1⟩
  · have hlt : h.serial < c₂.socket.retired.length := hc₁.lt_run hr hgone
    exact ⟨interrupted_of_lt hlt, run_filter_of_lt (hr.run between) hlt⟩

/-- A connection is interrupted. The device still sends something, but a call fails. Over the next
connection a call is answered, and the handle of the first one does nothing. -/
theorem interrupt_ends_own_connection_reconnected :
    let device : Channel := { turns := [Channel.answer [0, 0, 0, 0]] }
    let world : Outside := { sampleWorld with dial := fun _ _ _ => .ok device }
    let c₁ := Step.run [.connect world] ((Context.new sampleSettings {}).withInfo sampleDevice)
    let h : InterruptHandle := { serial := 0 }
    let late : Step := .channelChanges (·.perform { bytes := [9] })
    let c := Step.run [late, .act (.invoke .raw)] (c₁.interrupted h)
    let again := Step.run [.interrupt h, late, .act (.invoke .raw), .disconnect, .connect world] c₁
    Reachable c₁ ∧ (interruptHandle.on c₁).1 = .ok h ∧
      (∃ cause, (call.on c).1 = .error (.transport cause)) ∧
      Invocation.raw.Finds .v1 again [0, 0, 0, 0] ∧ again.interrupted h = again := by
  intro device world c₁ h late c again
  have hreachable : Reachable c₁ := ((Reachable.new sampleSettings {}).withInfo sampleDevice).run _
  have taken : (interruptHandle.on c₁).1 = .ok h := rfl
  have hstays : ∀ step ∈ [late, Step.act (.invoke .raw)], step.Stays :=
    List.forall_mem_cons.mpr ⟨Step.stays_perform _, List.forall_mem_singleton.mpr trivial⟩
  obtain ⟨-, hfails, -, hlater⟩ :=
    (interrupt_ends_own_connection hreachable taken []).1 List.not_mem_nil _ hstays
  obtain ⟨⟨cause, hfail⟩, -⟩ := hfails .v1 .raw c.request.bytes (by decide) (by decide)
  have hidle : Connectable world c.disconnected := (hlater []).2 (by decide) world
  obtain ⟨d, ch, hd, hch, -, hanswers⟩ := hidle.answers (by decide)
  have hagain : ((connect world).on c.disconnected).2 = again := rfl
  rw [hagain] at hd hch hanswers
  cases hd.symm.trans (show again.dialect = some .v1 by decide)
  cases hch.symm.trans (show again.socket.current = some device by decide)
  have hsupplies : device.Supplies [] [[0, 0, 0, 0]] := supplies_answers [[0, 0, 0, 0]]
  have hfinds := hanswers [[0, 0, 0, 0]] hsupplies (by decide) [] (by decide) .raw
    again.request.bytes (by decide) [0, 0, 0, 0] rfl
  have hstale := (interrupt_ends_own_connection hreachable taken
    [.interrupt h, late, .act (.invoke .raw), .disconnect, .connect world]).2 (by simp [late])
  exact ⟨hreachable, taken, ⟨cause, hfail⟩, hfinds, hstale.1⟩

end Context

end PocketLink
