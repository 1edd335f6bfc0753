import PocketLink.Context.Connect
import PocketLink.Proofs.Context.Invocation

/-!
# The state of a connection

A context is driven step by step: it is connected and disconnected, calls are made, handles are
taken and used, and all the while the sources of devices and the devices themselves do what they
want. However it was built and whatever the steps are, the dialect, the channel of the socket and
the resolved information come and go together, and supplied information stays.
-/

namespace PocketLink

/-! ## Steps -/

/-- One step of a context and what is around it. -/
inductive Step where
  /-- The caller acts on the context, connected or not. -/
  | act (a : Action)
  /-- The context is to be connected. -/
  | connect (world : Outside)
  /-- The context is to be disconnected. -/
  | disconnect
  /-- A handle on the connection is taken. -/
  | takeHandle
  /-- A handle is used, on this connection or an earlier one. -/
  | interrupt (h : InterruptHandle)
  /-- The sources answer otherwise from now on. -/
  | sourcesChange (resolver : Resolver) (broker : Broker)
  /-- The device or the network changes what there is on the channel. -/
  | channelChanges (change : Channel → Channel)

namespace Step

/-- The context after a step, whether it succeeded or failed. -/
def after (c : Context) : Step → Context
  | act a => a.after c
  | connect world => ((Context.connect world).on c).2
  | disconnect => (Context.disconnect.on c).2
  | takeHandle => (Context.interruptHandle.on c).2
  | interrupt h => c.interrupted h
  | sourcesChange resolver broker => (c.withResolver resolver).withBroker broker
  | channelChanges change =>
    { c with socket := { c.socket with current := c.socket.current.map change } }

/-- The context after some steps, one after another. -/
def run (steps : List Step) (c : Context) : Context := steps.foldl after c

end Step

namespace Context

/-- The ways to build a context. -/
inductive Built : Context → Prop
  | new (settings : Settings) (files : Files) : Built (Context.new settings files)
  | withResolver {c : Context} (h : Built c) (resolver : Resolver) : Built (c.withResolver resolver)
  | withBroker {c : Context} (h : Built c) (broker : Broker) : Built (c.withBroker broker)
  | withSelector {c : Context} (h : Built c) (selector : Selector) : Built (c.withSelector selector)
  | withInfo {c : Context} (h : Built c) (info : DeviceInfo) : Built (c.withInfo info)

/-! ## The invariant -/

/-- What the parts of a context say about its connection agrees: the socket is open exactly while
there is a dialect, and information that was not supplied is there, and owned, exactly as long. -/
structure Sound (supplied : Option DeviceInfo) (c : Context) : Prop where
  isOpen : c.socket.isOpen = c.isConnected
  ownsInfo : c.ownsInfo = (supplied.isNone && c.isConnected)
  keepsInfo : ∀ info, supplied = some info → c.info = some info
  hasInfo : supplied = none → c.info.isSome = c.isConnected

theorem Built.disconnected {c : Context} (h : Built c) :
    c.isConnected = false ∧ c.socket.isOpen = false ∧ c.ownsInfo = false := by
  induction h with
  | new settings files => exact ⟨rfl, rfl, rfl⟩
  | withInfo h info ih => exact ⟨ih.1, ih.2.1, rfl⟩
  | withResolver h resolver ih => exact ih
  | withBroker h broker ih => exact ih
  | withSelector h selector ih => exact ih

theorem Built.sound {c : Context} (h : Built c) : Sound c.info c := by
  obtain ⟨hc, hs, ho⟩ := h.disconnected
  refine ⟨hs.trans hc.symm, ?_, fun info hi => hi, fun hi => ?_⟩
  · rw [ho, hc, Bool.and_false]
  · rw [hi, hc]
    rfl

variable {supplied : Option DeviceInfo} {s c : Context}

/-- Whatever leaves the connection standing leaves the context sound. -/
theorem Sound.standing (h : Sound supplied s) (hc : Standing s c) : Sound supplied c where
  isOpen := by rw [hc.isOpen, hc.isConnected, h.isOpen]
  ownsInfo := by rw [hc.ownsInfo, hc.isConnected, h.ownsInfo]
  keepsInfo := fun info hi => hc.info.trans (h.keepsInfo info hi)
  hasInfo := fun hi => by rw [hc.info, hc.isConnected, h.hasInfo hi]

/-! ## Connecting -/

/-- An operation after whose success the socket is open. -/
def Opens {α : Type} (act : Operation Socket Error α) : Prop :=
  ∀ s a s', act.on s = (.ok a, s') → s'.isOpen = true

theorem opens_replace (answer : Except Error Channel) : Opens (Socket.replace answer) := by
  intro s a s' h
  rw [Socket.on_replace] at h
  cases answer with
  | ok channel =>
    cases h
    rfl
  | error e => cases h

/-- What is done with an open socket leaves it open. -/
theorem Opens.bind {α β : Type} {act : Operation Socket Error α}
    {next : α → Operation Socket Error β} (h : Opens act)
    (hn : ∀ a retired, Operation.Upholds (Socket.Holds retired) (fun _ => True) (next a)) :
    Opens (act >>= next) := by
  intro s b s' hb
  match hact : act.on s with
  | (.ok a, t) =>
    rw [Operation.on_bind_ok hact] at hb
    have ht : t.Holds t.retired := ⟨h s a t hact, rfl⟩
    have hs := (hn a t.retired).after ht
    rw [hb] at hs
    exact hs.1
  | (.error e, t) =>
    rw [Operation.on_bind_error hact] at hb
    cases hb

theorem opens_bind {α β : Type} (act : Operation Socket Error α)
    {next : α → Operation Socket Error β} (h : ∀ a, Opens (next a)) : Opens (act >>= next) := by
  intro s b s' hb
  match hact : act.on s with
  | (.ok a, t) =>
    rw [Operation.on_bind_ok hact] at hb
    exact h a t b s' hb
  | (.error e, t) =>
    rw [Operation.on_bind_error hact] at hb
    cases hb

theorem upholds_challenge (password : String) (key : UInt8) (retired : List Channel) :
    Operation.Upholds (Socket.Holds retired) (fun _ => True) (challenge password key) := by
  unfold challenge
  split
  · exact Operation.upholds_throw trivial
  · next bytes hbytes =>
    have hverdict := (Socket.upholds_writeAll bytes retired).bind fun _ =>
      Socket.upholds_readExact 1 retired
    refine (hverdict.tryCatch fun _ => Operation.upholds_throw trivial).bind fun reply => ?_
    split
    · split
      · exact Operation.upholds_pure ()
      · exact Operation.upholds_throw trivial
    · exact Operation.upholds_throw trivial

/-- A connection that is made, by whichever transport, is an open socket. -/
theorem opens_establish (world : Outside) (broker : Broker) (settings : Settings)
    (info : DeviceInfo) : Opens (establish world broker settings info) := by
  unfold establish
  split
  · refine opens_bind _ fun address => (opens_replace _).bind fun _ retired => ?_
    refine (Socket.upholds_setTimeout _ retired).bind fun _ => ?_
    split
    · split
      · exact (upholds_challenge _ _ retired).bind fun _ => Operation.upholds_pure _
      · exact Operation.upholds_pure _
    · exact Operation.upholds_pure _
  · refine opens_bind _ fun descriptor => (opens_replace _).bind fun _ retired => ?_
    exact (Socket.upholds_setTimeout _ retired).bind fun _ => Operation.upholds_pure _
  · refine opens_bind _ fun address => (opens_replace _).bind fun _ retired => ?_
    exact (Socket.upholds_setTimeout _ retired).bind fun _ => Operation.upholds_pure _

/-- What connecting does, stage by stage. -/
theorem on_connect (world : Outside) (c : Context) :
    (connect world).on c =
      if c.isConnected then (.error .alreadyConnected, c)
      else match c.infoToUse with
        | .error e => (.error e, c)
        | .ok info =>
          match (establish world c.broker c.settings info).on c.socket with
          | (.ok d, t) => (.ok (), connected { c with socket := t } info d)
          | (.error e, t) => (.error e, refused { c with socket := t } e) := by
  by_cases hc : c.isConnected = true
  · simp [connect, Operation.on_bind, hc]
  · match hi : c.infoToUse with
    | .error e => simp [connect, Operation.on_bind, hc, hi]
    | .ok info =>
      match he : (establish world c.broker c.settings info).on c.socket with
      | (.ok d, t) => simp [connect, onSocket, Operation.on_bind, hc, hi, he]
      | (.error e, t) => simp [connect, onSocket, Operation.on_bind, hc, hi, he]

/-- A connection that was made brings the dialect, and its information if none was supplied. -/
theorem Sound.connected (h : Sound supplied c) (hc : c.isConnected = false) {t : Socket}
    (ht : t.isOpen = true) (info : DeviceInfo) (d : Dialect) :
    Sound supplied (connected { c with socket := t } info d) := by
  cases supplied with
  | some known =>
    have hinfo : c.info = some known := h.keepsInfo known rfl
    have howns : c.ownsInfo = false := h.ownsInfo
    unfold Context.connected
    simp only [hinfo]
    exact ⟨ht, howns, fun _ hk => hk, fun hn => by cases hn⟩
  | none =>
    have hinfo : c.info = none := by
      have := h.hasInfo rfl
      rwa [hc, Option.isSome_eq_false_iff, Option.isNone_iff_eq_none] at this
    unfold Context.connected
    simp only [hinfo]
    exact ⟨ht, rfl, fun _ hk => (by cases hk), fun _ => rfl⟩

/-- A connection that could not be made leaves a closed socket and nothing else. -/
theorem Sound.refused (h : Sound supplied c) (hc : c.isConnected = false) (t : Socket) (e : Error) :
    Sound supplied (refused { c with socket := t } e) where
  isOpen := (Socket.isOpen_closed t).trans hc.symm
  ownsInfo := h.ownsInfo
  keepsInfo := h.keepsInfo
  hasInfo := h.hasInfo

theorem Sound.connect (h : Sound supplied c) (world : Outside) :
    Sound supplied ((connect world).on c).2 := by
  rw [on_connect]
  by_cases hc : c.isConnected = true
  · rw [if_pos hc]
    exact h
  rw [if_neg hc]
  rw [Bool.not_eq_true] at hc
  split
  · exact h
  · next info _ =>
    have hopens := opens_establish world c.broker c.settings info c.socket
    split
    · next d t ht => exact h.connected hc (hopens d t ht) info d
    · next e t _ => exact h.refused hc t e

/-! ## Disconnecting and interrupting -/

theorem Sound.disconnected (h : Sound supplied c) : Sound supplied c.disconnected := by
  refine ⟨Socket.isOpen_closed c.socket, ?_, fun info hi => ?_, fun hi => ?_⟩
  · rw [isConnected, Context.disconnected]
    exact (Bool.and_false _).symm
  · have howns : c.ownsInfo = false := by rw [h.ownsInfo, hi]; rfl
    rw [Context.disconnected, howns]
    exact h.keepsInfo info hi
  · have howns : c.ownsInfo = c.info.isSome := by rw [h.ownsInfo, h.hasInfo hi, hi]; rfl
    rw [Context.disconnected, howns]
    cases c.info <;> rfl

theorem Sound.disconnect (h : Sound supplied c) : Sound supplied (Context.disconnect.on c).2 := by
  by_cases hc : c.isConnected = true
  · have hd : Context.disconnect.on c = (.ok (), c.disconnected) := by
      simp [Context.disconnect, Operation.on_bind, hc]
    rw [hd]
    exact h.disconnected
  · have hd : Context.disconnect.on c = (.error .notConnected, c) := by
      simp [Context.disconnect, Operation.on_bind, hc]
    rw [hd]
    exact h

/-- Taking a handle changes nothing. -/
theorem interruptHandle_after (c : Context) : (interruptHandle.on c).2 = c := by
  unfold interruptHandle
  rw [Operation.on_bind]
  simp only [Operation.on_get]
  split
  · simp only [onSocket, Operation.on_within, Socket.handle, Operation.on_bind, Operation.on_get]
    split <;> rfl
  · rfl

theorem standing_interrupted (c : Context) (h : InterruptHandle) : Standing c (c.interrupted h) :=
  { Standing.refl c with
    isOpen := Socket.isOpen_interrupted c.socket h
    retired := by
      rw [interrupted, Socket.interrupted]
      split
      · split <;> rfl
      · rfl }

/-! ## Whole runs -/

/-- Every step leaves a sound context sound. -/
theorem Sound.after (h : Sound supplied c) (step : Step) : Sound supplied (step.after c) := by
  cases step with
  | act a => exact h.standing (standing_after (fun hc => h.isOpen.trans hc) a)
  | connect world => exact h.connect world
  | disconnect => exact h.disconnect
  | takeHandle =>
    rw [Step.after, interruptHandle_after]
    exact h
  | interrupt handle => exact h.standing (standing_interrupted c handle)
  | sourcesChange resolver broker => exact ⟨h.isOpen, h.ownsInfo, h.keepsInfo, h.hasInfo⟩
  | channelChanges change =>
    refine ⟨?_, h.ownsInfo, h.keepsInfo, h.hasInfo⟩
    rw [Step.after, Socket.isOpen, Option.isSome_map]
    exact h.isOpen

theorem Sound.run (h : Sound supplied c) (steps : List Step) :
    Sound supplied (Step.run steps c) := by
  induction steps generalizing c with
  | nil => exact h
  | cons step steps ih => exact ih (h.after step)

/-- Whether it fails or not, a call on a sound context meets an open socket while there is a
dialect. -/
theorem Sound.calls_not_refused (h : Sound supplied c) {d : Dialect} (hd : c.dialect = some d) :
    (∀ body, ((Socket.send body).on c.socket).1 ≠ .error .notConnected) ∧
      (∀ max b, ((Socket.recv max).on (c.socket, b)).1 ≠ .error .notConnected) ∧
      ((exchange d).on c).1 ≠ .error .notConnected ∧
      ∀ i : Invocation, (i.act.on c).1 ≠ .error .notConnected := by
  have hopen : c.socket.isOpen = true := by
    rw [h.isOpen, isConnected, hd]
    rfl
  have hholds : c.socket.Holds c.socket.retired := ⟨hopen, rfl⟩
  have hcall : Error.notConnected.isOfCall ≠ true := by decide
  refine ⟨fun body he => hcall ?_, fun max b he => hcall ?_, fun he => hcall ?_,
    fun i he => hcall ?_⟩
  · exact (Socket.upholds_send body _).failure hholds he
  · exact (Socket.upholds_recv max c.socket.retired).failure (s := (c.socket, b)) hholds he
  · exact (upholds_exchange hopen d).failure (.refl c) he
  · exact (upholds_act hd hopen i).failure (.refl c) he

/-- However a context was built and whatever happens to it then: it has a dialect exactly while its
socket is open, it owns information only while it is connected, it keeps what it was supplied with,
and otherwise it has information exactly while it is connected. While it has a dialect, nothing that
a call does on the socket fails for want of a connection. -/
theorem connection_parts_agree {c₀ : Context} (built : Built c₀) (steps : List Step) :
    let c := Step.run steps c₀
    (c.dialect.isSome = c.isConnected ∧ c.socket.isOpen = c.isConnected) ∧
      (c.ownsInfo = true → c.isConnected = true ∧ c.info.isSome = true) ∧
      (∀ info, c₀.info = some info → c.info = some info ∧ c.ownsInfo = false) ∧
      (c₀.info = none → c.info.isSome = c.isConnected) ∧
      ∀ d, c.dialect = some d →
        (∀ body, ((Socket.send body).on c.socket).1 ≠ .error .notConnected) ∧
        (∀ max b, ((Socket.recv max).on (c.socket, b)).1 ≠ .error .notConnected) ∧
        ((exchange d).on c).1 ≠ .error .notConnected ∧
        ∀ i : Invocation, (i.act.on c).1 ≠ .error .notConnected := by
  intro c
  have h : Sound c₀.info c := built.sound.run steps
  refine ⟨⟨rfl, h.isOpen⟩, fun ho => ?_, fun info hi => ⟨h.keepsInfo info hi, ?_⟩, h.hasInfo,
    fun d hd => h.calls_not_refused hd⟩
  · rw [h.ownsInfo, Bool.and_eq_true, Option.isNone_iff_eq_none] at ho
    exact ⟨ho.2, (h.hasInfo ho.1).trans ho.2⟩
  · rw [h.ownsInfo, hi]
    rfl

/-- A device that is dialled directly. -/
def sampleDevice : DeviceInfo := { deviceIp := some "10.0.0.5", managerPid := some 1 }

/-- A world in which every dialled device answers the dial and nothing else. -/
def sampleWorld : Outside where
  runs := fun _ => true
  dial := fun _ _ _ => .ok {}
  proxy := fun _ => .error .notFound
  broker := fun _ => .error .notFound

/-- Settings with no deadlines. -/
def sampleSettings : Settings where
  port := devicePort
  proxyDir := ⟨"/run/synce"⟩
  infoDir := ⟨"/etc/synce"⟩

/-- A context that resolves its device is connected, called, disconnected and connected again. -/
theorem connection_parts_agree_reconnected :
    let c₀ := (Context.new sampleSettings {}).withResolver (.fixed [sampleDevice])
    let c := Step.run [.connect sampleWorld, .act (.invoke .raw), .disconnect,
      .connect sampleWorld] c₀
    Built c₀ ∧ c.dialect = some .v1 ∧ c.socket.isOpen = true ∧ c.info.isSome = true := by
  intro c₀ c
  have built : Built c₀ := (Built.new sampleSettings {}).withResolver _
  have hd : c.dialect = some .v1 := by decide
  have hc : c.isConnected = true := by rw [isConnected, hd]; rfl
  obtain ⟨⟨-, hopen⟩, -, -, hinfo, -⟩ := connection_parts_agree built
    [.connect sampleWorld, .act (.invoke .raw), .disconnect, .connect sampleWorld]
  exact ⟨built, hd, hopen.trans hc, (hinfo rfl).trans hc⟩

end Context

end PocketLink
