import PocketLink.Proofs.Context.Establishing

/-!
# Refused connections

A context that cannot be connected is left as it was. Only the socket remembers whom it was
connected to for a moment, as one more connection that was shut down, and the protocol channel tells
why. It does not tell it if there is no information about the device: then it keeps what it held
before. An attempt to connect a context twice, or to disconnect it twice, changes nothing at all.

This holds from every state that a context can get into, so the contexts here are those that are
built, used and rebuilt in any order.
-/

namespace PocketLink

namespace Context

/-- The contexts that there can be. A context can be given other sources and other information at
any time, also while it is connected. -/
inductive Reachable : Context → Prop
  | new (settings : Settings) (files : Files) : Reachable (Context.new settings files)
  | withResolver {c : Context} (h : Reachable c) (resolver : Resolver) :
      Reachable (c.withResolver resolver)
  | withBroker {c : Context} (h : Reachable c) (broker : Broker) : Reachable (c.withBroker broker)
  | withSelector {c : Context} (h : Reachable c) (selector : Selector) :
      Reachable (c.withSelector selector)
  | withInfo {c : Context} (h : Reachable c) (info : DeviceInfo) : Reachable (c.withInfo info)
  | after {c : Context} (h : Reachable c) (step : Step) : Reachable (step.after c)

variable {c : Context}

theorem Reachable.sound (h : Reachable c) : ∃ supplied, Sound supplied c := by
  induction h with
  | new settings files => exact ⟨_, (Built.new settings files).sound⟩
  | withResolver h resolver ih | withBroker h broker ih | withSelector h selector ih =>
    obtain ⟨supplied, hsound⟩ := ih
    exact ⟨supplied, hsound.isOpen, hsound.ownsInfo, hsound.keepsInfo, hsound.hasInfo⟩
  | withInfo h info ih =>
    -- From here on the information is supplied, whatever it was before.
    obtain ⟨supplied, hsound⟩ := ih
    exact ⟨some info, hsound.isOpen, rfl, fun _ hinfo => hinfo, fun hnone => by cases hnone⟩
  | after h step ih =>
    obtain ⟨supplied, hsound⟩ := ih
    exact ⟨supplied, hsound.after step⟩

theorem Reachable.run (h : Reachable c) (steps : List Step) : Reachable (Step.run steps c) := by
  induction steps generalizing c with
  | nil => exact h
  | cons step steps ih => exact ih (h.after step)

/-! ## Rolling back -/

/-- What a refused connection leaves: the context as it was but for its protocol channel, a closed
socket, and the connection that was made, if one was, shut down. -/
structure RolledBack (world : Outside) (c c' : Context) : Prop where
  rest : c' = { c with socket := c'.socket, protocolStatus := c'.protocolStatus }
  isClosed : c'.socket.isOpen = false
  unconnected : c'.isConnected = false
  unreached : (∀ info ch, c.Uses info → ¬ Reached world c.broker c.settings info ch) →
    c'.socket = c.socket
  reached : ∀ info ch, c.Uses info → Reached world c.broker c.settings info ch →
    ∃ ch' part, c'.socket = { current := none, retired := ch' :: c.socket.retired } ∧
      ch'.isShut = true ∧ ch'.sent = ch.sent ++ part ∧
      (part = [] ∨ ∃ greeting, info.Greeting greeting ∧ part <+: greeting)

theorem Connecting.rolledBack {world : Outside} {after : Except Error Unit × Context}
    (h : Connecting world c after) (hc : c.isConnected = false) (hs : c.socket.isOpen = false)
    {e : Error} (hfail : after.1 = .error e) : RolledBack world c after.2 := by
  cases h with
  | made => cases hfail
  | unresolved unknown =>
    exact ⟨rfl, hs, hc, fun _ => rfl, fun info ch huses => absurd huses (unknown info)⟩
  | unreached uses nobody =>
    refine ⟨rfl, Socket.isOpen_closed _, hc, fun _ => Socket.closed_of_not_isOpen hs, ?_⟩
    intro info' ch huses hreached
    rw [← uses.unique huses] at hreached
    exact absurd hreached (nobody ch)
  | @denied info ch ch' part e uses reached unmet greets sent =>
    refine ⟨rfl, Socket.isOpen_closed _, hc, ?_, ?_⟩
    · intro hnobody
      exact absurd reached (hnobody info ch uses)
    · intro info' ch'' huses hreached
      rw [← uses.unique huses] at hreached ⊢
      rw [← reached.unique hreached]
      refine ⟨ch'.shut, part, ?_, rfl, sent, greets⟩
      rw [Socket.closed_of_not_isOpen hs]
      rfl

/-- From every state, a refused connection is rolled back, and neither connecting nor disconnecting
a context a second time changes anything: the connection that there is can be used as before. -/
theorem lifecycle_failures_atomic (world : Outside) (h : Reachable c) :
    (c.isConnected = false → ∀ e, ((connect world).on c).1 = .error e →
      RolledBack world c ((connect world).on c).2) ∧
    (c.isConnected = true → (connect world).on c = (.error .alreadyConnected, c) ∧
      c.socket.isOpen = true ∧
      ∀ i : Invocation, (i.act.on ((connect world).on c).2).1 ≠ .error .notConnected) ∧
    (c.isConnected = false → disconnect.on c = (.error .notConnected, c)) := by
  obtain ⟨supplied, hsound⟩ := h.sound
  refine ⟨fun hc e hfail => ?_, fun hc => ?_, fun hc => ?_⟩
  · exact (connecting world hc).rolledBack hc (hsound.isOpen.trans hc) hfail
  · have hagain : (connect world).on c = (.error .alreadyConnected, c) := by
      rw [on_connect, if_pos hc]
    obtain ⟨d, hd⟩ := Option.isSome_iff_exists.mp hc
    rw [hagain]
    exact ⟨rfl, hsound.isOpen.trans hc, (hsound.calls_not_refused hd).2.2.2⟩
  · simp [disconnect, Operation.on_bind, hc]

/-- A context that was connected and disconnected before is denied access with a password. -/
theorem lifecycle_failures_atomic_denied :
    let info : DeviceInfo := { sampleDevice with password := some "ab" }
    let ch : Channel := { turns := [{ bytes := [0] }] }
    let world : Outside := { sampleWorld with dial := fun _ _ _ => .ok ch }
    let used := Step.run [.connect sampleWorld, .act (.invoke .raw), .disconnect]
      ((Context.new sampleSettings {}).withInfo sampleDevice)
    let c := used.withInfo info
    let after := (connect world).on c
    Reachable c ∧ c.isConnected = false ∧ after.1 = .error .accessDenied ∧
      RolledBack world c after.2 ∧ after.2.socket.retired.length = 2 := by
  intro info ch world used c after
  have hreachable : Reachable c :=
    ((((Reachable.new sampleSettings {}).withInfo sampleDevice).run _).withInfo info)
  have hc : c.isConnected = false := by decide
  have hfail : after.1 = .error .accessDenied := rfl
  have hback := (lifecycle_failures_atomic world hreachable).1 hc _ hfail
  exact ⟨hreachable, hc, hfail, hback, by decide⟩

/-! ## The protocol channel -/

theorem Connecting.status {world : Outside} {after : Except Error Unit × Context}
    (h : Connecting world c after) {e : Error} (hfail : after.1 = .error e) :
    (∃ info, c.Uses info) ∧ after.2.protocolStatus = e.hresult ∨
      (∀ info, ¬ c.Uses info) ∧ after.2 = c := by
  cases h with
  | made => cases hfail
  | unresolved unknown => exact Or.inr ⟨unknown, rfl⟩
  | unreached uses =>
    cases hfail
    exact Or.inl ⟨⟨_, uses⟩, rfl⟩
  | denied uses =>
    cases hfail
    exact Or.inl ⟨⟨_, uses⟩, rfl⟩

/-- The protocol channel tells why a context could not be connected exactly if there is information
about the device, or if it happens to hold that very code already: without information nothing is
recorded. -/
theorem status_of_refused_iff (world : Outside) (hc : c.isConnected = false) {e : Error}
    (hfail : ((connect world).on c).1 = .error e) :
    ((connect world).on c).2.protocolStatus = e.hresult ↔
      (∃ info, c.Uses info) ∨ c.protocolStatus = e.hresult := by
  rcases (connecting world hc).status hfail with ⟨hknown, hstatus⟩ | ⟨hunknown, hsame⟩
  · exact ⟨fun _ => Or.inl hknown, fun _ => hstatus⟩
  · rw [hsame]
    constructor
    · intro hstatus
      exact Or.inr hstatus
    · rintro (⟨info, huses⟩ | hstatus)
      · exact absurd huses (hunknown info)
      · exact hstatus

/-- A device whose manager has not been recorded is known but not reached, and the channel says so.
-/
theorem status_of_refused_iff_unmanaged :
    let c := (Context.new sampleSettings {}).withInfo {}
    c.isConnected = false ∧
      ((connect sampleWorld).on c).1 = .error (.resolution .noManager) ∧
      ((connect sampleWorld).on c).2.protocolStatus = Status.fail := by
  intro c
  have hfail : ((connect sampleWorld).on c).1 = .error (.resolution .noManager) := rfl
  have hknown : ∃ info, c.Uses info := ⟨{}, Or.inl rfl⟩
  exact ⟨rfl, hfail, (status_of_refused_iff sampleWorld rfl hfail).mpr (Or.inl hknown)⟩

/-- A context that knows no device at all is refused, and its channel still holds what it was built
with. -/
theorem not_status_of_refused :
    ¬ ∀ (world : Outside) (c : Context) (e : Error), c.isConnected = false →
      ((connect world).on c).1 = .error e →
      ((connect world).on c).2.protocolStatus = e.hresult := by
  intro h
  have hstatus := h sampleWorld ((Context.new sampleSettings {}).withResolver (.fixed []))
    (.resolution (.noMatch .default)) rfl rfl
  revert hstatus
  decide

end Context

end PocketLink
