import PocketLink.Proofs.Context.Connection

/-!
# Making a connection

What a connection is made of follows from the transport tag of the device. A device without a tag,
or with one that starts with `ppp`, is dialled, the devices of the known brokers are handed over,
and every other device is reached by its proxy socket. Who is reached then has to accept the
deadline and, if it was dialled and has a password, the password.

What connecting does is said once, in `Connecting`, by the four ways in which it can go. Everything
else that is known of it is derived from that.
-/

namespace PocketLink

/-! ## Transport tags -/

namespace DeviceInfo

/-- The device is dialled directly. -/
def IsDialled (info : DeviceInfo) : Prop :=
  info.transport = none ∨ ∃ rest, info.transport = some ("ppp" ++ rest)

/-- A broker hands the connection to the device over. -/
def IsHandedOver (info : DeviceInfo) : Prop :=
  ∃ tag ∈ ["udev", "hal", "odccm", "broker"], info.transport = some tag

/-- The device has a password that it is to be sent. -/
def AsksFor (info : DeviceInfo) (password : String) : Prop :=
  info.IsDialled ∧ info.password = some password ∧ password ≠ ""

theorem startsWith_ppp_iff {tag : String} :
    ['p', 'p', 'p'].isPrefixOf tag.toList = true ↔ ∃ rest, tag = "ppp" ++ rest := by
  rw [List.isPrefixOf_iff_prefix]
  constructor
  · rintro ⟨rest, hrest⟩
    have hlist : (String.ofList rest).toList = rest := String.toList_ofList
    refine ⟨String.ofList rest, String.toList_inj.mp ?_⟩
    rw [String.toList_append, hlist]
    exact hrest.symm
  · rintro ⟨rest, rfl⟩
    rw [String.toList_append]
    exact List.prefix_append _ _

variable {info : DeviceInfo}

theorem isDialled_iff : info.IsDialled ↔ info.transportKind = .legacy := by
  unfold IsDialled transportKind TransportKind.ofTag
  cases info.transport with
  | none => simp
  | some tag =>
    simp only [reduceCtorEq, Option.some.injEq, false_or, ← startsWith_ppp_iff]
    by_cases hppp : ['p', 'p', 'p'].isPrefixOf tag.toList = true
    · simp [hppp]
    · rw [if_neg hppp]
      constructor
      · intro h
        exact absurd h hppp
      · intro h
        split at h <;> cases h

theorem isHandedOver_iff : info.IsHandedOver ↔ info.transportKind = .broker := by
  unfold IsHandedOver transportKind TransportKind.ofTag
  cases info.transport with
  | none => simp
  | some tag =>
    simp only [Option.some.injEq]
    constructor
    · rintro ⟨_, htag, rfl⟩
      -- None of the tags of the brokers starts with `ppp`.
      have hppp : ¬ ['p', 'p', 'p'].isPrefixOf tag.toList = true := by
        revert tag
        decide
      have hknown : tag ∈ TransportKind.brokerTags := htag
      rw [if_neg hppp, if_pos hknown]
    · intro h
      split at h
      · cases h
      · split at h
        · next htag => exact ⟨tag, htag, rfl⟩
        · cases h

end DeviceInfo

/-! ## The password challenge -/

/-- The device accepts a password: the challenge for it can be encoded and sent, and what the device
then says first is a byte other than zero. -/
def Channel.Accepts (ch : Channel) (password : String) (key : UInt8) : Prop :=
  ∃ frame, Password.challenge password key = .ok frame ∧ ch.outgoing.HasRoom frame.length ∧
    ∃ reply rest, ch.takeTurn.incoming.bytes = reply :: rest ∧ reply ≠ 0

namespace Context

variable {s : Socket} {ch : Channel}

/-- What a device says first to what it was sent. -/
def verdict (bytes : List UInt8) : Operation Socket Error (List UInt8) := do
  Socket.writeAll bytes
  Socket.readExact 1

/-- A verdict is had exactly if everything could be sent and something was said. -/
theorem on_verdict (hc : s.current = some ch) (bytes : List UInt8) :
    ∃ ch' part, ch'.sent = ch.sent ++ part ∧ part <+: bytes ∧
      ((∃ reply rest, ch.outgoing.HasRoom bytes.length ∧ part = bytes ∧
          ch.takeTurn.incoming.bytes = reply :: rest ∧
          (verdict bytes).on s = (.ok [reply], s.holding ch')) ∨
        ¬ (ch.outgoing.HasRoom bytes.length ∧ ch.takeTurn.incoming.bytes ≠ []) ∧
          ∃ e, (verdict bytes).on s = (.error e, s.holding ch')) := by
  obtain ⟨out, part, htaken, hpart, hwrite⟩ := ch.on_writeAll bytes
  rcases hwrite with ⟨hroom, rfl, hsent⟩ | ⟨hroom, hsent⟩
  · -- Everything is sent, so what is read is what the device says after its turn.
    obtain ⟨hsent', hincoming⟩ := ch.takeTurn_outgoing out
    generalize { ch with outgoing := out }.takeTurn = turned at hsent hsent' hincoming
    have hwrite : (Socket.writeAll part).on s = (.ok (), s.holding turned) := by
      rw [Socket.writeAll, Socket.on_onChannel hc, hsent]
      rfl
    obtain ⟨ch', hsent'', hread⟩ := Socket.on_readExact_one (s := s.holding turned) rfl
    rw [hincoming] at hread
    refine ⟨ch', part, hsent''.trans (hsent'.trans htaken), hpart, ?_⟩
    rw [verdict, Operation.on_bind_ok hwrite]
    cases hbytes : ch.takeTurn.incoming.bytes with
    | nil =>
      rw [hbytes] at hread
      exact Or.inr ⟨fun h => h.2 rfl, _, hread⟩
    | cons reply rest =>
      rw [hbytes] at hread
      exact Or.inl ⟨reply, rest, hroom, rfl, rfl, hread⟩
  · have hwrite : (Socket.writeAll bytes).on s =
        (.error (.transport ch.outgoing.refusal), s.holding { ch with outgoing := out }) := by
      rw [Socket.writeAll, Socket.on_onChannel hc, hsent]
      rfl
    refine ⟨{ ch with outgoing := out }, part, htaken, hpart, Or.inr ⟨fun h => hroom h.1, ?_⟩⟩
    exact ⟨_, Operation.on_bind_error hwrite⟩

section Challenge

variable {password : String} {key : UInt8} {frame : List UInt8} {t : Socket}

/-- A challenge that can be encoded is passed if the verdict is a byte other than zero. -/
theorem on_challenge_answered (hframe : Password.challenge password key = .ok frame)
    {reply : UInt8} (h : (verdict frame).on s = (.ok [reply], t)) :
    (challenge password key).on s = (if reply ≠ 0 then .ok () else .error .accessDenied, t) := by
  have hcaught :
      (tryCatch (verdict frame) fun _ => throw .accessDenied).on s = (.ok [reply], t) := by
    rw [Operation.on_tryCatch, h]
  rw [challenge, hframe]
  refine (Operation.on_bind_ok hcaught).trans ?_
  by_cases hzero : reply = 0
  · simp [Password.accepted, hzero]
  · simp [Password.accepted, hzero]

theorem on_challenge_unanswered (hframe : Password.challenge password key = .ok frame) {e : Error}
    (h : (verdict frame).on s = (.error e, t)) :
    (challenge password key).on s = (.error .accessDenied, t) := by
  have hcaught : (tryCatch (verdict frame) fun _ => throw .accessDenied).on s =
      (.error .accessDenied, t) := by
    rw [Operation.on_tryCatch, h]
    rfl
  rw [challenge, hframe]
  exact Operation.on_bind_error hcaught

end Challenge

/-- A challenge is passed exactly if the device accepts the password. On the way a part of its frame
is sent, and all of it if it is passed. -/
theorem on_challenge (hc : s.current = some ch) (password : String) (key : UInt8) :
    ∃ ch' part, ch'.sent = ch.sent ++ part ∧
      (ch.Accepts password key ∧ Password.challenge password key = .ok part ∧
          (challenge password key).on s = (.ok (), s.holding ch') ∨
        ¬ ch.Accepts password key ∧
          (part = [] ∨ ∃ frame, Password.challenge password key = .ok frame ∧ part <+: frame) ∧
          (challenge password key).on s = (.error .accessDenied, s.holding ch')) := by
  cases hframe : Password.challenge password key with
  | error cause =>
    have hnot : ¬ ch.Accepts password key := by
      rintro ⟨frame, hok, -⟩
      cases hframe.symm.trans hok
    refine ⟨ch, [], (List.append_nil _).symm, Or.inr ⟨hnot, Or.inl rfl, ?_⟩⟩
    rw [challenge, hframe, Socket.holding_current hc]
    rfl
  | ok frame =>
    have haccepts : ch.Accepts password key ↔ ch.outgoing.HasRoom frame.length ∧
        ∃ reply rest, ch.takeTurn.incoming.bytes = reply :: rest ∧ reply ≠ 0 := by
      constructor
      · rintro ⟨frame', hok, hroom, hreply⟩
        cases hframe.symm.trans hok
        exact ⟨hroom, hreply⟩
      · rintro ⟨hroom, hreply⟩
        exact ⟨frame, hframe, hroom, hreply⟩
    obtain ⟨ch', part, hsent, hpart, hverdict⟩ := on_verdict hc frame
    refine ⟨ch', part, hsent, ?_⟩
    rw [haccepts]
    rcases hverdict with ⟨reply, rest, hroom, rfl, hbytes, hon⟩ | ⟨hnot, e, hon⟩
    · by_cases hzero : reply = 0
      · refine Or.inr ⟨?_, Or.inr ⟨part, rfl, hpart⟩, ?_⟩
        · rintro ⟨-, reply', rest', hbytes', hne⟩
          cases hbytes.symm.trans hbytes'
          exact hne hzero
        · rw [on_challenge_answered hframe hon, if_neg fun h => h hzero]
      · refine Or.inl ⟨⟨hroom, reply, rest, hbytes, hzero⟩, rfl, ?_⟩
        rw [on_challenge_answered hframe hon, if_pos hzero]
    · refine Or.inr ⟨?_, Or.inr ⟨frame, rfl, hpart⟩, ?_⟩
      · rintro ⟨hroom, reply, rest, hbytes, -⟩
        exact hnot ⟨hroom, by rw [hbytes]; exact List.cons_ne_nil reply rest⟩
      · exact on_challenge_unanswered hframe hon

/-! ## Reaching a device -/

/-- Who is reached when a connection to a device is made. -/
inductive Reached (world : Outside) (broker : Broker) (settings : Settings) (info : DeviceInfo)
    (ch : Channel) : Prop
  /-- The device answers at its address. -/
  | dialled {pid : UInt32} {address : String} (kind : info.IsDialled)
      (manager : info.managerPid = some pid) (alive : world.isAlive pid = true)
      (located : info.deviceIp = some address)
      (answers : world.dial address settings.port settings.connectTimeout = .ok ch)
  /-- The broker hands a stream over. -/
  | handedOver (kind : info.IsHandedOver) (answers : broker.request world info = .ok (.stream ch))
  /-- The proxy of the device answers at its socket. -/
  | proxied {pid : UInt32} {address : String} (undialled : ¬ info.IsDialled)
      (unbrokered : ¬ info.IsHandedOver)
      (manager : info.managerPid = some pid) (alive : world.isAlive pid = true)
      (located : info.deviceIp = some address) (named : address ≠ "" ∧ '/' ∉ address.toList)
      (answers : world.connectProxy (settings.proxyDir.join (address ++ ".sock")) = .ok ch)

/-- Who is reached, or why nobody is. -/
def reach (world : Outside) (broker : Broker) (settings : Settings) (info : DeviceInfo) :
    Except Error Channel :=
  match info.transportKind with
  | .legacy => do
    let address ← managedAddress world info
    (world.dial address settings.port settings.connectTimeout).mapError Error.transport
  | .broker => do
    let descriptor ← broker.request world info
    Socket.channelOf descriptor
  | .proxy => do
    let address ← managedAddress world info
    if Socket.isProxyIdentifier address then
      (world.connectProxy (settings.proxyDir.join (address ++ ".sock"))).mapError Error.transport
    else .error (.invalidArgument .proxyIdentifier)

theorem managedAddress_eq_ok_iff {world : Outside} {info : DeviceInfo} {address : String} :
    managedAddress world info = .ok address ↔
      ∃ pid, info.managerPid = some pid ∧ world.isAlive pid = true ∧
        info.deviceIp = some address := by
  unfold managedAddress deviceAddress
  cases info.managerPid with
  | none => simp
  | some pid =>
    by_cases halive : world.isAlive pid = true
    · cases info.deviceIp <;> simp [halive]
    · simp [halive]

section Reach

variable {world : Outside} {broker : Broker} {settings : Settings} {info : DeviceInfo}

theorem reach_eq_ok_iff :
    reach world broker settings info = .ok ch ↔ Reached world broker settings info ch := by
  unfold reach
  constructor
  · intro h
    split at h
    · next hkind =>
      obtain ⟨address, haddress, hdial⟩ := Operation.bind_eq_ok_iff.mp h
      obtain ⟨pid, hpid, halive, hip⟩ := managedAddress_eq_ok_iff.mp haddress
      exact .dialled (DeviceInfo.isDialled_iff.mpr hkind) hpid halive hip
        (Operation.mapError_eq_ok_iff.mp hdial)
    · next hkind =>
      obtain ⟨descriptor, hrequest, hchannel⟩ := Operation.bind_eq_ok_iff.mp h
      rw [Socket.channelOf_eq_ok_iff.mp hchannel] at hrequest
      exact .handedOver (DeviceInfo.isHandedOver_iff.mpr hkind) hrequest
    · next hkind =>
      obtain ⟨address, haddress, hproxy⟩ := Operation.bind_eq_ok_iff.mp h
      obtain ⟨pid, hpid, halive, hip⟩ := managedAddress_eq_ok_iff.mp haddress
      split at hproxy
      · next hname =>
        refine .proxied ?_ ?_ hpid halive hip ?_ (Operation.mapError_eq_ok_iff.mp hproxy)
        · simp [DeviceInfo.isDialled_iff, hkind]
        · simp [DeviceInfo.isHandedOver_iff, hkind]
        · simpa [Socket.isProxyIdentifier] using hname
      · cases hproxy
  · intro h
    cases h with
    | dialled kind manager alive located answers =>
      rw [DeviceInfo.isDialled_iff.mp kind]
      have haddress := managedAddress_eq_ok_iff.mpr ⟨_, manager, alive, located⟩
      exact Operation.bind_eq_ok_iff.mpr ⟨_, haddress, Operation.mapError_eq_ok_iff.mpr answers⟩
    | handedOver kind answers =>
      rw [DeviceInfo.isHandedOver_iff.mp kind]
      exact Operation.bind_eq_ok_iff.mpr ⟨_, answers, rfl⟩
    | proxied undialled unbrokered manager alive located named answers =>
      have hkind : info.transportKind = .proxy := by
        rw [DeviceInfo.isDialled_iff] at undialled
        rw [DeviceInfo.isHandedOver_iff] at unbrokered
        cases hk : info.transportKind with
        | legacy => exact absurd hk undialled
        | broker => exact absurd hk unbrokered
        | proxy => rfl
      rw [hkind]
      have haddress := managedAddress_eq_ok_iff.mpr ⟨_, manager, alive, located⟩
      refine Operation.bind_eq_ok_iff.mpr ⟨_, haddress, ?_⟩
      rw [if_pos (by simpa [Socket.isProxyIdentifier] using named)]
      exact Operation.mapError_eq_ok_iff.mpr answers

/-- At most one connection is made. -/
theorem Reached.unique {ch' : Channel} (h : Reached world broker settings info ch)
    (h' : Reached world broker settings info ch') : ch = ch' := by
  have heq := (reach_eq_ok_iff.mpr h).symm.trans (reach_eq_ok_iff.mpr h')
  cases heq
  rfl

end Reach

end Context

/-! ## Greeting a device -/

namespace DeviceInfo

/-- Who is reached lets a context in: if the device is to be sent a password, it accepts it. -/
def LetsIn (info : DeviceInfo) (ch : Channel) : Prop :=
  ∀ password, info.AsksFor password → ch.Accepts password info.key

/-- The bytes with which a device is greeted: the challenge for its password, or nothing. -/
inductive Greeting (info : DeviceInfo) : List UInt8 → Prop
  | challenge {password : String} {frame : List UInt8} (asked : info.AsksFor password)
      (encoded : Password.challenge password info.key = .ok frame) : Greeting info frame
  | nothing (unasked : ∀ password, ¬ info.AsksFor password) : Greeting info []

/-- The dialect that a device is to be spoken to in. -/
structure Speaks (info : DeviceInfo) (d : Dialect) : Prop where
  dialled : info.IsDialled → d = .v1
  other : ¬ info.IsDialled → (d = .v2 ↔ 4 < info.osMajor ∧ 0 < info.osMinor)

end DeviceInfo

namespace Context

/-- What is done with a connection that was made, before it is used. -/
def greet (settings : Settings) (info : DeviceInfo) : Operation Socket Error Dialect := do
  Socket.setTimeout settings.ioTimeout
  match info.transportKind with
  | .legacy =>
    match info.password with
    | some password => if password ≠ "" then challenge password info.key
    | none => pure ()
    return .v1
  | .broker | .proxy => return Dialect.ofVersion info.osMajor info.osMinor

section Greet

variable {settings : Settings} {info : DeviceInfo}

/-- A device that has no password to be sent is greeted in its dialect. -/
theorem on_greet_unasked (hc : s.current = some ch) (hdeadline : settings.ioTimeout ≠ some 0)
    (h : ∀ password, ¬ info.AsksFor password) :
    ∃ d, info.Speaks d ∧ (greet settings info).on s = (.ok d, s) := by
  have htimeout := Socket.on_setTimeout hc settings.ioTimeout
  rw [if_neg hdeadline] at htimeout
  unfold greet
  rw [Operation.on_bind_ok htimeout]
  by_cases hdial : info.IsDialled
  · rw [DeviceInfo.isDialled_iff.mp hdial]
    refine ⟨.v1, ⟨fun _ => rfl, fun hother => absurd hdial hother⟩, ?_⟩
    cases hpassword : info.password with
    | none => rfl
    | some password =>
      by_cases hempty : password = ""
      · subst hempty
        rfl
      · exact absurd ⟨hdial, hpassword, hempty⟩ (h password)
  · refine ⟨Dialect.ofVersion info.osMajor info.osMinor, ⟨fun h' => absurd h' hdial, fun _ =>
      Dialect.ofVersion_eq_v2_iff⟩, ?_⟩
    rw [DeviceInfo.isDialled_iff] at hdial
    cases hkind : info.transportKind with
    | legacy => exact absurd hkind hdial
    | broker => rfl
    | proxy => rfl

/-- A device that is to be sent a password is greeted with the challenge for it. -/
theorem on_greet_asked (hc : s.current = some ch) (hdeadline : settings.ioTimeout ≠ some 0)
    {password : String} (h : info.AsksFor password) :
    (greet settings info).on s = (challenge password info.key >>= fun _ => pure .v1).on s := by
  obtain ⟨hdial, hpassword, hempty⟩ := h
  have htimeout := Socket.on_setTimeout hc settings.ioTimeout
  rw [if_neg hdeadline] at htimeout
  unfold greet
  rw [Operation.on_bind_ok htimeout, DeviceInfo.isDialled_iff.mp hdial, hpassword]
  simp only [ne_eq, hempty, not_false_eq_true, if_true]

theorem asksFor_unique {password other : String} (h : info.AsksFor password)
    (h' : info.AsksFor other) : password = other := by
  obtain ⟨-, hpassword, -⟩ := h
  obtain ⟨-, hother, -⟩ := h'
  cases hpassword.symm.trans hother
  rfl

/-- Whoever is reached is greeted in full exactly if the deadline is accepted and the context is let
in. Otherwise at most a part of the greeting is sent. -/
theorem on_greet (settings : Settings) (info : DeviceInfo) (hc : s.current = some ch) :
    ∃ ch' part, ch'.sent = ch.sent ++ part ∧
      (settings.ioTimeout ≠ some 0 ∧ info.LetsIn ch ∧ info.Greeting part ∧
          (∃ d, info.Speaks d ∧ (greet settings info).on s = (.ok d, s.holding ch')) ∨
        ¬ (settings.ioTimeout ≠ some 0 ∧ info.LetsIn ch) ∧
          (part = [] ∨ ∃ greeting, info.Greeting greeting ∧ part <+: greeting) ∧
          ∃ e, (greet settings info).on s = (.error e, s.holding ch')) := by
  by_cases hdeadline : settings.ioTimeout = some 0
  · have htimeout := Socket.on_setTimeout hc settings.ioTimeout
    rw [if_pos hdeadline] at htimeout
    refine ⟨ch, [], (List.append_nil _).symm, Or.inr ⟨fun h => h.1 hdeadline, Or.inl rfl, ?_⟩⟩
    refine ⟨.transport .zeroTimeout, ?_⟩
    rw [Socket.holding_current hc]
    exact Operation.on_bind_error htimeout
  by_cases hasked : ∃ password, info.AsksFor password
  · obtain ⟨password, hasks⟩ := hasked
    have hiff : info.LetsIn ch ↔ ch.Accepts password info.key := by
      constructor
      · intro h
        exact h password hasks
      · intro h other hother
        rw [← asksFor_unique hasks hother]
        exact h
    obtain ⟨ch', part, hsent, ⟨haccepts, hframe, hok⟩ | ⟨hnot, hpart, hfail⟩⟩ :=
      on_challenge hc password info.key
    · refine ⟨ch', part, hsent, Or.inl ⟨hdeadline, hiff.mpr haccepts, .challenge hasks hframe, ?_⟩⟩
      refine ⟨.v1, ⟨fun _ => rfl, fun hother => absurd hasks.1 hother⟩, ?_⟩
      rw [on_greet_asked hc hdeadline hasks, Operation.on_bind_ok hok]
      rfl
    · refine ⟨ch', part, hsent, Or.inr ⟨fun h => hnot (hiff.mp h.2), ?_, .accessDenied, ?_⟩⟩
      · rcases hpart with hnone | ⟨frame, hframe, hprefix⟩
        · exact Or.inl hnone
        · exact Or.inr ⟨frame, .challenge hasks hframe, hprefix⟩
      · rw [on_greet_asked hc hdeadline hasks]
        exact Operation.on_bind_error hfail
  · have hnobody : ∀ password, ¬ info.AsksFor password := fun password h => hasked ⟨password, h⟩
    obtain ⟨d, hspeaks, hok⟩ := on_greet_unasked hc hdeadline hnobody
    have hin : info.LetsIn ch := fun password h => absurd h (hnobody password)
    refine ⟨ch, [], (List.append_nil _).symm, Or.inl ⟨hdeadline, hin, .nothing hnobody, d, ?_⟩⟩
    rw [Socket.holding_current hc]
    exact ⟨hspeaks, hok⟩

end Greet

/-- Every way to make a connection looks something up, opens the socket with it, and goes on. -/
theorem on_opening {α : Type} (answer : Except Error α) (find : α → Except Error Channel)
    (next : Operation Socket Error Dialect) (s : Socket) :
    match answer >>= find with
    | .ok ch => (do Socket.replace (find (← establish.liftExcept answer)); next).on s =
        next.on (s.closed.holding ch)
    | .error e => ∃ t, t.closed = s.closed ∧
        (do Socket.replace (find (← establish.liftExcept answer)); next).on s = (.error e, t) := by
  cases answer with
  | error e => exact ⟨s, rfl, rfl⟩
  | ok a =>
    have hfound : ((.ok a : Except Error α) >>= find) = find a := rfl
    have hreplace := Socket.on_replace (find a) s
    rw [hfound]
    cases hfind : find a with
    | error e =>
      rw [hfind] at hreplace
      refine ⟨s.closed, s.closed_closed, ?_⟩
      simp only [establish.liftExcept, pure_bind, hfind]
      exact Operation.on_bind_error hreplace
    | ok ch =>
      rw [hfind] at hreplace
      simp only [establish.liftExcept, pure_bind, hfind]
      exact Operation.on_bind_ok hreplace

/-- Whoever is reached is greeted over the connection to it. -/
theorem on_establish (world : Outside) (broker : Broker) (settings : Settings) (info : DeviceInfo)
    (s : Socket) :
    match reach world broker settings info with
    | .ok ch => (establish world broker settings info).on s =
        (greet settings info).on (s.closed.holding ch)
    | .error e => ∃ t, t.closed = s.closed ∧
        (establish world broker settings info).on s = (.error e, t) := by
  unfold establish greet reach
  cases hkind : info.transportKind with
  | legacy => exact on_opening _ _ _ s
  | broker => exact on_opening _ _ _ s
  | proxy => exact on_opening _ _ _ s

/-! ## Connecting -/

/-- The information that a context connects with: what it was supplied with, or else what is
resolved. -/
def Uses (c : Context) (info : DeviceInfo) : Prop :=
  c.info = some info ∨ c.info = none ∧ c.resolver.resolve c.selector = .ok info

/-- The ways in which connecting a context can go. -/
inductive Connecting (world : Outside) (c : Context) : Except Error Unit × Context → Prop
  /-- A connection is made. -/
  | made {info : DeviceInfo} {ch ch' : Channel} {greeting : List UInt8} {d : Dialect}
      (uses : c.Uses info) (reached : Reached world c.broker c.settings info ch)
      (deadline : c.settings.ioTimeout ≠ some 0) (letsIn : info.LetsIn ch)
      (greets : info.Greeting greeting) (sent : ch'.sent = ch.sent ++ greeting)
      (speaks : info.Speaks d) :
      Connecting world c (.ok (), connected { c with socket := c.socket.closed.holding ch' } info d)
  /-- There is no information about the device. -/
  | unresolved {e : Error} (unknown : ∀ info, ¬ c.Uses info) : Connecting world c (.error e, c)
  /-- Nobody is reached. -/
  | unreached {info : DeviceInfo} {e : Error} (uses : c.Uses info)
      (nobody : ∀ ch, ¬ Reached world c.broker c.settings info ch) :
      Connecting world c (.error e, refused c e)
  /-- Who is reached does not get the greeting that it needs. -/
  | denied {info : DeviceInfo} {ch ch' : Channel} {part : List UInt8} {e : Error}
      (uses : c.Uses info) (reached : Reached world c.broker c.settings info ch)
      (unmet : ¬ (c.settings.ioTimeout ≠ some 0 ∧ info.LetsIn ch))
      (greets : part = [] ∨ ∃ greeting, info.Greeting greeting ∧ part <+: greeting)
      (sent : ch'.sent = ch.sent ++ part) :
      Connecting world c (.error e, refused { c with socket := c.socket.closed.holding ch' } e)

section Connect

variable {world : Outside} {c : Context} {info : DeviceInfo}

theorem infoToUse_eq_ok_iff : c.infoToUse = .ok info ↔ c.Uses info := by
  unfold infoToUse Uses
  cases c.info <;> simp

theorem Uses.unique {other : DeviceInfo} (h : c.Uses info) (h' : c.Uses other) : info = other := by
  have heq := (infoToUse_eq_ok_iff.mpr h).symm.trans (infoToUse_eq_ok_iff.mpr h')
  cases heq
  rfl

/-- A context that is not connected goes one of the four ways when it is to be connected. -/
theorem connecting (world : Outside) (hc : c.isConnected = false) :
    Connecting world c ((connect world).on c) := by
  have hnot : ¬ c.isConnected = true := by
    rw [hc]
    exact Bool.false_ne_true
  rw [on_connect, if_neg hnot]
  cases huse : c.infoToUse with
  | error e =>
    refine .unresolved fun info huses => ?_
    cases huse.symm.trans (infoToUse_eq_ok_iff.mpr huses)
  | ok info =>
    have huses := infoToUse_eq_ok_iff.mp huse
    have hestablish := on_establish world c.broker c.settings info c.socket
    cases hreach : reach world c.broker c.settings info with
    | error e =>
      rw [hreach] at hestablish
      obtain ⟨t, hclosed, hon⟩ := hestablish
      simp only [hon, refused, hclosed]
      refine .unreached huses fun ch hreached => ?_
      cases hreach.symm.trans (reach_eq_ok_iff.mpr hreached)
    | ok ch =>
      rw [hreach] at hestablish
      simp only at hestablish
      have hreached := reach_eq_ok_iff.mp hreach
      obtain ⟨ch', part, hsent, hgreet⟩ :=
        on_greet c.settings info (s := c.socket.closed.holding ch) rfl
      rcases hgreet with ⟨hdeadline, hin, hgreeting, d, hspeaks, hok⟩ | ⟨hunmet, hpart, e, hfail⟩
      · simp only [hestablish.trans hok]
        exact .made huses hreached hdeadline hin hgreeting hsent hspeaks
      · simp only [hestablish.trans hfail]
        exact .denied huses hreached hunmet hpart hsent

/-- Through the usual broker a device is reached exactly if one descriptor is handed over, and that
is a stream. -/
theorem reached_ofDevice_iff {settings : Settings} {ch : Channel} (hkind : info.IsHandedOver) :
    Reached world Broker.ofDevice settings info ch ↔
      ∃ path, info.brokerSocket = some path ∧ world.askBroker path = .ok [.stream ch] := by
  have hrequest : Broker.ofDevice.request world info = .ok (.stream ch) ↔
      ∃ path, info.brokerSocket = some path ∧ world.askBroker path = .ok [.stream ch] := by
    simp only [Broker.ofDevice, Operation.mapError_eq_ok_iff, Broker.handover]
    cases info.brokerSocket with
    | none => simp
    | some path =>
      cases hask : world.askBroker path with
      | error cause => simp [hask]
      | ok descriptors => simp [hask, Broker.single_eq_ok_iff]
  rw [← hrequest]
  constructor
  · intro h
    cases h with
    | dialled kind =>
      rw [DeviceInfo.isDialled_iff, DeviceInfo.isHandedOver_iff.mp hkind] at kind
      cases kind
    | handedOver kind answers => exact answers
    | proxied undialled unbrokered => exact absurd hkind unbrokered
  · exact .handedOver hkind

theorem Connecting.ok_iff {after : Except Error Unit × Context} (h : Connecting world c after) :
    after.1 = .ok () ↔ ∃ info ch, c.Uses info ∧ Reached world c.broker c.settings info ch ∧
      c.settings.ioTimeout ≠ some 0 ∧ info.LetsIn ch := by
  cases h with
  | made uses reached deadline letsIn =>
    exact ⟨fun _ => ⟨_, _, uses, reached, deadline, letsIn⟩, fun _ => rfl⟩
  | unresolved unknown =>
    refine ⟨fun h => (by cases h), ?_⟩
    rintro ⟨info, ch, uses, -⟩
    exact absurd uses (unknown info)
  | unreached uses nobody =>
    refine ⟨fun h => (by cases h), ?_⟩
    rintro ⟨info', ch, uses', reached, -⟩
    rw [← uses.unique uses'] at reached
    exact absurd reached (nobody ch)
  | denied uses reached unmet =>
    refine ⟨fun h => (by cases h), ?_⟩
    rintro ⟨info', ch', uses', reached', met⟩
    rw [← uses.unique uses'] at reached' met
    rw [← reached.unique reached'] at met
    exact absurd met unmet

/-- A connection that was made is in the dialect of the device, and all that the device received
over it is its greeting. -/
theorem Connecting.greeted {after : Except Error Unit × Context} (h : Connecting world c after)
    (hok : after.1 = .ok ()) {ch : Channel} (huses : c.Uses info)
    (hreached : Reached world c.broker c.settings info ch) :
    (∃ d, after.2.dialect = some d ∧ info.Speaks d) ∧
      ∃ ch' greeting, after.2.socket.current = some ch' ∧ ch'.sent = ch.sent ++ greeting ∧
        info.Greeting greeting := by
  cases h with
  | made uses reached deadline letsIn greets sent speaks =>
    rw [uses.unique huses] at reached greets speaks ⊢
    rw [hreached.unique reached]
    unfold connected
    split
    · exact ⟨⟨_, rfl, speaks⟩, _, _, rfl, sent, greets⟩
    · exact ⟨⟨_, rfl, speaks⟩, _, _, rfl, sent, greets⟩
  | unresolved => cases hok
  | unreached => cases hok
  | denied => cases hok

/-- Connecting succeeds exactly if the device is known, is reached, accepts the deadline and lets
the context in. Then the dialect is that of the device, and all that it received is its greeting. -/
theorem connect_decides (world : Outside) {c : Context} (hc : c.isConnected = false) :
    let after := (connect world).on c
    (after.1 = .ok () ↔ ∃ info ch, c.Uses info ∧ Reached world c.broker c.settings info ch ∧
        c.settings.ioTimeout ≠ some 0 ∧ info.LetsIn ch) ∧
      (after.1 = .ok () → ∀ info ch, c.Uses info → Reached world c.broker c.settings info ch →
        (∃ d, after.2.dialect = some d ∧ (info.IsDialled → d = .v1) ∧
          (¬ info.IsDialled → (d = .v2 ↔ 4 < info.osMajor ∧ 0 < info.osMinor))) ∧
        ∃ ch' greeting, after.2.socket.current = some ch' ∧ ch'.sent = ch.sent ++ greeting ∧
          info.Greeting greeting) ∧
      (c.broker = Broker.ofDevice → ∀ info ch, info.IsHandedOver →
        (Reached world c.broker c.settings info ch ↔
          ∃ path, info.brokerSocket = some path ∧ world.askBroker path = .ok [.stream ch])) := by
  intro after
  have hway : Connecting world c after := connecting world hc
  refine ⟨hway.ok_iff, fun hok info ch huses hreached => ?_, fun hbroker info ch hkind => ?_⟩
  · obtain ⟨⟨d, hdialect, hspeaks⟩, hgreeted⟩ := hway.greeted hok huses hreached
    exact ⟨⟨d, hdialect, hspeaks.dialled, hspeaks.other⟩, hgreeted⟩
  · rw [hbroker]
    exact reached_ofDevice_iff hkind

/-- A dialled device with a password takes the challenge for it, answers one, and speaks the first
dialect whatever its version is. -/
theorem connect_decides_password :
    let info : DeviceInfo :=
      { sampleDevice with osMajor := 5, osMinor := 2, password := some "ab", key := 0x10 }
    let ch : Channel := { turns := [{ bytes := [1] }] }
    let world : Outside := { sampleWorld with dial := fun _ _ _ => .ok ch }
    let c := (Context.new sampleSettings {}).withInfo info
    let after := (connect world).on c
    c.isConnected = false ∧ after.1 = .ok () ∧ after.2.dialect = some .v1 ∧
      ∃ ch', after.2.socket.current = some ch' ∧
        ch'.sent = [0x06, 0x00, 0x71, 0x10, 0x72, 0x10, 0x10, 0x10] := by
  intro info ch world c after
  have hc : c.isConnected = false := rfl
  have hdialled : info.IsDialled := Or.inl rfl
  have hasked : info.AsksFor "ab" := ⟨hdialled, rfl, by decide⟩
  have hframe : Password.challenge "ab" 0x10 =
      .ok [0x06, 0x00, 0x71, 0x10, 0x72, 0x10, 0x10, 0x10] := by rfl
  have huses : c.Uses info := Or.inl rfl
  have hreached : Reached world c.broker c.settings info ch :=
    .dialled hdialled rfl (by decide : world.isAlive 1 = true) rfl rfl
  have hin : info.LetsIn ch := by
    intro password hother
    rw [asksFor_unique hother hasked]
    exact ⟨_, hframe, nofun, 1, [], by decide, by decide⟩
  obtain ⟨hiff, hmade, -⟩ := connect_decides world hc
  have hok : after.1 = .ok () := hiff.mpr ⟨info, ch, huses, hreached, by decide, hin⟩
  obtain ⟨⟨d, hd, hv1, -⟩, ch', greeting, hch', hsent, hgreeting⟩ :=
    hmade hok info ch huses hreached
  refine ⟨hc, hok, ?_, ch', hch', ?_⟩
  · rw [hd, hv1 hdialled]
  · cases hgreeting with
    | challenge asked encoded =>
      rw [asksFor_unique asked hasked] at encoded
      cases encoded.symm.trans hframe
      exact hsent
    | nothing unasked => exact absurd hasked (unasked "ab")

end Connect

end Context

end PocketLink
