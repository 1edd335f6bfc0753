import PocketLink.Proofs.Context.Establishing
import PocketLink.Proofs.Context.Replies
import PocketLink.Proofs.Resolver.Flattening

/-!
# Failures whose code is success

A failure and its code should agree, but two causes have success for their code: the status zero in
an envelope, and the error zero of a device. The first of them is never a failure, since an envelope
fails a call with a status other than zero only. The second one is, for a device that refuses a
request without saying why: the word that it refuses with fails the operation, and the last error
that it told before becomes the cause, also if that is zero.

Which operations this may happen to depends on how they are told to have failed. A status says why
by itself, and an end of file pointer is only taken for a failure if the last error is not zero; a
flag, a handle and attributes are taken for one whatever the last error is.
-/

namespace PocketLink

open Operation

/-! ## Codes of causes -/

namespace Error

/-- A failure that its code tells apart from success. -/
def Shows (e : Error) : Prop := e.hresult ≠ Status.ok

instance (e : Error) : Decidable e.Shows := inferInstanceAs (Decidable (e.hresult ≠ Status.ok))

theorem hresult_eq_ok_iff {e : Error} :
    e.hresult = Status.ok ↔ e = .protocol 0 ∨ e = .remote 0 := by
  cases e with
  | protocol status =>
    rw [protocol.injEq]
    exact ⟨Or.inl, fun h => h.resolve_right nofun⟩
  | remote code =>
    rw [remote.injEq]
    refine ⟨fun h => Or.inr ?_, ?_⟩
    · by_contra hcode
      exact Status.ofWin32_ne_ok hcode h
    · rintro (h | rfl)
      · cases h
      · rfl
  | wire cause => cases cause <;> simp [hresult, Status.ok, Status.fail, Status.outOfMemory]
  | _ =>
    simp [hresult, Status.ok, Status.fail, Status.ofWin32, Status.notConnected,
      Status.alreadyInitialized, Status.accessDenied, Status.noMoreDevices, Status.pathTooLong,
      Status.invalidArgument]

theorem shows_iff {e : Error} : e.Shows ↔ e ≠ .protocol 0 ∧ e ≠ .remote 0 := by
  rw [Shows, Ne, hresult_eq_ok_iff, not_or]

theorem shows_ofWire (cause : WireError) : (ofWire cause).Shows := by
  rw [shows_iff]
  cases cause <;> exact ⟨nofun, nofun⟩

theorem shows_transport (cause : IoError) : (transport cause).Shows := shows_iff.mpr ⟨nofun, nofun⟩

theorem shows_of_mapError {α : Type} {answer : Except IoError α} {e : Error}
    (h : answer.mapError transport = .error e) : e.Shows := by
  cases answer with
  | ok a => cases h
  | error cause =>
    cases h
    exact shows_transport cause

theorem shows_resolution (reason : ResolutionFailure) : (resolution reason).Shows :=
  shows_iff.mpr ⟨nofun, nofun⟩

/-- An outcome that is a failure, and has the code of success. -/
def IsMasked {α : Type} (outcome : Except Error α) : Prop :=
  ∃ e, outcome = .error e ∧ e.hresult = Status.ok

theorem isMasked_error {α : Type} {e : Error} :
    IsMasked (.error e : Except Error α) ↔ e.hresult = Status.ok := by
  constructor
  · rintro ⟨e', he, hcode⟩
    cases he
    exact hcode
  · exact fun hcode => ⟨e, rfl, hcode⟩

theorem not_isMasked_ok {α : Type} (a : α) : ¬ IsMasked (.ok a : Except Error α) := by
  rintro ⟨e, he, -⟩
  cases he

end Error

/-! ## Operations whose failures show -/

section Shows

variable {σ α : Type}

/-- An operation whose failures all show, from whatever state it starts. -/
def Operation.ShowsFailures (act : Operation σ Error α) : Prop :=
  Upholds (fun _ => True) Error.Shows act

theorem not_isMasked {act : Operation σ Error α} (h : act.ShowsFailures) (s : σ) :
    ¬ Error.IsMasked (act.on s).1 := by
  rintro ⟨e, he, hcode⟩
  exact h.failure trivial he hcode

/-- A change of the state does not fail. -/
theorem shows_modify (f : σ → σ) : ShowsFailures (modify f : Operation σ Error PUnit) :=
  upholds_modify fun _ _ => trivial

theorem shows_within {τ ε : Type} {part : τ → σ} {replace : σ → τ → τ} {failure : ε → Error}
    (act : Operation σ ε α) (h : ∀ e, (failure e).Shows) :
    ShowsFailures (Operation.within part replace failure act) :=
  upholds_within act (fun _ _ _ => trivial) h

theorem shows_part {τ : Type} {part : τ → σ} {replace : σ → τ → τ} {act : Operation σ Error α}
    (h : act.ShowsFailures) : ShowsFailures (Operation.within part replace id act) :=
  h.within (fun _ _ => trivial) (fun _ _ _ _ => trivial) fun _ he => he

end Shows

namespace Socket

theorem shows_onChannel {ε α : Type} {failure : ε → Error} (act : Operation Channel ε α)
    (h : ∀ e, (failure e).Shows) : ShowsFailures (onChannel failure act) := by
  refine upholds_get.bind fun s => ?_
  split
  · exact upholds_throw (by decide)
  · exact shows_within act h

theorem shows_recv (max : UInt32) : ShowsFailures (recv max) := by
  refine upholds_get.bind fun s => ?_
  split
  · exact upholds_throw (by decide)
  · exact shows_within _ Error.shows_ofWire

theorem shows_replace {answer : Except Error Channel} (h : ∀ e, answer = .error e → e.Shows) :
    ShowsFailures (replace answer) := by
  refine (shows_modify _).bind fun _ => ?_
  cases answer with
  | ok channel => exact shows_modify _
  | error e => exact upholds_throw (h e rfl)

end Socket

namespace Context

variable {α : Type} {c : Context} {d : Dialect} {r : Request}

/-! ## Calls -/

theorem shows_ensureConnected : ShowsFailures ensureConnected := by
  refine upholds_get.bind fun c => ?_
  split
  · exact upholds_pure _
  · exact (shows_modify _).bind fun _ => upholds_throw (by decide)

theorem shows_recording {act : Call α} (h : act.ShowsFailures) : ShowsFailures (recording act) :=
  h.attempt_bind upholds_pure fun _ he => (shows_modify _).bind fun _ => upholds_throw he

theorem shows_beginCommand (opcode : UInt32) : ShowsFailures (beginCommand opcode) :=
  shows_ensureConnected.bind fun _ => shows_recording (shows_within _ Error.shows_ofWire)

theorem shows_openEnvelope (d : Dialect) : ShowsFailures d.openEnvelope := by
  intro b _
  refine ⟨trivial, fun e he => ?_⟩
  obtain ⟨_, _, hok⟩ | ⟨err, bytes, _, hends, herr⟩ | ⟨cause, _, hwire⟩ :=
    d.parses_openEnvelope.outcome b
  · rw [hok] at he
    cases he
  · rw [herr] at he
    cases he
    cases d with
    | v1 =>
      -- An envelope ends a reply with a status other than zero only.
      obtain ⟨status, hstatus, rfl, -⟩ := hends
      exact Error.shows_iff.mpr ⟨fun heq => hstatus (Error.protocol.inj heq), nofun⟩
    | v2 => exact hends.elim
  · rw [hwire] at he
    cases he
    exact Error.shows_iff.mpr ⟨nofun, nofun⟩

theorem shows_exchange (d : Dialect) : ShowsFailures (exchange d) := by
  refine upholds_get.bind fun c => ?_
  refine (shows_part (Socket.shows_onChannel _ Error.shows_ofWire)).bind fun _ => ?_
  refine upholds_get.bind fun c' => ?_
  refine (shows_part (Socket.shows_recv _)).bind fun _ => ?_
  exact shows_part (shows_openEnvelope d)

theorem shows_call : ShowsFailures call := by
  refine shows_ensureConnected.bind fun d => (shows_modify _).bind fun _ => ?_
  refine (shows_exchange d).attempt_bind (fun _ => shows_modify _) fun e he => ?_
  exact (shows_modify _).bind fun _ => upholds_throw he

theorem shows_disconnect : ShowsFailures disconnect := by
  refine upholds_get.bind fun c => ?_
  split
  · exact shows_modify _
  · exact upholds_throw (by decide)

/-! ## Connecting -/

theorem shows_challenge (password : String) (key : UInt8) :
    ShowsFailures (challenge password key) := by
  have hdenied : Error.accessDenied.Shows := by decide
  unfold challenge
  split
  · exact upholds_throw hdenied
  · next bytes _ =>
    have hverdict : Upholds (fun _ => True) (fun _ => True) (verdict bytes) :=
      fun _ _ => ⟨trivial, fun _ _ => trivial⟩
    refine (hverdict.tryCatch fun _ => upholds_throw hdenied).bind fun reply => ?_
    split
    · split
      · exact upholds_pure ()
      · exact upholds_throw hdenied
    · exact upholds_throw hdenied

theorem shows_managedAddress (world : Outside) (info : DeviceInfo) :
    ShowsFailures (establish.liftExcept (managedAddress world info)) := by
  unfold managedAddress deviceAddress
  cases info.managerPid with
  | none => exact upholds_throw (Error.shows_resolution _)
  | some pid =>
    dsimp only
    split
    · cases info.deviceIp with
      | none => exact upholds_throw (Error.shows_resolution _)
      | some address => exact upholds_pure address
    · exact upholds_throw (Error.shows_resolution _)

theorem shows_setTimeout (timeout : Option UInt64) : ShowsFailures (Socket.setTimeout timeout) :=
  Socket.shows_onChannel _ Error.shows_transport

theorem shows_connect (world : Outside) (host : String) (port : UInt16) (timeout : Option UInt64) :
    ShowsFailures (Socket.connect world host port timeout) :=
  Socket.shows_replace fun _ he => Error.shows_of_mapError he

theorem shows_connectProxy (world : Outside) (dir : Path) (identifier : String) :
    ShowsFailures (Socket.connectProxy world dir identifier) := by
  refine Socket.shows_replace fun e he => ?_
  split at he
  · exact Error.shows_of_mapError he
  · cases he
    exact Error.shows_iff.mpr ⟨nofun, nofun⟩

theorem shows_adopt (descriptor : Descriptor) : ShowsFailures (Socket.adopt descriptor) := by
  refine Socket.shows_replace fun _ he => ?_
  cases descriptor with
  | stream channel => cases he
  | file | otherSocket =>
    cases he
    exact Error.shows_transport _

/-- Of all that makes a connection, only the broker can fail with the code of success. -/
theorem establish_isMasked_iff (world : Outside) (broker : Broker) (settings : Settings)
    (info : DeviceInfo) (s : Socket) :
    Error.IsMasked ((establish world broker settings info).on s).1 ↔
      info.IsHandedOver ∧ Error.IsMasked (broker.request world info) := by
  rw [DeviceInfo.isHandedOver_iff]
  unfold establish
  split
  · next hkind =>
    refine iff_of_false (not_isMasked ?_ s) (by simp [hkind])
    refine (shows_managedAddress world info).bind fun address => ?_
    refine (shows_connect _ _ _ _).bind fun _ => (shows_setTimeout _).bind fun _ => ?_
    split
    · split
      · exact (shows_challenge _ _).bind fun _ => upholds_pure _
      · exact upholds_pure _
    · exact upholds_pure _
  · next hkind =>
    rw [hkind, eq_self, true_and]
    match hrequest : broker.request world info with
    | .error e =>
      have hthrown : (establish.liftExcept (.error e : Except Error Descriptor)).on s =
          (.error e, s) := rfl
      rw [on_bind_error hthrown, Error.isMasked_error, Error.isMasked_error]
    | .ok descriptor =>
      refine iff_of_false (not_isMasked ?_ s) (Error.not_isMasked_ok _)
      refine Upholds.bind (upholds_pure descriptor) fun descriptor => ?_
      refine (shows_adopt descriptor).bind fun _ => ?_
      exact (shows_setTimeout _).bind fun _ => upholds_pure _
  · next hkind =>
    refine iff_of_false (not_isMasked ?_ s) (by simp [hkind])
    refine (shows_managedAddress world info).bind fun address => ?_
    refine (shows_connectProxy _ _ _).bind fun _ => ?_
    exact (shows_setTimeout _).bind fun _ => upholds_pure _

/-- What a resolver or a broker fails for is passed on as it is. -/
theorem connect_isMasked_iff (world : Outside) (c : Context) :
    Error.IsMasked ((connect world).on c).1 ↔
      c.isConnected = false ∧ (Error.IsMasked c.infoToUse ∨
        ∃ info, c.Uses info ∧ info.IsHandedOver ∧
          Error.IsMasked (c.broker.request world info)) := by
  rw [on_connect]
  by_cases hc : c.isConnected = true
  · rw [if_pos hc, hc, Error.isMasked_error]
    exact iff_of_false (by decide) nofun
  rw [if_neg hc]
  rw [Bool.not_eq_true] at hc
  rw [hc, eq_self, true_and]
  match hinfo : c.infoToUse with
  | .error e =>
    have hnone : ¬ ∃ info, c.Uses info ∧ info.IsHandedOver ∧
        Error.IsMasked (c.broker.request world info) := by
      rintro ⟨info, huses, -⟩
      cases hinfo.symm.trans (infoToUse_eq_ok_iff.mpr huses)
    rw [or_iff_left hnone, Error.isMasked_error, Error.isMasked_error]
  | .ok info =>
    have huses := infoToUse_eq_ok_iff.mp hinfo
    have honly : (∃ info, c.Uses info ∧ info.IsHandedOver ∧
        Error.IsMasked (c.broker.request world info)) ↔
          info.IsHandedOver ∧ Error.IsMasked (c.broker.request world info) := by
      constructor
      · rintro ⟨other, hother, h⟩
        rwa [huses.unique hother]
      · exact fun h => ⟨info, huses, h⟩
    rw [or_iff_right (Error.not_isMasked_ok info), honly,
      ← establish_isMasked_iff world c.broker c.settings info c.socket]
    dsimp only
    match (establish world c.broker c.settings info).on c.socket with
    | (.ok d, t) => exact iff_of_false (Error.not_isMasked_ok _) (Error.not_isMasked_ok _)
    | (.error e, t) => rw [Error.isMasked_error, Error.isMasked_error]

end Context

/-- A resolver of one of the kinds that there are. -/
inductive Resolver.IsBuiltIn : Resolver → Prop
  | fixed (devices : List DeviceInfo) : IsBuiltIn (fixed devices)
  | directory (files : Files) (dir : Path) : IsBuiltIn (directory files dir)
  | chain (sources : List Resolver) : IsBuiltIn (chain sources)

theorem Resolver.IsBuiltIn.not_isMasked {resolver : Resolver} (h : resolver.IsBuiltIn)
    (selector : Selector) : ¬ Error.IsMasked (resolver.resolve selector) := by
  have hpick (devices : List DeviceInfo) (e : Error) (he : pick devices selector = .error e) :
      e.Shows := by
    rw [pick] at he
    split at he
    · cases he
    · cases he
      exact Error.shows_resolution _
  rintro ⟨e, he, hcode⟩
  refine (?_ : e.Shows) hcode
  cases h with
  | fixed devices => exact hpick devices e he
  | directory files dir =>
    change resolveIn files dir selector = .error e at he
    rw [resolveIn] at he
    split at he
    · split at he
      · cases he
      · cases he
        exact Error.shows_resolution _
    · split at he
      · exact hpick _ e he
      · cases he
        exact Error.shows_resolution _
  | chain sources =>
    rw [resolveFirst_error he]
    exact Error.shows_resolution _

theorem Broker.not_isMasked_ofDevice (world : Outside) (info : DeviceInfo) :
    ¬ Error.IsMasked (ofDevice.request world info) := by
  rintro ⟨e, he, hcode⟩
  change (handover world info).mapError Error.broker = .error e at he
  match hask : handover world info with
  | .ok descriptor =>
    rw [hask] at he
    cases he
  | .error reason =>
    rw [hask] at he
    cases he
    have hshows : (Error.broker reason).Shows := Error.shows_iff.mpr ⟨nofun, nofun⟩
    exact hshows hcode

/-! ## Remote operations -/

/-- The word with which the answer to a request refuses it, whatever the last error is. -/
def Request.refusal : Request → Option UInt32
  | createFile .. => some Status.invalidHandle
  | getFileAttributes .. => some Attributes.invalid
  | setFilePointer .. | regOpenKey .. | regCloseKey .. | regQueryValue .. => none
  | readFrom .. | writeTo .. | closeHandle .. | deleteFile .. | createDirectory ..
  | removeDirectory .. | moveFile .. | getVersion | getStoreInformation | createProcess .. => some 0

theorem Request.refusal?_eq_zero_iff {r : Request} {e w : UInt32} :
    r.refusal? e w = some 0 ↔ e = 0 ∧ r.refusal = some w := by
  cases r <;> simp [refusal?, refusal] <;> exact and_comm.trans (and_congr_right' eq_comm)

namespace Invocation

variable {d : Dialect} {r : Request} {reply : List UInt8}

/-- A reply of an error that is zero, which refuses the request for no other reason. -/
theorem reading_remote_zero_iff :
    (((remote r).reading d).on (Buffer.ofBytes reply)).1 = .error (.remote 0) ↔
      ∃ w rest, d.Tells reply 0 (Encoding.word w ++ rest) ∧ r.refusal = some w := by
  rw [reading_remote_iff]
  constructor
  · rintro ⟨e, w, rest, htells, hrefusal⟩
    obtain ⟨rfl, hw⟩ := Request.refusal?_eq_zero_iff.mp hrefusal
    exact ⟨w, rest, htells, hw⟩
  · rintro ⟨w, rest, htells, hw⟩
    exact ⟨0, w, rest, htells, Request.refusal?_eq_zero_iff.mpr ⟨rfl, hw⟩⟩

theorem reading_isMasked_iff :
    Error.IsMasked (((remote r).reading d).on (Buffer.ofBytes reply)).1 ↔
      (((remote r).reading d).on (Buffer.ofBytes reply)).1 = .error (.remote 0) := by
  constructor
  · rintro ⟨err, herr, hcode⟩
    rcases Error.hresult_eq_ok_iff.mp hcode with rfl | rfl
    · exact absurd rfl (reading_protocol_iff.mp herr).2.1
    · exact herr
  · exact fun h => ⟨.remote 0, h, rfl⟩

end Invocation

theorem Socket.transfer_received_or_shown (s : Socket) (b : Buffer) (body : List UInt8)
    (max : UInt32) :
    (∃ s' reply, (transfer body max).on (s, b) = (.ok (), s', Buffer.ofBytes reply)) ∨
      ∃ e q, (transfer body max).on (s, b) = (.error e, q) ∧ e.Shows := by
  by_cases hopen : s.isOpen = true
  · obtain hreceived | ⟨cause, q, hfailed⟩ := transfer_received_or_failed max b hopen body
    · exact Or.inl hreceived
    · exact Or.inr ⟨_, q, hfailed, Error.shows_ofWire cause⟩
  · have hnone : s.current = none := by simpa [isOpen] using hopen
    exact Or.inr ⟨_, _, on_transfer_none max b hnone, by decide⟩

namespace Context

variable {c : Context} {d : Dialect} {r : Request}

/-- The reply to a remote operation refuses it, and tells a last error of zero. -/
def RefusedUnexplained (c : Context) (r : Request) : Prop :=
  ∃ d body s reply w rest, c.dialect = some d ∧
    (Invocation.remote r).request? d c = some body ∧
    (Socket.transfer body c.settings.maxFrame).on c.link = (.ok (), s, Buffer.ofBytes reply) ∧
    d.Tells reply 0 (Encoding.word w ++ rest) ∧ r.refusal = some w

theorem perform_eq_transaction (hd : c.dialect = some d) {body : List UInt8}
    (hrequest : (Invocation.remote r).request? d c = some body) :
    ((perform r).on c).1 =
      ((transaction body c.settings.maxFrame ((Invocation.remote r).reading d)).on c.link).1 :=
  congrArg (·.1) (onLink_act hd hrequest)

theorem perform_of_reply (hd : c.dialect = some d) {body : List UInt8}
    (hrequest : (Invocation.remote r).request? d c = some body) {s : Socket} {reply : List UInt8}
    (htransfer : (Socket.transfer body c.settings.maxFrame).on c.link =
      (.ok (), s, Buffer.ofBytes reply)) :
    ((perform r).on c).1 =
      (((Invocation.remote r).reading d).on (Buffer.ofBytes reply)).1 := by
  rw [perform_eq_transaction hd hrequest, on_transaction, htransfer]

theorem perform_of_no_reply (hd : c.dialect = some d) {body : List UInt8}
    (hrequest : (Invocation.remote r).request? d c = some body) {e : Error} {q : Socket × Buffer}
    (htransfer : (Socket.transfer body c.settings.maxFrame).on c.link = (.error e, q)) :
    ((perform r).on c).1 = .error e := by
  rw [perform_eq_transaction hd hrequest, on_transaction, htransfer]

theorem perform_of_no_request (hd : c.dialect = some d)
    (hrequest : (Invocation.remote r).request? d c = none) :
    ∃ e, ((perform r).on c).1 = .error e ∧ e.Shows := by
  cases hpath : r.tooLong? with
  | some length =>
    rw [on_perform_tooLong hd hpath]
    exact ⟨_, rfl, Error.shows_iff.mpr ⟨nofun, nofun⟩⟩
  | none =>
    match hm : (r.marshal d).on (Buffer.ofBytes (Encoding.word (d.opcode r.command))) with
    | (.error cause, b) =>
      rw [on_perform_unwritten hd hpath hm]
      exact ⟨_, rfl, Error.shows_ofWire cause⟩
    | (.ok (), b) =>
      simp only [Invocation.request?, hpath, hm] at hrequest
      cases hrequest

/-- A remote operation fails with the code of success exactly if a reply refuses it unexplained, and
then the failure is that of the device with an error of zero. -/
theorem perform_isMasked_iff (c : Context) (r : Request) :
    (Error.IsMasked ((perform r).on c).1 ↔ c.RefusedUnexplained r) ∧
      (((perform r).on c).1 = .error (.remote 0) ↔ c.RefusedUnexplained r) := by
  have hrefused (h : c.RefusedUnexplained r) : ((perform r).on c).1 = .error (.remote 0) := by
    obtain ⟨d, body, s, reply, w, rest, hd, hrequest, htransfer, htells, hw⟩ := h
    rw [perform_of_reply hd hrequest htransfer]
    exact Invocation.reading_remote_zero_iff.mpr ⟨w, rest, htells, hw⟩
  have hmasked (h : ((perform r).on c).1 = .error (.remote 0)) :
      Error.IsMasked ((perform r).on c).1 := ⟨_, h, rfl⟩
  have hback (h : Error.IsMasked ((perform r).on c).1) : c.RefusedUnexplained r := by
    -- A masked failure comes from a reply: whatever goes wrong before one has come shows.
    obtain ⟨err, herr, hcode⟩ := h
    cases hd : c.dialect with
    | none =>
      have hnone : (perform r).on c = _ := on_act_none hd (.remote r)
      rw [hnone] at herr
      cases herr
      exact absurd hcode (by decide)
    | some d =>
      cases hrequest : (Invocation.remote r).request? d c with
      | none =>
        obtain ⟨e, he, hshows⟩ := perform_of_no_request hd hrequest
        cases herr.symm.trans he
        exact absurd hcode hshows
      | some body =>
        obtain ⟨s, reply, htransfer⟩ | ⟨e, q, htransfer, hshows⟩ :=
          Socket.transfer_received_or_shown c.socket c.reply body c.settings.maxFrame
        · rw [perform_of_reply hd hrequest htransfer] at herr
          have hzero := Invocation.reading_isMasked_iff.mp ⟨err, herr, hcode⟩
          obtain ⟨w, rest, htells, hw⟩ := Invocation.reading_remote_zero_iff.mp hzero
          exact ⟨d, body, s, reply, w, rest, hd, hrequest, htransfer, htells, hw⟩
        · cases herr.symm.trans (perform_of_no_reply hd hrequest htransfer)
          exact absurd hcode hshows
  exact ⟨⟨hback, fun h => hmasked (hrefused h)⟩, ⟨fun h => hback (hmasked h), hrefused⟩⟩

/-- Which failures have the code of success, from whatever state. A remote operation has one exactly
if its reply refuses it with a last error of zero, which no reply does to the requests that are
answered with a status or with a file pointer. Starting a request, calling and disconnecting have
none. Connecting has none of its own; a resolver or a broker that is supplied may bring one, but
none of the resolvers that there are does, and neither does the broker of a device. -/
theorem failure_masked_iff (c : Context) (world : Outside) :
    (∀ r, (Error.IsMasked ((perform r).on c).1 ↔ c.RefusedUnexplained r) ∧
        (((perform r).on c).1 = .error (.remote 0) ↔ c.RefusedUnexplained r)) ∧
      (∀ opcode, ¬ Error.IsMasked ((beginCommand opcode).on c).1) ∧
      ¬ Error.IsMasked (call.on c).1 ∧ ¬ Error.IsMasked (disconnect.on c).1 ∧
      (Error.IsMasked ((connect world).on c).1 ↔
        c.isConnected = false ∧ (Error.IsMasked c.infoToUse ∨
          ∃ info, c.Uses info ∧ info.IsHandedOver ∧
            Error.IsMasked (c.broker.request world info))) ∧
      (c.resolver.IsBuiltIn → c.broker = Broker.ofDevice →
        ¬ Error.IsMasked ((connect world).on c).1) := by
  refine ⟨perform_isMasked_iff c, fun opcode => not_isMasked (shows_beginCommand opcode) c,
    not_isMasked shows_call c, not_isMasked shows_disconnect c, connect_isMasked_iff world c,
    fun hresolver hbroker hmasked => ?_⟩
  rcases ((connect_isMasked_iff world c).mp hmasked).2 with hinfo | ⟨info, -, -, hrequest⟩
  · unfold infoToUse at hinfo
    split at hinfo
    · exact Error.not_isMasked_ok _ hinfo
    · exact hresolver.not_isMasked c.selector hinfo
  · rw [hbroker] at hrequest
    exact Broker.not_isMasked_ofDevice world info hrequest

/-- Where there is no directory of device files, connecting fails, and its code says so. -/
theorem failure_masked_iff_no_devices :
    let c := Context.new sampleSettings {}
    c.resolver.IsBuiltIn ∧ c.broker = Broker.ofDevice ∧
      ∃ e, ((connect sampleWorld).on c).1 = .error e ∧ e.hresult ≠ Status.ok := by
  intro c
  have hresolver : c.resolver.IsBuiltIn := .directory {} ⟨"/etc/synce"⟩
  obtain ⟨-, -, -, -, -, hconnect⟩ := failure_masked_iff c sampleWorld
  have hshows := hconnect hresolver rfl
  obtain ⟨e, he⟩ : ∃ e, ((connect sampleWorld).on c).1 = .error e := ⟨_, rfl⟩
  exact ⟨hresolver, rfl, e, he, fun hcode => hshows ⟨e, he, hcode⟩⟩

/-- A device that was handed over does not close a handle, and gives zero for the reason. What the
caller gets is a failure with the code of success, and both channels hold that code as well. -/
theorem not_every_failure_shows :
    let device : Channel := { turns := [Channel.answer (Encoding.word 0 ++ Encoding.word 0)] }
    let world : Outside := { sampleWorld with broker := fun _ => .ok [.stream device] }
    let info : DeviceInfo := {
      name := "wm6"
      transport := some "broker"
      brokerSocket := some ⟨"/run/broker.sock"⟩
      osMajor := 6
      osMinor := 1 }
    let c₀ := (Context.new sampleSettings {}).withInfo info
    let c := Step.run [.connect world] c₀
    let after := (perform (.closeHandle 5)).on c
    Built c₀ ∧ after.1 = .error (.remote 0) ∧ (Error.remote 0).hresult = Status.ok ∧
      after.2.protocolStatus = Status.ok ∧ after.2.systemError = 0 := by
  intro device world info c₀ c after
  exact ⟨(Built.new sampleSettings {}).withInfo info, by decide⟩

end Context

end PocketLink
