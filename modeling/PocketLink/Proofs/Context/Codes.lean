import PocketLink.Proofs.Context.Connection
import PocketLink.Proofs.Context.Replies

/-!
# The codes that a remote operation leaves

A remote operation leaves a code on the protocol channel and one on the system channel. Which ones
follows from its outcome, whatever the channels held before. Where a reply has told the last error
of the device, that one replaces the error before it, even if the rest of the reply cannot be read;
in all other failures on the way to the device and back the error before stays.
-/

namespace PocketLink

namespace Context

open Operation

variable {α : Type} {c : Context} {d : Dialect} {r : Request}

/-- The reply to a remote operation has come, and it tells the last error of the device. -/
def Told (c : Context) (r : Request) (lastError : UInt32) : Prop :=
  ∃ d body socket reply rest, c.dialect = some d ∧
    (Invocation.remote r).request? d c = some body ∧
    (Socket.transfer body c.settings.maxFrame).on c.link = (.ok (), socket, Buffer.ofBytes reply) ∧
    d.Tells reply lastError rest

/-- The codes that belong to an outcome, where `told` is what a reply has told and `before` is what
the system channel held before. There are no other outcomes. -/
def Settled (told : UInt32 → Prop) (before : UInt32) (outcome : Except Error α)
    (status system : UInt32) : Prop :=
  match outcome with
  | .ok _ => status = Status.ok ∧ told system
  | .error .notConnected => status = Status.ok ∧ system = Status.notConnected
  | .error (.pathTooLong _ _) => status = Status.ok ∧ system = Status.pathTooLong
  | .error (.remote code) => status = Status.ok ∧ system = code
  | .error (.protocol code) => status = code ∧ system = before
  | .error (.transport _) => status = Status.fail ∧ system = before
  | .error (.wire _) => status = Status.fail ∧ (told system ∨ (∀ e, ¬ told e) ∧ system = before)
  | .error _ => False

/-! ## What is told -/

theorem told_iff_exists (hd : c.dialect = some d) {body : List UInt8}
    (hrequest : (Invocation.remote r).request? d c = some body) {e : UInt32} :
    c.Told r e ↔ ∃ s reply rest, (Socket.transfer body c.settings.maxFrame).on c.link =
      (.ok (), s, Buffer.ofBytes reply) ∧ d.Tells reply e rest := by
  constructor
  · rintro ⟨d', body', s, reply, rest, hd', hrequest', htold⟩
    cases hd.symm.trans hd'
    cases hrequest.symm.trans hrequest'
    exact ⟨s, reply, rest, htold⟩
  · rintro ⟨s, reply, rest, htold⟩
    exact ⟨d, body, s, reply, rest, hd, hrequest, htold⟩

/-- Once a reply has come, what it tells is read of it first. -/
theorem told_iff (hd : c.dialect = some d) {body : List UInt8}
    (hrequest : (Invocation.remote r).request? d c = some body) {s : Socket} {reply : List UInt8}
    (htransfer : (Socket.transfer body c.settings.maxFrame).on c.link =
      (.ok (), s, Buffer.ofBytes reply)) {e : UInt32} :
    c.Told r e ↔
      ((d.openEnvelope >>= fun _ => Reply.word).on (Buffer.ofBytes reply)).1 = .ok e := by
  rw [told_iff_exists hd hrequest, ← Dialect.tells_iff]
  constructor
  · rintro ⟨s', reply', rest, htransfer', htells⟩
    have hsame := htransfer.symm.trans htransfer'
    rw [Prod.mk.injEq, Prod.mk.injEq] at hsame
    have hreply : reply = reply' := congrArg Buffer.bytes hsame.2.2
    rw [hreply]
    exact ⟨rest, htells⟩
  · rintro ⟨rest, htells⟩
    exact ⟨s, reply, rest, htransfer, htells⟩

/-- A transfer that failed has told nothing. -/
theorem not_told_of_failed (hd : c.dialect = some d) {body : List UInt8}
    (hrequest : (Invocation.remote r).request? d c = some body) {err : Error} {q : Socket × Buffer}
    (htransfer : (Socket.transfer body c.settings.maxFrame).on c.link = (.error err, q))
    (e : UInt32) : ¬ c.Told r e := by
  rw [told_iff_exists hd hrequest]
  rintro ⟨s, reply, rest, htransfer', -⟩
  cases htransfer.symm.trans htransfer'

/-- A request that could not be written has told nothing. -/
theorem not_told_of_unwritten (hd : c.dialect = some d)
    (hrequest : (Invocation.remote r).request? d c = none) (e : UInt32) : ¬ c.Told r e := by
  rintro ⟨d', body, s, reply, rest, hd', hrequest', -⟩
  cases hd.symm.trans hd'
  cases hrequest.symm.trans hrequest'

theorem Told.unique {e e' : UInt32} (h : c.Told r e) (h' : c.Told r e') : e = e' := by
  obtain ⟨d, body, s, reply, rest, hd, hrequest, htransfer, htells⟩ := h
  have hread := Dialect.tells_iff.mp ⟨rest, htells⟩
  have hread' := (told_iff hd hrequest htransfer).mp h'
  exact Except.ok.inj (hread.symm.trans hread')

/-! ## Stage by stage -/

theorem recorded_ofWire (cause : WireError) (c : Context) :
    c.recorded (.ofWire cause) = { c with protocolStatus := Status.fail } := by
  cases cause <;> rfl

theorem settled_ofWire {told : UInt32 → Prop} (before : UInt32) (cause : WireError)
    (h : ∀ e, ¬ told e) :
    Settled told before (.error (.ofWire cause) : Except Error α) Status.fail before := by
  cases cause with
  | io cause => exact ⟨rfl, rfl⟩
  | truncated | alloc | invalidUtf16 | stringTooLong | fieldTooLarge | frameTooLarge =>
    exact ⟨rfl, Or.inr ⟨h, rfl⟩⟩

/-- The end of a remote operation, when its call has succeeded. -/
theorem settled_readAnswer {told : UInt32 → Prop} (hstatus : c.protocolStatus = Status.ok)
    (htold : ∀ e, told e ↔ (Reply.word.on c.reply).1 = .ok e) :
    Settled told c.systemError ((readAnswer d r).on c).1 ((readAnswer d r).on c).2.protocolStatus
      ((readAnswer d r).on c).2.systemError := by
  rw [on_readAnswer]
  obtain ⟨e, b, hword⟩ | ⟨_, _, _, hnever, -⟩ | ⟨cause, b, hword⟩ :=
    Reply.parses_word.outcome c.reply
  · -- From here on the error is told, so it stands in the channel even if a field cannot be read.
    have he : told e := (htold e).mpr (by rw [hword])
    rw [hword]
    simp only [on_recording, on_onReply]
    obtain ⟨a, b', hfields⟩ | ⟨err, _, b', ⟨w, code, -, rfl, -⟩, hfields⟩ | ⟨cause, b', hfields⟩ :=
      (r.parses_unmarshal d e).outcome b
    · rw [hfields]
      exact ⟨hstatus, he⟩
    · rw [hfields]
      exact ⟨hstatus, rfl⟩
    · rw [hfields]
      exact ⟨rfl, Or.inl he⟩
  · exact hnever.elim
  · have hnot (e : UInt32) : ¬ told e := by
      intro he
      have hread := (htold e).mp he
      rw [hword] at hread
      cases hread
    rw [hword]
    exact ⟨rfl, Or.inr ⟨hnot, rfl⟩⟩

/-- A call with the request that was written, and the end of a remote operation behind it. -/
theorem settled_called {told : UInt32 → Prop} (hd : c.dialect = some d)
    (hopen : c.socket.isOpen = true)
    (hreceived : ∀ s reply, (Socket.transfer c.request.bytes c.settings.maxFrame).on c.link =
      (.ok (), s, Buffer.ofBytes reply) → ∀ e, told e ↔
        ((d.openEnvelope >>= fun _ => Reply.word).on (Buffer.ofBytes reply)).1 = .ok e)
    (hfailed : ∀ err q, (Socket.transfer c.request.bytes c.settings.maxFrame).on c.link =
      (.error err, q) → ∀ e, ¬ told e) :
    let called := (call >>= fun _ => readAnswer d r).on c
    Settled told c.systemError called.1 called.2.protocolStatus called.2.systemError := by
  intro called
  have hcall := on_call hd
  rw [on_transaction] at hcall
  obtain ⟨s, reply, htransfer⟩ | ⟨cause, ⟨s, b⟩, htransfer⟩ :=
    Socket.transfer_received_or_failed c.settings.maxFrame c.reply hopen c.request.bytes
  · -- A reply has come. Whether it tells a last error is settled by its envelope and first word.
    have htold := hreceived s reply htransfer
    rw [link, htransfer] at hcall
    obtain ⟨⟨⟩, b, henv⟩ | ⟨err, _, b, hends, henv⟩ | ⟨cause, b, henv⟩ :=
      d.parses_openEnvelope.outcome (Buffer.ofBytes reply)
    · simp only [henv] at hcall
      simp only [on_bind_ok henv] at htold
      rw [show called = _ from on_bind_ok hcall]
      exact settled_readAnswer rfl htold
    · simp only [henv] at hcall
      rw [show called = _ from on_bind_error hcall]
      cases d with
      | v1 =>
        obtain ⟨status, -, rfl, -⟩ := hends
        exact ⟨rfl, rfl⟩
      | v2 => exact hends.elim
    · have hnot (e : UInt32) : ¬ told e := by
        intro he
        have hread := (htold e).mp he
        rw [on_bind_error henv] at hread
        cases hread
      simp only [henv] at hcall
      rw [show called = _ from on_bind_error hcall]
      exact ⟨rfl, Or.inr ⟨hnot, rfl⟩⟩
  · -- No reply has come: the last error is the one from before.
    have hnot := hfailed _ _ htransfer
    rw [link, htransfer] at hcall
    rw [show called = _ from on_bind_error hcall]
    have hstatus : statusOf (.ofWire cause) = Status.fail := by cases cause <;> rfl
    rw [hstatus]
    exact settled_ofWire _ cause hnot

/-- A remote operation on a connected context. -/
theorem settled_perform (hd : c.dialect = some d) (hopen : c.socket.isOpen = true) (r : Request) :
    Settled (c.Told r) c.systemError ((perform r).on c).1 ((perform r).on c).2.protocolStatus
      ((perform r).on c).2.systemError := by
  cases hpath : r.tooLong? with
  | some length =>
    rw [on_perform_tooLong hd hpath]
    exact ⟨rfl, rfl⟩
  | none =>
    -- Only a request that was written is sent; without one nothing can be told.
    match hm : (r.marshal d).on (Buffer.ofBytes (Encoding.word (d.opcode r.command))) with
    | (.error e, b) =>
      have hrequest : (Invocation.remote r).request? d c = none := by
        simp only [Invocation.request?, hpath, hm]
      rw [on_perform_unwritten hd hpath hm, recorded_ofWire]
      exact settled_ofWire _ e (not_told_of_unwritten hd hrequest)
    | (.ok (), b) =>
      have hrequest : (Invocation.remote r).request? d c = some b.bytes := by
        simp only [Invocation.request?, hpath, hm]
      rw [on_perform_written hd hpath hm]
      refine settled_called (c := { c with request := b }) hd hopen ?_ ?_
      · intro s reply htransfer e
        exact told_iff hd hrequest htransfer
      · intro err q htransfer
        exact not_told_of_failed hd hrequest htransfer

/-! ## Any context -/

/-- However a context was built and whatever happened to it: after a remote operation the channels
hold the codes that belong to its outcome, no other outcome is possible, and the connection is as it
was. A reply tells one last error at most. -/
theorem codes_follow_outcome {c₀ : Context} (built : Built c₀) (steps : List Step) (r : Request) :
    let c := Step.run steps c₀
    let outcome := ((perform r).on c).1
    let c' := ((perform r).on c).2
    Settled (c.Told r) c.systemError outcome c'.protocolStatus c'.systemError ∧
      (∀ e e', c.Told r e → c.Told r e' → e = e') ∧
      c'.isConnected = c.isConnected ∧ c'.dialect = c.dialect ∧ c'.info = c.info ∧
      c'.ownsInfo = c.ownsInfo := by
  intro c outcome c'
  have sound : Sound c₀.info c := built.sound.run steps
  have hopen (hc : c.isConnected = true) : c.socket.isOpen = true := sound.isOpen.trans hc
  have standing : Standing c c' := standing_after hopen (.invoke (.remote r))
  refine ⟨?_, fun _ _ => Told.unique, standing.isConnected, standing.dialect, standing.info,
    standing.ownsInfo⟩
  cases hd : c.dialect with
  | some d =>
    have hc : c.isConnected = true := by rw [isConnected, hd]; rfl
    exact settled_perform hd (hopen hc) r
  | none =>
    have hrefused := on_act_none hd (.remote r)
    have houtcome : outcome = .error .notConnected := congrArg (·.1) hrefused
    have hafter : c' = _ := congrArg (·.2) hrefused
    rw [houtcome, hafter]
    exact ⟨rfl, rfl⟩

/-- An error that the device reports, then a status in an envelope: the first one is still there. -/
theorem codes_follow_outcome_protocol :
    let refused := Encoding.word 1 ++ Encoding.word 0 ++ (Encoding.word 6 ++ Encoding.word 0)
    let status := Encoding.word 1 ++ Encoding.word 7
    let device : Channel := { turns := [Channel.answer refused, Channel.answer status] }
    let c₀ := (Context.new sampleSettings {}).withResolver (.fixed [sampleDevice])
    let steps := [.connect { sampleWorld with dial := fun _ _ _ => .ok device },
      .act (.invoke (.remote (.closeHandle 5)))]
    let c := Step.run steps c₀
    let c' := ((perform .getStoreInformation).on c).2
    Built c₀ ∧ c.systemError = 6 ∧
      ((perform .getStoreInformation).on c).1 = .error (.protocol 7) ∧
      c'.protocolStatus = 7 ∧ c'.systemError = 6 := by
  intro refused status device c₀ steps
  have built : Built c₀ := (Built.new sampleSettings {}).withResolver _
  have herror : (Step.run steps c₀).systemError = 6 := by decide
  have houtcome : ((perform .getStoreInformation).on (Step.run steps c₀)).1 =
      .error (.protocol 7) := by decide
  obtain ⟨hsettled, -⟩ := codes_follow_outcome built steps .getStoreInformation
  rw [houtcome] at hsettled
  obtain ⟨hstatus, hsystem⟩ := hsettled
  exact ⟨built, herror, houtcome, hstatus, hsystem.trans herror⟩

end Context

end PocketLink
