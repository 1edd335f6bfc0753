import PocketLink.Proofs.Context.Invocation

/-!
# Transactions

Seen from the connection and the reply buffer, an invocation is either a transaction, which is one
transfer and then the reading of its reply, or it is refused before anything is sent and leaves both
as they were. Which of the two it is, and what is sent, follows from the request as it was written
or from the arguments. No reply has a part in it.
-/

namespace PocketLink

namespace Context

/-- The connection and the reply of a context. -/
def link (c : Context) : Socket × Buffer := (c.socket, c.reply)

/-- What an operation answers and does to the link, whatever else it does. -/
def onLink {α : Type} (act : Call α) (c : Context) : Except Error α × (Socket × Buffer) :=
  ((act.on c).1, (act.on c).2.link)

/-- A transfer, after which the reply is read. -/
def transaction {α : Type} (body : List UInt8) (max : UInt32) (reading : Reply.Reader α) :
    Operation (Socket × Buffer) Error α := do
  Socket.transfer body max
  Operation.within Prod.snd (fun b p => (p.1, b)) id reading

end Context

namespace Invocation

/-- How an invocation reads the reply to it. -/
def reading (d : Dialect) : (i : Invocation) → Reply.Reader i.Result
  | raw => d.openEnvelope
  | remote r => do
    d.openEnvelope
    let lastError ← Reply.word
    r.unmarshal d lastError

/-- The request of an invocation, if one can be written. -/
def request? (d : Dialect) (c : Context) : Invocation → Option (List UInt8)
  | raw => some c.request.bytes
  | remote r =>
    match r.tooLong? with
    | some _ => none
    | none =>
      match (r.marshal d).on (Buffer.ofBytes (Encoding.word (d.opcode r.command))) with
      | (.ok (), b) => some b.bytes
      | (.error _, _) => none

/-- The request of a remote operation is its arguments, behind the number of its command. -/
theorem request?_remote {d : Dialect} {c : Context} {r : Request} {body : List UInt8}
    (h : (remote r).request? d c = some body) :
    r.tooLong? = none ∧ ∃ b : Buffer, b.bytes = body ∧
      (r.marshal d).on (Buffer.ofBytes (Encoding.word (d.opcode r.command))) = (.ok (), b) := by
  simp only [request?] at h
  split at h
  · cases h
  · next hpath =>
    split at h
    · next b hm =>
      cases h
      exact ⟨hpath, b, rfl, hm⟩
    · cases h

/-- The body of the frame that an invocation sends, unless it is refused before that. -/
def body? (d : Dialect) (c : Context) (i : Invocation) : Option (List UInt8) :=
  (i.request? d c).filter fun body => body.length < UInt32.size

end Invocation

namespace Context

open Operation

variable {α : Type} {c : Context} {d : Dialect}

/-! ## Steps of a call -/

@[simp] theorem link_recorded (e : Error) (c : Context) : (c.recorded e).link = c.link := by
  cases e <;> rfl

theorem on_fail (e : Error) (c : Context) :
    (fail e : Call α).on c = (.error e, c.recorded e) := by
  simp only [fail, on_bind, on_modify, on_throw]

theorem on_recording (act : Call α) (c : Context) :
    (recording act).on c =
      match act.on c with
      | (.ok a, c') => (.ok a, c')
      | (.error e, c') => (.error e, c'.recorded e) := by
  rw [recording, on_bind, on_attempt]
  match act.on c with
  | (.ok a, c') => rfl
  | (.error e, c') => exact on_fail e c'

theorem on_onReply (act : Operation Buffer Error α) (c : Context) :
    (onReply act).on c = ((act.on c.reply).1, { c with reply := (act.on c.reply).2 }) := by
  simp only [onReply, on_within, mapError_id]

theorem on_transaction (body : List UInt8) (max : UInt32) (reading : Reply.Reader α)
    (p : Socket × Buffer) :
    (transaction body max reading).on p =
      match (Socket.transfer body max).on p with
      | (.ok (), s, b) => ((reading.on b).1, s, (reading.on b).2)
      | (.error e, q) => (.error e, q) := by
  rw [transaction, on_bind]
  match (Socket.transfer body max).on p with
  | (.ok (), s, b) => simp only [on_within, mapError_id]
  | (.error e, q) => rfl

/-- A transaction whose reply is read further is read on where the first part left it. -/
theorem on_transaction_bind {β : Type} (body : List UInt8) (max : UInt32) (first : Reply.Reader α)
    (next : α → Reply.Reader β) (p : Socket × Buffer) :
    (transaction body max (first >>= next)).on p =
      match (transaction body max first).on p with
      | (.ok a, s, b) => (((next a).on b).1, s, ((next a).on b).2)
      | (.error e, q) => (.error e, q) := by
  rw [on_transaction, on_transaction]
  match (Socket.transfer body max).on p with
  | (.error e, q) => rfl
  | (.ok (), s, b) =>
    simp only [on_bind]
    match first.on b with
    | (.ok a, b') => rfl
    | (.error e, b') => rfl

/-- An exchange is a transaction with the request as it was written, and nothing else. -/
theorem on_exchange (d : Dialect) (c : Context) :
    (exchange d).on c =
      let r := (transaction c.request.bytes c.settings.maxFrame d.openEnvelope).on c.link
      (r.1, { c with socket := r.2.1, reply := r.2.2 }) := by
  rcases hs : (Socket.send c.request.bytes).on c.socket with ⟨e | ⟨⟩, s⟩
  · simp [exchange, on_transaction, Socket.transfer, onSocket, on_bind, hs, link]
  · rcases hr : (Socket.recv c.settings.maxFrame).on (s, c.reply) with ⟨e | ⟨⟩, s', b⟩
    · simp [exchange, on_transaction, Socket.transfer, onSocket, onSocketAndReply, on_bind, hs, hr,
        link]
    · simp [exchange, on_transaction, Socket.transfer, onSocket, onSocketAndReply, onReply, on_bind,
        hs, hr, link]

/-- A raw call is a transaction with the request as it was written, and the protocol channel holds
the status of it. -/
theorem on_call (hd : c.dialect = some d) :
    call.on c =
      match (transaction c.request.bytes c.settings.maxFrame d.openEnvelope).on c.link with
      | (.ok (), s, b) => (.ok (), { c with socket := s, reply := b, protocolStatus := Status.ok })
      | (.error e, s, b) =>
        (.error e, { c with socket := s, reply := b, protocolStatus := statusOf e }) := by
  have he := on_exchange d { c with protocolStatus := Status.unexpected }
  have hlink : ({ c with protocolStatus := Status.unexpected } : Context).link = c.link := rfl
  simp only [hlink] at he
  match hr : (transaction c.request.bytes c.settings.maxFrame d.openEnvelope).on c.link with
  | (.ok (), s, b) =>
    rw [hr] at he
    simp [call, on_bind, on_ensureConnected hd, he]
  | (.error e, s, b) =>
    rw [hr] at he
    simp [call, on_bind, on_ensureConnected hd, he]

theorem onLink_call (hd : c.dialect = some d) :
    onLink call c =
      (transaction c.request.bytes c.settings.maxFrame d.openEnvelope).on c.link := by
  rw [onLink, on_call hd]
  split
  · next h => rw [h, link]
  · next h => rw [h, link]

/-! ## Remote operations -/

theorem on_beginCommand (hd : c.dialect = some d) (opcode : UInt32) :
    (beginCommand opcode).on c =
      (.ok (), { c with request := Buffer.ofBytes (Encoding.word opcode) }) := by
  have hfits : Buffer.empty.length + (Encoding.word opcode).length ≤ Buffer.sizeLimit := by
    rw [show (Encoding.word opcode).length = 4 from LittleEndian.length_u32 opcode]
    exact Buffer.le_sizeLimit (by decide)
  have hwrite : (Buffer.writeU32 opcode).on Buffer.empty =
      (.ok (), Buffer.ofBytes (Encoding.word opcode)) := Buffer.append_of_le hfits
  rw [beginCommand, on_bind_ok (on_ensureConnected hd), recording, on_bind, on_attempt]
  simp [onRequest, on_bind, Buffer.reset, hwrite]

/-- The end of a remote operation: the last error of the device is noted, and the answer is read. -/
def readAnswer (d : Dialect) (r : Request) : Call r.Answer := do
  let lastError ← recording (onReply Reply.word)
  modify fun c => { c with systemError := lastError }
  recording (onReply (r.unmarshal d lastError))

theorem on_readAnswer (d : Dialect) (r : Request) (c : Context) :
    (readAnswer d r).on c =
      match Reply.word.on c.reply with
      | (.ok lastError, b) =>
        (recording (onReply (r.unmarshal d lastError))).on
          { c with reply := b, systemError := lastError }
      | (.error e, b) => (.error e, { c with reply := b }.recorded e) := by
  rw [readAnswer, on_bind, on_recording, on_onReply]
  match Reply.word.on c.reply with
  | (.ok lastError, b) => rfl
  | (.error e, b) => rfl

theorem onLink_readAnswer (d : Dialect) (r : Request) (c : Context) :
    onLink (readAnswer d r) c =
      let reading := Reply.word >>= fun lastError => r.unmarshal d lastError
      ((reading.on c.reply).1, c.socket, (reading.on c.reply).2) := by
  simp only [onLink, on_readAnswer, on_bind]
  match Reply.word.on c.reply with
  | (.error e, b) =>
    rw [link_recorded]
    rfl
  | (.ok lastError, b) =>
    simp only [on_recording, on_onReply]
    match (r.unmarshal d lastError).on b with
    | (.ok a, b') => rfl
    | (.error e, b') =>
      rw [link_recorded]
      rfl

/-- A remote operation on a context that is connected, and with paths that are not too long, writes
its arguments behind the number of its command. -/
theorem on_perform (hd : c.dialect = some d) {r : Request} (hpath : r.tooLong? = none) :
    (perform r).on c =
      (recording (onRequest (r.marshal d)) >>= fun _ => call >>= fun _ => readAnswer d r).on
        { c with request := Buffer.ofBytes (Encoding.word (d.opcode r.command)) } := by
  simp only [perform, on_bind_ok (on_ensureConnected hd), hpath,
    on_bind_ok (on_beginCommand hd _)]
  rfl

/-- A remote operation whose request can be written calls with that request. -/
theorem on_perform_written (hd : c.dialect = some d) {r : Request} (hpath : r.tooLong? = none)
    {b : Buffer}
    (hm : (r.marshal d).on (Buffer.ofBytes (Encoding.word (d.opcode r.command))) = (.ok (), b)) :
    (perform r).on c = (call >>= fun _ => readAnswer d r).on { c with request := b } := by
  let c₁ := { c with request := Buffer.ofBytes (Encoding.word (d.opcode r.command)) }
  have hwritten :
      (recording (onRequest (r.marshal d))).on c₁ = (.ok (), { c with request := b }) := by
    rw [on_recording]
    simp only [onRequest, on_within, c₁, hm, mapError_ok]
  rw [on_perform hd hpath, on_bind_ok hwritten]

/-- A remote operation whose arguments cannot be written fails for that reason. -/
theorem on_perform_unwritten (hd : c.dialect = some d) {r : Request} (hpath : r.tooLong? = none)
    {b : Buffer} {e : WireError}
    (hm : (r.marshal d).on (Buffer.ofBytes (Encoding.word (d.opcode r.command))) = (.error e, b)) :
    (perform r).on c = (.error (.ofWire e), { c with request := b }.recorded (.ofWire e)) := by
  let c₁ := { c with request := Buffer.ofBytes (Encoding.word (d.opcode r.command)) }
  have hwritten : (recording (onRequest (r.marshal d))).on c₁ =
      (.error (.ofWire e), { c with request := b }.recorded (.ofWire e)) := by
    rw [on_recording]
    simp only [onRequest, on_within, c₁, hm, mapError_error]
  rw [on_perform hd hpath, on_bind_error hwritten]

theorem on_perform_tooLong (hd : c.dialect = some d) {r : Request} {length : Nat}
    (hpath : r.tooLong? = some length) :
    (perform r).on c =
      (.error (.pathTooLong length maxPath), c.recorded (.pathTooLong length maxPath)) := by
  simp only [perform, on_bind_ok (on_ensureConnected hd), hpath, on_fail]

/-- A remote operation whose request can be written is a transaction with that request. -/
theorem onLink_perform (hd : c.dialect = some d) {r : Request} (hpath : r.tooLong? = none)
    {b : Buffer}
    (hm : (r.marshal d).on (Buffer.ofBytes (Encoding.word (d.opcode r.command))) = (.ok (), b)) :
    onLink (perform r) c =
      (transaction b.bytes c.settings.maxFrame ((Invocation.remote r).reading d)).on c.link := by
  let c₂ := { c with request := b }
  have hcall := onLink_call (c := c₂) hd
  have hlink : c₂.link = c.link := rfl
  rw [onLink, on_perform_written hd hpath hm, Invocation.reading, on_transaction_bind, ← hlink]
  match hc : call.on c₂ with
  | (.ok (), c₃) =>
    rw [onLink, hc] at hcall
    rw [← hcall, on_bind_ok hc]
    exact onLink_readAnswer d r c₃
  | (.error e, c₃) =>
    rw [onLink, hc] at hcall
    rw [← hcall, on_bind_error hc]

/-! ## Invocations -/

/-- An invocation whose request can be written is a transaction with that request. -/
theorem onLink_act (hd : c.dialect = some d) {i : Invocation} {body : List UInt8}
    (h : i.request? d c = some body) :
    onLink i.act c = (transaction body c.settings.maxFrame (i.reading d)).on c.link := by
  cases i with
  | raw =>
    cases h
    exact onLink_call hd
  | remote r =>
    obtain ⟨hpath, b, rfl, hm⟩ := Invocation.request?_remote h
    exact onLink_perform hd hpath hm

/-- What an invocation does when it sends a request over a channel that has room for it: the frame
of the request is on the wire, the device has taken its turn, and what comes first in the stream is
received and read. -/
theorem onLink_act_sent (hd : c.dialect = some d) {ch : Channel} (hc : c.socket.current = some ch)
    {i : Invocation} {body : List UInt8} (h : i.body? d c = some body)
    (hroom : ch.outgoing.HasRoom (Frame.encode body).length) :
    ∃ out : Sink, out.room = ch.outgoing.room.map (· - (Frame.encode body).length) ∧
      out.taken = ch.sent ++ Frame.encode body ∧
      let ch' := { ch with outgoing := out }.takeTurn
      onLink i.act c =
        match (Frame.recv c.settings.maxFrame).on (ch'.incoming, c.reply) with
        | (.ok (), source, b) =>
          (((i.reading d).on b).1, c.socket.holding { ch' with incoming := source },
            ((i.reading d).on b).2)
        | (.error e, source, b) =>
          (.error (.ofWire e), c.socket.holding { ch' with incoming := source }, b) := by
  obtain ⟨hr, hlt⟩ := Option.filter_eq_some_iff.mp h
  rw [decide_eq_true_eq] at hlt
  obtain ⟨out, hout, htaken, htransfer⟩ :=
    Socket.on_transfer c.settings.maxFrame c.reply hc hroom hlt
  refine ⟨out, hout, htaken, ?_⟩
  intro ch'
  rw [onLink_act hd hr, on_transaction, link, htransfer]
  match hrecv : (Frame.recv c.settings.maxFrame).on (ch'.incoming, c.reply) with
  | (.ok (), source, b) => simp only [ch', hrecv, mapError_ok]
  | (.error e, source, b) => simp only [ch', hrecv, mapError_error]

/-- Such an invocation puts one frame on the wire. -/
theorem sent_act (hd : c.dialect = some d) {ch : Channel} (hc : c.socket.current = some ch)
    {i : Invocation} {body : List UInt8} (h : i.body? d c = some body)
    (hroom : ch.outgoing.HasRoom (Frame.encode body).length) :
    (i.act.on c).2.socket.sent = c.socket.sent ++ Frame.encode body := by
  obtain ⟨out, -, htaken, hlink⟩ := onLink_act_sent hd hc h hroom
  have hturn : { ch with outgoing := out }.takeTurn.sent = ch.sent ++ Frame.encode body :=
    (Channel.takeTurn_outgoing ch out).1.trans htaken
  have hsocket : (i.act.on c).2.socket = (onLink i.act c).2.1 := rfl
  rw [hsocket, hlink]
  split
  · exact Socket.sent_holding hc hturn
  · exact Socket.sent_holding hc hturn

/-- Whatever the channel accepts, such an invocation puts the first bytes of one frame on the wire,
and all of them unless the stream refuses the others. -/
theorem sent_act_prefix (hd : c.dialect = some d) {ch : Channel}
    (hc : c.socket.current = some ch) {i : Invocation} {body : List UInt8}
    (h : i.body? d c = some body) :
    ∃ part, (i.act.on c).2.socket.sent = c.socket.sent ++ part ∧ part <+: Frame.encode body ∧
      (part = Frame.encode body ∨ ∃ cause, (i.act.on c).1 = .error (.transport cause)) := by
  obtain ⟨hr, hlt⟩ := Option.filter_eq_some_iff.mp h
  rw [decide_eq_true_eq] at hlt
  -- What is on the wire is settled by the transfer; reading the reply does not touch the socket.
  obtain ⟨part, hsent, hpart, hall⟩ := Socket.sent_transfer c.settings.maxFrame c.reply hc hlt
  have hlink := onLink_act hd hr
  rw [on_transaction, link] at hlink
  match htransfer : (Socket.transfer body c.settings.maxFrame).on (c.socket, c.reply) with
  | (.ok (), s, b) =>
    rw [htransfer] at hsent hall hlink
    have hsocket : (i.act.on c).2.socket = s := congrArg (·.2.1) hlink
    refine ⟨part, by rw [hsocket, hsent], hpart, Or.inl ?_⟩
    rcases hall with hall | ⟨cause, hcause⟩
    · exact hall
    · cases hcause
  | (.error e, s, b) =>
    rw [htransfer] at hsent hall hlink
    have hsocket : (i.act.on c).2.socket = s := congrArg (·.2.1) hlink
    have hfail : (i.act.on c).1 = .error e := congrArg (·.1) hlink
    refine ⟨part, by rw [hsocket, hsent], hpart, hall.imp_right fun ⟨cause, hcause⟩ => ?_⟩
    cases hcause
    exact ⟨cause, hfail⟩

/-- An invocation that sends a request reads the frame that stands first in the stream when the
device has taken its turn, if it is accepted. -/
theorem onLink_act_found (hd : c.dialect = some d) {ch : Channel} (hc : c.socket.current = some ch)
    {i : Invocation} {body : List UInt8} (h : i.body? d c = some body)
    (hroom : ch.outgoing.HasRoom (Frame.encode body).length) {f : List UInt8}
    (hf : f.length ≤ c.settings.maxFrame.toNat)
    (hfirst : Frame.encode f <+: ch.takeTurn.incoming.bytes) :
    (i.act.on c).1 = ((i.reading d).on (Buffer.ofBytes f)).1 ∧
      (i.act.on c).2.reply = ((i.reading d).on (Buffer.ofBytes f)).2 := by
  obtain ⟨hr, hlt⟩ := Option.filter_eq_some_iff.mp h
  rw [decide_eq_true_eq] at hlt
  obtain ⟨s, htransfer⟩ :=
    Socket.on_transfer_found c.settings.maxFrame c.reply hc hroom hlt hf hfirst
  have hlink := onLink_act hd hr
  rw [on_transaction, link, htransfer] at hlink
  exact ⟨congrArg (·.1) hlink, congrArg (·.2.2) hlink⟩

/-- An invocation that sends nothing fails and does nothing to the link. -/
theorem onLink_act_refused (hd : c.dialect = some d) (hopen : c.socket.isOpen = true)
    {i : Invocation} (h : i.body? d c = none) : ∃ e, onLink i.act c = (.error e, c.link) := by
  cases hr : i.request? d c with
  | some body =>
    have hb : UInt32.size ≤ body.length := by
      rw [Invocation.body?, hr, Option.filter_some] at h
      split at h
      · cases h
      · next hlt =>
        rw [decide_eq_true_eq] at hlt
        exact Nat.le_of_not_lt hlt
    obtain ⟨channel, hc⟩ := Socket.exists_current hopen
    refine ⟨.wire (.frameTooLarge (UInt32.size - 1) (UInt32.size - 1)), ?_⟩
    rw [onLink_act hd hr, on_transaction, link, Socket.on_transfer_of_ge _ _ hc hb]
  | none =>
    cases i with
    | raw => cases hr
    | remote r =>
      simp only [Invocation.request?] at hr
      split at hr
      · next length hpath =>
        refine ⟨.pathTooLong length maxPath, ?_⟩
        rw [onLink, Invocation.act, on_perform_tooLong hd hpath, link_recorded]
      · next hpath =>
        split at hr
        · cases hr
        · next e b hm =>
          refine ⟨.ofWire e, ?_⟩
          rw [onLink, Invocation.act, on_perform_unwritten hd hpath hm, link_recorded]
          rfl

end Context

end PocketLink
