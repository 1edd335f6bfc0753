import PocketLink.Link.Socket
import PocketLink.Proofs.Upholds
import PocketLink.Proofs.Wire.Frames

/-!
# Sockets that hold a channel

An open socket stays open whatever is sent or received over it, and fails for the reasons of its
channel only. Sending a frame and receiving one is a transfer. Over a channel that has room for it a
transfer puts exactly one frame on the wire, lets the device take its turn, and receives from what
has come by then.
-/

namespace PocketLink

/-- The failures that a call may have while there is a connection. -/
def Error.isOfCall : Error → Bool
  | transport _ | wire _ | protocol _ | remote _ | pathTooLong _ _ => true
  | _ => false

theorem Error.isOfCall_ofWire (e : WireError) : (ofWire e).isOfCall = true := by
  cases e <;> rfl

/-! ## Turns of a device -/

namespace Channel

theorem deliver_outgoing (c : Channel) (out : Sink) (bytes : List UInt8) :
    { c with outgoing := out }.deliver bytes = { c.deliver bytes with outgoing := out } := by
  by_cases h : c.isOpenInwards = true
  · have h' : { c with outgoing := out }.isOpenInwards = true := h
    rw [deliver, if_pos h', deliver, if_pos h]
  · have h' : ¬ { c with outgoing := out }.isOpenInwards = true := h
    rw [deliver, if_neg h', deliver, if_neg h]

/-- What a device does takes nothing back that it was sent, and what it sends has nothing to do with
that. -/
theorem perform_outgoing (c : Channel) (out : Sink) (act : Act) :
    ({ c with outgoing := out }.perform act).sent = out.taken ∧
      ({ c with outgoing := out }.perform act).incoming = (c.perform act).incoming := by
  obtain ⟨bytes, ends, closes⟩ := act
  simp only [perform, deliver_outgoing]
  cases closes <;> cases ends <;> exact ⟨rfl, rfl⟩

theorem takeTurn_outgoing (c : Channel) (out : Sink) :
    { c with outgoing := out }.takeTurn.sent = out.taken ∧
      { c with outgoing := out }.takeTurn.incoming = c.takeTurn.incoming := by
  cases h : c.turns with
  | nil =>
    simp only [takeTurn, h, and_true]
    rfl
  | cons act turns =>
    simp only [takeTurn, h]
    exact perform_outgoing { c with turns } out act

/-- Bytes as they are: the stream takes the first of them, and all of them exactly if it has room.
Behind all of them the device takes its turn. -/
theorem on_writeAll (c : Channel) (bytes : List UInt8) :
    ∃ out part, out.taken = c.sent ++ part ∧ part <+: bytes ∧
      (c.outgoing.HasRoom bytes.length ∧ part = bytes ∧
          (writeAll bytes).on c = (.ok (), { c with outgoing := out }.takeTurn) ∨
        ¬ c.outgoing.HasRoom bytes.length ∧
          (writeAll bytes).on c = (.error c.outgoing.refusal, { c with outgoing := out })) := by
  obtain ⟨out, part, htaken, hpart, ⟨hok, hall⟩ | hfail⟩ :=
    Sink.on_writeAll_prefix c.outgoing bytes
  · have hroom := Sink.hasRoom_of_on_writeAll hok
    refine ⟨{ out with flushes := out.flushes + 1 }, part, htaken, hpart, Or.inl ⟨hroom, hall, ?_⟩⟩
    simp [writeAll, outwards, Operation.on_bind, hok, Sink.flush]
  · have hroom : ¬ c.outgoing.HasRoom bytes.length := by
      intro hroom
      obtain ⟨out', hok, -, -⟩ := Sink.on_writeAll hroom
      cases hok.symm.trans hfail
    refine ⟨out, part, htaken, hpart, Or.inr ⟨hroom, ?_⟩⟩
    simp [writeAll, outwards, Operation.on_bind, hfail]

theorem on_readExact (c : Channel) (n : Nat) :
    (readExact n).on c =
      (if n ≤ c.incoming.bytes.length then .ok (c.incoming.bytes.take n)
        else .error c.incoming.afterwards, { c with incoming := c.incoming.after n }) := by
  rw [readExact, inwards, Operation.on_within, Source.on_readExact, Operation.mapError_id]

end Channel

namespace Socket

/-! ## Open sockets -/

/-- A socket that holds a channel after certain others. -/
def Holds (retired : List Channel) (s : Socket) : Prop := s.isOpen = true ∧ s.retired = retired

theorem exists_current {s : Socket} (h : s.isOpen = true) : ∃ c, s.current = some c :=
  Option.isSome_iff_exists.mp h

theorem holding_current {s : Socket} {c : Channel} (h : s.current = some c) :
    s.holding c = s := by
  rw [holding, ← h]

theorem on_setTimeout {s : Socket} {c : Channel} (h : s.current = some c)
    (timeout : Option UInt64) :
    (setTimeout timeout).on s =
      (if timeout = some 0 then .error (.transport .zeroTimeout) else .ok (), s) := by
  rw [setTimeout, on_onChannel h]
  by_cases hzero : timeout = some 0
  · simp [hzero, holding_current h]
  · simp [hzero, holding_current h]

/-- One byte that is read is the first of those that are there. -/
theorem on_readExact_one {s : Socket} {c : Channel} (h : s.current = some c) :
    ∃ c', c'.sent = c.sent ∧
      (readExact 1).on s =
        (match c.incoming.bytes with
          | [] => .error (.transport c.incoming.afterwards)
          | first :: _ => .ok [first],
        s.holding c') := by
  refine ⟨{ c with incoming := c.incoming.after 1 }, rfl, ?_⟩
  rw [readExact, on_onChannel h, Channel.on_readExact]
  cases c.incoming.bytes with
  | nil => rfl
  | cons first rest => simp

/-- What is done on the channel keeps the socket open and fails for the channel's reasons. -/
theorem upholds_onChannel {ε α : Type} {failure : ε → Error} {allowed : Error → Prop}
    (act : Operation Channel ε α) (retired : List Channel) (hfail : ∀ e, allowed (failure e)) :
    Operation.Upholds (Holds retired) allowed (onChannel failure act) := by
  rintro s ⟨hopen, hret⟩
  obtain ⟨c, hc⟩ := exists_current hopen
  rw [on_onChannel hc]
  refine ⟨⟨rfl, hret⟩, fun e he => ?_⟩
  match (act.on c).1, he with
  | .error cause, rfl => exact hfail cause

theorem upholds_send (body : List UInt8) (retired : List Channel) :
    Operation.Upholds (Holds retired) (·.isOfCall = true) (send body) :=
  upholds_onChannel _ retired Error.isOfCall_ofWire

theorem upholds_recv (max : UInt32) (retired : List Channel) :
    Operation.Upholds (fun p : Socket × Buffer => p.1.Holds retired) (·.isOfCall = true)
      (recv max) := by
  rintro ⟨s, b⟩ ⟨hopen, hret⟩
  obtain ⟨c, hc⟩ := exists_current hopen
  rw [on_recv hc]
  refine ⟨⟨rfl, hret⟩, fun e he => ?_⟩
  match ((Frame.recv max).on (c.incoming, b)).1, he with
  | .error cause, rfl => exact Error.isOfCall_ofWire cause

theorem upholds_setTimeout (timeout : Option UInt64) (retired : List Channel) :
    Operation.Upholds (Holds retired) (fun _ => True) (setTimeout timeout) :=
  upholds_onChannel _ retired fun _ => trivial

theorem upholds_writeAll (bytes : List UInt8) (retired : List Channel) :
    Operation.Upholds (Holds retired) (fun _ => True) (writeAll bytes) :=
  upholds_onChannel _ retired fun _ => trivial

theorem upholds_readExact (n : Nat) (retired : List Channel) :
    Operation.Upholds (Holds retired) (fun _ => True) (readExact n) :=
  upholds_onChannel _ retired fun _ => trivial

theorem channelOf_eq_ok_iff {descriptor : Descriptor} {c : Channel} :
    channelOf descriptor = .ok c ↔ descriptor = .stream c := by
  cases descriptor <;> simp [channelOf]

theorem closed_closed (s : Socket) : s.closed.closed = s.closed := by
  cases h : s.current with
  | none => simp only [closed, h]
  | some c => simp only [closed, h]

theorem closed_of_not_isOpen {s : Socket} (h : s.isOpen = false) : s.closed = s := by
  unfold closed
  cases hc : s.current with
  | none => rfl
  | some c =>
    rw [isOpen, hc] at h
    cases h

/-- A socket that takes another channel holds it, or holds none if there is none to take. -/
theorem on_replace (answer : Except Error Channel) (s : Socket) :
    (replace answer).on s =
      match answer with
      | .ok c => (.ok (), s.closed.holding c)
      | .error e => (.error e, s.closed) := by
  cases answer <;> simp [replace, close, Operation.on_bind]

/-! ## Transfers -/

/-- Sends a body as one frame, then receives a frame into a buffer. -/
def transfer (body : List UInt8) (max : UInt32) : Operation (Socket × Buffer) Error Unit := do
  Operation.within Prod.fst (fun s p => (s, p.2)) id (send body)
  recv max

theorem sent_holding {s : Socket} {c c' : Channel} (hc : s.current = some c) {part : List UInt8}
    (h : c'.sent = c.sent ++ part) : (s.holding c').sent = s.sent ++ part := by
  simp only [sent, holding, hc, Option.map_some, Option.getD_some, h, List.append_assoc]

section Transfer

variable {s : Socket} {c : Channel} {body : List UInt8} {out : Sink} (max : UInt32) (b : Buffer)

/-- Behind a frame that the stream took, a transfer receives from what has come after the turn that
the device then takes. -/
theorem on_transfer_sent (hc : s.current = some c)
    (h : (Frame.send body).on c.outgoing = (.ok (), out)) :
    (transfer body max).on (s, b) =
      let c' := { c with outgoing := out }.takeTurn
      let got := (Frame.recv max).on (c'.incoming, b)
      (got.1.mapError Error.ofWire, s.holding { c' with incoming := got.2.1 }, got.2.2) := by
  have hsend : (send body).on s = (.ok (), s.holding { c with outgoing := out }.takeTurn) := by
    rw [send, on_onChannel hc]
    simp [Channel.send, Channel.outwards, Operation.on_bind, h]
  have hnext : (s.holding { c with outgoing := out }.takeTurn).current =
      some { c with outgoing := out }.takeTurn := rfl
  simp only [transfer, Operation.on_bind, Operation.on_within, hsend, Operation.mapError_ok,
    on_recv hnext]
  rfl

/-- Without a channel nothing is sent, and nothing is received. -/
theorem on_transfer_none (h : s.current = none) :
    (transfer body max).on (s, b) = (.error .notConnected, s, b) := by
  have hsend : (send body).on s = (.error .notConnected, s) := on_onChannel_none h
  simp only [transfer, Operation.on_bind, Operation.on_within, hsend, Operation.mapError_error, id]

/-- Where the stream refuses the frame, that is the end of the transfer. -/
theorem on_transfer_unsent (hc : s.current = some c) {cause : WireError}
    (h : (Frame.send body).on c.outgoing = (.error cause, out)) :
    (transfer body max).on (s, b) =
      (.error (.ofWire cause), s.holding { c with outgoing := out }, b) := by
  have hsend :
      (send body).on s = (.error (.ofWire cause), s.holding { c with outgoing := out }) := by
    rw [send, on_onChannel hc]
    simp [Channel.send, Channel.outwards, Operation.on_bind, h]
  simp only [transfer, Operation.on_bind, Operation.on_within, hsend, Operation.mapError_error, id]

/-- Over a channel that has room for its frame, a transfer puts exactly that frame on the wire. -/
theorem on_transfer (hc : s.current = some c)
    (hroom : c.outgoing.HasRoom (Frame.encode body).length) (hb : body.length < UInt32.size) :
    ∃ out : Sink, out.room = c.outgoing.room.map (· - (Frame.encode body).length) ∧
      out.taken = c.sent ++ Frame.encode body ∧
      (transfer body max).on (s, b) =
        let c' := { c with outgoing := out }.takeTurn
        let got := (Frame.recv max).on (c'.incoming, b)
        (got.1.mapError Error.ofWire, s.holding { c' with incoming := got.2.1 }, got.2.2) := by
  obtain ⟨out, hsend, hout, htaken⟩ := Frame.on_send hroom hb
  exact ⟨out, hout, htaken, on_transfer_sent max b hc hsend⟩

/-- It then receives the frame that stands first in the stream when the device has taken its turn,
if that frame is accepted. -/
theorem on_transfer_found (hc : s.current = some c)
    (hroom : c.outgoing.HasRoom (Frame.encode body).length) (hb : body.length < UInt32.size)
    {reply : List UInt8} (hmax : reply.length ≤ max.toNat)
    (hfirst : Frame.encode reply <+: c.takeTurn.incoming.bytes) :
    ∃ s', (transfer body max).on (s, b) = (.ok (), s', Buffer.ofBytes reply) := by
  obtain ⟨out, -, -, htransfer⟩ := on_transfer max b hc hroom hb
  obtain ⟨rest, hrest⟩ := hfirst
  have hbytes :
      { c with outgoing := out }.takeTurn.incoming.bytes = Frame.encode reply ++ rest := by
    rw [(Channel.takeTurn_outgoing c out).2, hrest]
  obtain ⟨source, hrecv, -, -⟩ := Frame.on_recv_encode hbytes hmax b
  simp only [hrecv, Operation.mapError_ok] at htransfer
  exact ⟨_, htransfer⟩

/-- Whatever a channel accepts, a transfer puts the first bytes of its frame on the wire, and all of
them unless the stream refuses the others. -/
theorem sent_transfer (hc : s.current = some c) (hb : body.length < UInt32.size) :
    ∃ part, ((transfer body max).on (s, b)).2.1.sent = s.sent ++ part ∧
      part <+: Frame.encode body ∧ (part = Frame.encode body ∨
        ∃ cause, ((transfer body max).on (s, b)).1 = .error (.transport cause)) := by
  obtain ⟨out, part, htaken, hpart, hsend⟩ := Frame.on_send_prefix c.outgoing hb
  refine ⟨part, ?_⟩
  rcases hsend with ⟨hok, hall⟩ | ⟨cause, hfail⟩
  · rw [on_transfer_sent max b hc hok]
    have hturn := (Channel.takeTurn_outgoing c out).1
    exact ⟨sent_holding hc (hturn.trans htaken), hpart, Or.inl hall⟩
  · rw [on_transfer_unsent max b hc hfail]
    exact ⟨sent_holding hc htaken, hpart, Or.inr ⟨cause, rfl⟩⟩

/-- A body that no length word can count is not transferred at all. -/
theorem on_transfer_of_ge (hc : s.current = some c) (hb : UInt32.size ≤ body.length) :
    (transfer body max).on (s, b) =
      (.error (.wire (.frameTooLarge (UInt32.size - 1) (UInt32.size - 1))), s, b) := by
  rw [on_transfer_unsent max b hc (Frame.on_send_of_ge hb c.outgoing)]
  refine Prod.ext rfl (Prod.ext ?_ rfl)
  exact holding_current hc

/-- Over an open socket, a transfer receives a frame or fails for reasons of the stream or of the
frames. -/
theorem transfer_received_or_failed (hopen : s.isOpen = true) (body : List UInt8) :
    (∃ s' reply, (transfer body max).on (s, b) = (.ok (), s', Buffer.ofBytes reply)) ∨
      ∃ cause q, (transfer body max).on (s, b) = (.error (.ofWire cause), q) := by
  obtain ⟨c, hc⟩ := exists_current hopen
  match hsend : (Frame.send body).on c.outgoing with
  | (.error cause, out) => exact Or.inr ⟨cause, _, on_transfer_unsent max b hc hsend⟩
  | (.ok (), out) =>
    rw [on_transfer_sent max b hc hsend]
    match hrecv : (Frame.recv max).on ({ c with outgoing := out }.takeTurn.incoming, b) with
    | (.error cause, source, b') =>
      simp only [hrecv, Operation.mapError_error]
      exact Or.inr ⟨cause, _, rfl⟩
    | (.ok (), source, b') =>
      simp only [hrecv, Operation.mapError_ok]
      rw [(Frame.encode_of_on_recv hrecv).1]
      exact Or.inl ⟨_, _, rfl⟩

end Transfer

end Socket

end PocketLink
