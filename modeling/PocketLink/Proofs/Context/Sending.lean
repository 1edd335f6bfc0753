import PocketLink.Proofs.Context.Exchange
import PocketLink.Proofs.Remote.Decoding

/-!
# Sending requests

A remote operation on a connected context puts one frame on the wire, and the body of that frame is
the request and nothing else, whatever was in the buffer of the request before. A device that knows
the dialect reads the operation and its arguments back from it, so that what is sent tells one
request from all others.
-/

namespace PocketLink

theorem Request.tooLong?_eq_none_iff {r : Request} :
    r.tooLong? = none ↔ ∀ path ∈ r.paths, Utf16.length path ≤ maxPath := by
  simp only [tooLong?, List.find?_eq_none, List.forall_mem_map, decide_eq_true_eq, Nat.not_lt]

/-- What a remote operation sends is its request, whatever the buffer held before. -/
theorem Invocation.body?_remote {d : Dialect} {r : Request} (c : Context)
    (paths : r.tooLong? = none) (fits : (r.fields d).Fits)
    (hlt : (r.payload d).length < UInt32.size) :
    (remote r).body? d c = some (r.payload d) := by
  have hlen : (Encoding.word (d.opcode r.command)).length + (r.fields d).encode.length <
      UInt32.size := by
    rw [← List.length_append]
    exact hlt
  have hroom : (Buffer.ofBytes (Encoding.word (d.opcode r.command))).length +
      (r.fields d).encode.length ≤ Buffer.sizeLimit := by
    rw [Buffer.length_eq, Buffer.bytes_ofBytes]
    exact Buffer.le_sizeLimit (by omega)
  have hwrite := (Record.appends_write fits (Buffer.ofBytes _)).1 hroom
  have hrequest : (remote r).request? d c = some (r.payload d) := by
    simp only [request?, paths, Request.marshal_eq_write, hwrite]
    rfl
  rw [body?, hrequest, Option.filter_some, if_pos (decide_eq_true hlt)]

namespace Context

/-- A context that is connected in a dialect, and a request that it can send. -/
structure Sends (d : Dialect) (r : Request) (c : Context) : Prop where
  dialect : c.dialect = some d
  isOpen : c.socket.isOpen = true
  paths : ∀ path ∈ r.paths, Utf16.length path ≤ maxPath
  fits : (r.fields d).Fits
  length : (r.payload d).length < UInt32.size

variable {d : Dialect} {r : Request} {c : Context}

theorem Sends.body? (h : Sends d r c) :
    (Invocation.remote r).body? d c = some (r.payload d) :=
  Invocation.body?_remote c (Request.tooLong?_eq_none_iff.mpr h.paths) h.fits h.length

/-- No two requests of a dialect are sent as the same frame. -/
theorem Sends.request_eq {r' : Request} {c' : Context} (h : Sends d r c) (h' : Sends d r' c')
    (hsent : ((perform r').on c').2.socket.sent = c'.socket.sent ++ Frame.encode (r.payload d)) :
    r' = r := by
  -- The other channel may have taken only a part of its frame; that part is then the whole frame of
  -- `r`, and as a frame says how long it is, no other one starts with it.
  obtain ⟨ch, hc⟩ := Socket.exists_current h'.isOpen
  obtain ⟨part, hpart, hprefix, -⟩ := sent_act_prefix h'.dialect hc h'.body?
  have hsame : ((perform r').on c').2.socket.sent = c'.socket.sent ++ part := hpart
  rw [hsent, List.append_cancel_left_eq] at hsame
  rw [← hsame] at hprefix
  have hbody := Frame.eq_of_encode_prefix h.length h'.length hprefix
  exact Request.payload_injective h'.fits h.fits hbody.symm

/-- A remote operation puts one frame on the wire, as far as the device takes it. A device reads
exactly this operation and its arguments back from the body of the frame, with no byte left over,
and no other request of the dialect is sent as the same bytes, by whatever context. -/
theorem sent_request_reads_back (h : Sends d r c) :
    ∃ body sent, ((perform r).on c).2.socket.sent = c.socket.sent ++ sent ∧
      sent <+: Frame.encode body ∧
      (sent = Frame.encode body ∨ ∃ cause, ((perform r).on c).1 = .error (.transport cause)) ∧
      (∀ ch, c.socket.current = some ch → ch.outgoing.HasRoom (Frame.encode body).length →
        sent = Frame.encode body) ∧
      Frame.bodies (Frame.encode body) = [body] ∧ Request.decode? d body = some r ∧
      ∀ (r' : Request) (c' : Context), Sends d r' c' →
        ((perform r').on c').2.socket.sent = c'.socket.sent ++ Frame.encode body → r' = r := by
  obtain ⟨ch, hc⟩ := Socket.exists_current h.isOpen
  obtain ⟨sent, hsent, hprefix, hall⟩ := sent_act_prefix h.dialect hc h.body?
  refine ⟨r.payload d, sent, hsent, hprefix, hall, fun ch' hc' hroom => ?_, ?_,
    Request.decode?_payload h.fits, fun r' c' h' hsame => h.request_eq h' hsame⟩
  · have hframe := sent_act h.dialect hc' h.body? hroom
    rwa [hsent, List.append_cancel_left_eq] at hframe
  · have hbodies := Frame.bodies_encode h.length []
    rwa [List.append_nil, Frame.bodies_nil] at hbodies

/-- A program whose name has a pair of units and a zero character at its end, with arguments that
are there but empty, sent by a context that has another request in its buffer. -/
theorem sent_request_reads_back_stale :
    let r := Request.createProcess "\\Temp\\😀.exe\x00" (some "")
    let c := { answeredBy .v2 64 [] with request := Buffer.ofBytes [7, 7, 7] }
    Sends .v2 r c ∧ ∃ body, ((perform r).on c).2.socket.sent = Frame.encode body ∧
      Request.decode? .v2 body = some r := by
  intro r c
  have h : Sends .v2 r c := ⟨rfl, rfl, by decide, by decide, by decide⟩
  obtain ⟨body, sent, hsent, -, -, hall, -, hdecode, -⟩ := sent_request_reads_back h
  rw [hall _ rfl (Sink.hasRoom_of_none rfl _)] at hsent
  exact ⟨h, body, hsent, hdecode⟩

end Context

end PocketLink
