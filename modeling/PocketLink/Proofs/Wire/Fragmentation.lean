import PocketLink.Proofs.Wire.Frames

/-!
# Frames in pieces

A stream may take and hand over its bytes in any pieces, and it may interrupt. Frames that are sent
one after another are on the wire one after another all the same, with one flush behind each, and a
receiver that reads them into one buffer finds each of them as it was sent and leaves alone what is
behind the last. A sink that stops in the middle of a frame has taken the beginning of it and was
not flushed.
-/

namespace PocketLink

namespace Sink

/-- Writing bytes says nothing about whether the message is complete. -/
theorem keeps_writeAll {s s' : Sink} {bytes : List UInt8} {answer : Except IoError Unit}
    (h : (writeAll bytes).on s = (answer, s')) :
    s'.flushes = s.flushes ∧ s'.refusal = s.refusal := by
  have hafter : ((writeAll bytes).on s).2.flushes = s.flushes ∧
      ((writeAll bytes).on s).2.refusal = s.refusal := by
    simp only [writeAll, Operation.on_bind, Operation.on_get, Operation.on_set]
    split
    · exact ⟨rfl, rfl⟩
    · exact ⟨rfl, rfl⟩
  rw [h] at hafter
  exact hafter

theorem on_writeAll_stopped {s : Sink} {bytes : List UInt8} {room : Nat}
    (hroom : s.room = some room) (hlt : room < bytes.length) :
    ∃ s', (writeAll bytes).on s = (.error s.refusal, s') ∧
      s'.taken = s.taken ++ bytes.take room := by
  let p := pour s.room s.offers bytes
  have hlimit : limit s.room bytes.length = room := by
    rw [hroom]
    simp only [limit]
    omega
  have htaken : p.taken = bytes.take room := by rw [← hlimit]; exact taken_pour ..
  have hleft : p.left ≠ [] := by
    rw [show p.left = bytes.drop room by rw [← hlimit]; exact left_pour ..]
    intro h
    have := List.drop_eq_nil_iff.mp h
    omega
  refine ⟨{ s with taken := s.taken ++ p.taken, room := p.room, offers := p.offers }, ?_, ?_⟩
  · simp [writeAll, Operation.on_bind, p, hleft]
  · rw [htaken]

end Sink

namespace Frame

/-! ## Sending -/

/-- A frame is written in two parts, and flushed when both are. -/
theorem on_send_parts {s : Sink} {body : List UInt8} (hb : body.length < UInt32.size) :
    (send body).on s =
      match (Sink.writeAll (Encoding.word (UInt32.ofNat body.length))).on s with
      | (.error e, s₁) => (.error (.io e), s₁)
      | (.ok (), s₁) =>
        match (Sink.writeAll body).on s₁ with
        | (.error e, s₂) => (.error (.io e), s₂)
        | (.ok (), s₂) => (.ok (), { s₂ with flushes := s₂.flushes + 1 }) := by
  have hsize : ¬ UInt32.size ≤ body.length := Nat.not_le.mpr hb
  rcases hfirst : (Sink.writeAll (Encoding.word (UInt32.ofNat body.length))).on s with ⟨e | ⟨⟩, s₁⟩
  · simp [send, hsize, Operation.on_bind, hfirst]
  · rcases hsecond : (Sink.writeAll body).on s₁ with ⟨e | ⟨⟩, s₂⟩
    · simp [send, hsize, Operation.on_bind, hfirst, hsecond]
    · simp [send, hsize, Operation.on_bind, hfirst, hsecond, Sink.flush]

theorem flushes_send {s s' : Sink} {body : List UInt8} (hb : body.length < UInt32.size)
    (h : (send body).on s = (.ok (), s')) : s'.flushes = s.flushes + 1 := by
  rw [on_send_parts hb] at h
  split at h
  · cases h
  · next s₁ hfirst =>
    split at h
    · cases h
    · next s₂ hsecond =>
      cases h
      show s₂.flushes + 1 = s.flushes + 1
      rw [(Sink.keeps_writeAll hsecond).1, (Sink.keeps_writeAll hfirst).1]

/-- A sink that stops in the middle of a frame has taken as much of it as it had room for. -/
theorem on_send_stopped {s : Sink} {body : List UInt8} {room : Nat}
    (hb : body.length < UInt32.size) (hroom : s.room = some room)
    (hlt : room < (encode body).length) :
    ∃ s', (send body).on s = (.error (.io s.refusal), s') ∧
      s'.taken = s.taken ++ (encode body).take room ∧ s'.flushes = s.flushes := by
  generalize hheader : Encoding.word (UInt32.ofNat body.length) = header
  have hencode : encode body = header ++ body := by rw [encode, hheader]
  rw [on_send_parts hb, hheader, hencode]
  rw [hencode, List.length_append] at hlt
  by_cases hfirst : room < header.length
  · -- Not even the length word is taken as a whole.
    obtain ⟨s₁, hwrite, htaken⟩ := Sink.on_writeAll_stopped hroom hfirst
    have hpart : (header ++ body).take room = header.take room :=
      List.take_append_of_le_length (by omega)
    refine ⟨s₁, by rw [hwrite], ?_, (Sink.keeps_writeAll hwrite).1⟩
    rw [hpart]
    exact htaken
  · have hhas : s.HasRoom header.length := by
      intro n hn
      rw [hroom] at hn
      cases hn
      omega
    -- The length word is, and so many bytes less of the body.
    obtain ⟨s₁, hwrite₁, hroom₁, htaken₁⟩ := Sink.on_writeAll hhas
    rw [hroom, Option.map_some] at hroom₁
    have hsecond : room - header.length < body.length := by omega
    obtain ⟨s₂, hwrite₂, htaken₂⟩ := Sink.on_writeAll_stopped hroom₁ hsecond
    have hkept₁ := Sink.keeps_writeAll hwrite₁
    have hkept₂ := Sink.keeps_writeAll hwrite₂
    have hpart : (header ++ body).take room = header ++ body.take (room - header.length) := by
      rw [List.take_append, List.take_of_length_le (by omega)]
    refine ⟨s₂, ?_, ?_, hkept₂.1.trans hkept₁.1⟩
    · rw [hwrite₁]
      simp only [hwrite₂, hkept₁.2]
    · rw [htaken₂, htaken₁, hpart, List.append_assoc]

/-- Sends bodies one after another, each as one frame. -/
def sendEach : List (List UInt8) → Operation Sink WireError Unit
  | [] => pure ()
  | body :: bodies => do
    send body
    sendEach bodies

theorem on_sendEach {s : Sink} {bodies : List (List UInt8)}
    (fits : ∀ body ∈ bodies, body.length < UInt32.size)
    (hroom : s.HasRoom (bodies.flatMap encode).length) :
    ∃ s', (sendEach bodies).on s = (.ok (), s') ∧ s'.taken = s.taken ++ bodies.flatMap encode ∧
      s'.flushes = s.flushes + bodies.length := by
  induction bodies generalizing s with
  | nil => exact ⟨s, rfl, (List.append_nil _).symm, rfl⟩
  | cons body bodies ih =>
    rw [List.flatMap_cons, List.length_append] at hroom
    have hb : body.length < UInt32.size := fits body (List.mem_cons_self ..)
    have hfirst : s.HasRoom (encode body).length := by
      intro n hn
      have := hroom n hn
      omega
    obtain ⟨s₁, hsend, hroom₁, htaken₁⟩ := on_send hfirst hb
    have hflushes₁ := flushes_send hb hsend
    have hrest : s₁.HasRoom (bodies.flatMap encode).length := by
      intro n hn
      rw [hroom₁] at hn
      obtain ⟨m, hm, rfl⟩ := Option.map_eq_some_iff.mp hn
      have := hroom m hm
      omega
    have fits' : ∀ body ∈ bodies, body.length < UInt32.size :=
      fun body h => fits body (List.mem_cons_of_mem _ h)
    obtain ⟨s₂, hsends, htaken₂, hflushes₂⟩ := ih fits' hrest
    refine ⟨s₂, ?_, ?_, ?_⟩
    · rw [sendEach, Operation.on_bind_ok hsend, hsends]
    · rw [htaken₂, htaken₁, List.flatMap_cons, List.append_assoc]
    · rw [hflushes₂, hflushes₁, List.length_cons]
      omega

/-! ## Receiving -/

/-- A receiver never takes more than the frame that stands first, whatever becomes of it. -/
theorem bytes_recv (max : UInt32) (src : Source) (b : Buffer) :
    ∃ n, n ≤ 4 + announced src.bytes ∧
      ((recv max).on (src, b)).2.1.bytes = src.bytes.drop n := by
  have hheader : (src.after 4).bytes = src.bytes.drop 4 := Source.bytes_after 4 src
  have hframe : ((src.after 4).after (announced src.bytes)).bytes =
      src.bytes.drop (4 + announced src.bytes) := by
    rw [Source.bytes_after, hheader, List.drop_drop]
  rw [on_recv]
  by_cases hshort : src.bytes.length < 4
  · rw [if_pos hshort]
    exact ⟨4, by omega, hheader⟩
  by_cases hlong : max.toNat < announced src.bytes
  · rw [if_neg hshort, if_pos hlong]
    exact ⟨4, by omega, hheader⟩
  · rw [if_neg hshort, if_neg hlong]
    refine ⟨4 + announced src.bytes, Nat.le_refl _, ?_⟩
    simp only
    split
    · exact hframe
    · exact hframe

/-- A source and a buffer after so many frames were received, one after another. -/
def received (max : UInt32) (p : Source × Buffer) : Nat → Source × Buffer
  | 0 => p
  | n + 1 => ((recv max).on (received max p n)).2

/-- Each receiver takes the frame that is meant for it, and leaves what is behind it to the next. -/
theorem bytes_received {max : UInt32} {bodies : List (List UInt8)} {src : Source}
    {tail : List UInt8} (fits : ∀ body ∈ bodies, body.length ≤ max.toNat)
    (hbytes : src.bytes = bodies.flatMap encode ++ tail) (b : Buffer) {i : Nat}
    (hi : i ≤ bodies.length) :
    (received max (src, b) i).1.bytes = (bodies.drop i).flatMap encode ++ tail := by
  induction i with
  | zero => exact hbytes
  | succ i ih =>
    have hdrop := List.drop_eq_getElem_cons hi
    have hbefore := ih (Nat.le_of_succ_le hi)
    rw [hdrop, List.flatMap_cons, List.append_assoc] at hbefore
    obtain ⟨src', hrecv, hafter, -⟩ :=
      on_recv_encode hbefore (fits _ (List.getElem_mem hi)) (received max (src, b) i).2
    rw [received, show received max (src, b) i = (_, _) from rfl, hrecv]
    exact hafter

/-- Frames survive any fragmentation of the stream. Bodies that are sent one after another over a
sink that has room for them are taken frame by frame, with one flush for each. A receiver that finds
these bytes in front of others, in any pieces and with any interruptions, reads them body by body
into one buffer, whatever that held before; each time it takes exactly one frame, and it leaves the
others alone. A sink that has no room for all of a frame takes as much of it as it has room for, and
is not flushed. -/
theorem lossless_in_pieces {max : UInt32} {bodies : List (List UInt8)}
    (fits : ∀ body ∈ bodies, body.length ≤ max.toNat) :
    (∀ s : Sink, s.HasRoom (bodies.flatMap encode).length →
        ∃ s', (sendEach bodies).on s = (.ok (), s') ∧
          s'.taken = s.taken ++ bodies.flatMap encode ∧ s'.flushes = s.flushes + bodies.length) ∧
      (∀ (src : Source) (b : Buffer) (tail : List UInt8),
        src.bytes = bodies.flatMap encode ++ tail →
        (∀ i body, bodies[i]? = some body →
          let before := received max (src, b) i
          let after := received max (src, b) (i + 1)
          (recv max).on before = (.ok (), after) ∧ after.2.bytes = body ∧ after.2.position = 0 ∧
            before.1.bytes = encode body ++ after.1.bytes ∧
            before.1.bytes.length - after.1.bytes.length = 4 + body.length) ∧
          (received max (src, b) bodies.length).1.bytes = tail) ∧
      ∀ body ∈ bodies, ∀ (s : Sink) (room : Nat), s.room = some room →
        room < (encode body).length →
        ∃ s', (send body).on s = (.error (.io s.refusal), s') ∧
          s'.taken = s.taken ++ (encode body).take room ∧ s'.flushes = s.flushes := by
  have hlt : ∀ body ∈ bodies, body.length < UInt32.size := fun body hbody =>
    Nat.lt_of_le_of_lt (fits body hbody) max.toNat_lt
  refine ⟨fun s hroom => on_sendEach hlt hroom,
    fun src b tail hbytes => ⟨fun i body hbody => ?_, ?_⟩,
    fun body hbody s room hroom hshort => on_send_stopped (hlt body hbody) hroom hshort⟩
  · obtain ⟨hi, rfl⟩ := List.getElem?_eq_some_iff.mp hbody
    have hbefore := bytes_received fits hbytes b (Nat.le_of_lt hi)
    have hafter := bytes_received fits hbytes b hi
    rw [List.drop_eq_getElem_cons hi, List.flatMap_cons, List.append_assoc] at hbefore
    obtain ⟨src', hrecv, hleft, -⟩ :=
      on_recv_encode hbefore (fits _ (List.getElem_mem hi)) (received max (src, b) i).2
    have hnext : received max (src, b) (i + 1) = (src', Buffer.ofBytes bodies[i]) :=
      congrArg (·.2) hrecv
    intro before after
    have hsplit : before.1.bytes = encode bodies[i] ++ after.1.bytes := by
      rw [hafter]
      exact hbefore
    refine ⟨?_, ?_, ?_, hsplit, ?_⟩
    · exact hrecv.trans (congrArg _ hnext.symm)
    · rw [show after = _ from hnext, Buffer.bytes_ofBytes]
    · rw [show after = _ from hnext]
      rfl
    · rw [hsplit, List.length_append, length_encode]
      omega
  · have hend := bytes_received fits hbytes b (Nat.le_refl _)
    rwa [List.drop_length] at hend

/-- Two bodies, the second one without bytes, in pieces that cut both length words. -/
theorem lossless_in_pieces_cut :
    let bodies : List (List UInt8) := [[7, 8], []]
    let src : Source := { arrivals := [.piece [2], .interrupted, .interrupted, .piece [0, 0],
      .piece [0, 7], .interrupted, .piece [8, 0, 0], .piece [0, 0, 9]] }
    let s : Sink := { offers := [.upTo 0, .interrupted, .upTo 2, .upTo 1] }
    (∀ body ∈ bodies, body.length ≤ (4 : UInt32).toNat) ∧
      (∃ s', (sendEach bodies).on s = (.ok (), s') ∧
        s'.taken = [2, 0, 0, 0, 7, 8, 0, 0, 0, 0] ∧ s'.flushes = 2) ∧
      (received 4 (src, Buffer.ofBytes [1]) 1).2.bytes = [7, 8] ∧
      (received 4 (src, Buffer.ofBytes [1]) 2).1.bytes = [9] := by
  intro bodies src s
  have fits : ∀ body ∈ bodies, body.length ≤ (4 : UInt32).toNat := by decide
  obtain ⟨hsent, hreceived, -⟩ := lossless_in_pieces fits
  have hbytes : src.bytes = bodies.flatMap encode ++ [9] := by decide
  obtain ⟨hbodies, htail⟩ := hreceived src (Buffer.ofBytes [1]) [9] hbytes
  exact ⟨fits, hsent s (Sink.hasRoom_of_none rfl _), (hbodies 0 [7, 8] rfl).2.1, htail⟩

end Frame

end PocketLink
