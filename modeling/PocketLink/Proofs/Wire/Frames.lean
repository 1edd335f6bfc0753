import PocketLink.Wire.Frame

/-!
# Frames on streams

What a source answers depends on its bytes only, not on the pieces in which they come, and a sink
without a limit takes all bytes, however its writes are cut. So a frame that is sent is on the wire
as a whole, and a receiver at the start of a frame takes exactly that frame, unless it is longer
than it accepts: then the header is gone and the body is left.
-/

namespace PocketLink

/-! ## Sinks -/

namespace Sink

/-- What is not taken is what is behind the room. -/
theorem left_pour (room : Option Nat) (offers : List Offer) (bytes : List UInt8) :
    (pour room offers bytes).left = bytes.drop (limit room bytes.length) := by
  induction offers generalizing room bytes with
  | nil => cases bytes <;> simp [pour]
  | cons offer offers ih =>
    cases bytes with
    | nil => simp [pour]
    | cons b bytes =>
      cases offer with
      | interrupted => simpa only [pour] using ih room (b :: bytes)
      | upTo n =>
        simp only [pour]
        generalize b :: bytes = all
        split
        · next h =>
          rw [List.isEmpty_iff] at h
          cases room with
          | none => simp_all [limit]
          | some room => cases room <;> simp_all [limit]
        · simp only [ih, List.length_drop, List.length_take, List.drop_drop, limit_split]

/-- Writing uses the room up by what is taken. -/
theorem room_pour (room : Option Nat) (offers : List Offer) (bytes : List UInt8) :
    (pour room offers bytes).room = room.map (· - limit room bytes.length) := by
  induction offers generalizing room bytes with
  | nil => cases bytes <;> cases room <;> simp [pour, limit]
  | cons offer offers ih =>
    cases bytes with
    | nil => cases room <;> simp [pour, limit]
    | cons b bytes =>
      cases offer with
      | interrupted => simpa only [pour] using ih room (b :: bytes)
      | upTo n =>
        simp only [pour]
        generalize b :: bytes = all
        split
        · next h =>
          rw [List.isEmpty_iff] at h
          cases room with
          | none => rfl
          | some room => cases room <;> simp_all [limit]
        · simp only [ih, List.length_drop, List.length_take, Option.map_map]
          have hsplit := limit_split room (n + 1) all.length
          cases room with
          | none => rfl
          | some room =>
            simp only [limit, Option.map_some, Function.comp_apply, Option.some.injEq] at hsplit ⊢
            omega

/-- Whether a sink has room for so many more bytes. -/
def HasRoom (s : Sink) (n : Nat) : Prop := ∀ room ∈ s.room, n ≤ room

theorem hasRoom_of_none {s : Sink} (h : s.room = none) (n : Nat) : s.HasRoom n := by
  intro room hroom
  rw [h] at hroom
  cases hroom

theorem HasRoom.limit {s : Sink} {n : Nat} (h : s.HasRoom n) : limit s.room n = n := by
  cases hroom : s.room with
  | none => rfl
  | some room => exact Nat.min_eq_left (h room hroom)

/-- A sink takes the first of the bytes, and all of them unless it refuses. -/
theorem on_writeAll_prefix (s : Sink) (bytes : List UInt8) :
    ∃ s' part, s'.taken = s.taken ++ part ∧ part <+: bytes ∧
      ((writeAll bytes).on s = (.ok (), s') ∧ part = bytes ∨
        (writeAll bytes).on s = (.error s.refusal, s')) := by
  let p := pour s.room s.offers bytes
  have ht : p.taken = bytes.take (limit s.room bytes.length) := taken_pour s.room s.offers bytes
  have hl : p.left = bytes.drop (limit s.room bytes.length) := left_pour s.room s.offers bytes
  have hprefix : p.taken <+: bytes := by
    rw [ht]
    exact List.take_prefix _ _
  refine ⟨{ s with taken := s.taken ++ p.taken, room := p.room, offers := p.offers }, p.taken, rfl,
    hprefix, ?_⟩
  by_cases hempty : p.left = []
  · have hall : p.taken = bytes := by
      rw [hl, List.drop_eq_nil_iff] at hempty
      rw [ht, List.take_of_length_le hempty]
    exact Or.inl ⟨by simp [writeAll, Operation.on_bind, p, hempty], hall⟩
  · exact Or.inr (by simp [writeAll, Operation.on_bind, p, hempty])

/-- A sink that has room for some bytes takes them all. -/
theorem on_writeAll {s : Sink} {bytes : List UInt8} (h : s.HasRoom bytes.length) :
    ∃ s', (writeAll bytes).on s = (.ok (), s') ∧ s'.room = s.room.map (· - bytes.length) ∧
      s'.taken = s.taken ++ bytes := by
  let p := pour s.room s.offers bytes
  have hl : p.left = [] := by
    rw [left_pour, h.limit]
    exact List.drop_length
  have ht : p.taken = bytes := by
    rw [taken_pour, h.limit]
    exact List.take_length
  have hr : p.room = s.room.map (· - bytes.length) := by rw [room_pour, h.limit]
  refine ⟨{ s with taken := s.taken ++ p.taken, room := p.room, offers := p.offers }, ?_, hr, ?_⟩
  · simp [writeAll, Operation.on_bind, p, hl]
  · rw [ht]

/-- Only a sink that has room for some bytes takes them all. -/
theorem hasRoom_of_on_writeAll {s s' : Sink} {bytes : List UInt8}
    (h : (writeAll bytes).on s = (.ok (), s')) : s.HasRoom bytes.length := by
  have hleft : (pour s.room s.offers bytes).left = [] := by
    by_cases hempty : (pour s.room s.offers bytes).left = []
    · exact hempty
    · simp [writeAll, Operation.on_bind, hempty] at h
  rw [left_pour, List.drop_eq_nil_iff] at hleft
  intro room hroom
  rw [hroom] at hleft
  exact Nat.le_trans hleft (Nat.min_le_right _ _)

end Sink

/-! ## Frames -/

/-- A buffer is filled with the next bytes of a source, or left empty if there are too few. -/
theorem Buffer.on_fillFrom {n : Nat} (h : n ≤ sizeLimit) (src : Source) (b : Buffer) :
    (fillFrom n).on (src, b) =
      if n ≤ src.bytes.length then (.ok (), src.after n, ofBytes (src.bytes.take n))
      else (.error (.io src.afterwards), src.after n, empty) := by
  by_cases hn : n ≤ src.bytes.length
  · have hread : (Source.readExact n).on src = (.ok (src.bytes.take n), src.after n) := by
      rw [Source.on_readExact, if_pos hn]
    simp [fillFrom, Operation.on_bind, Nat.not_lt.mpr h, hread, hn]
  · have hread : (Source.readExact n).on src = (.error src.afterwards, src.after n) := by
      rw [Source.on_readExact, if_neg hn]
    simp [fillFrom, Operation.on_bind, Nat.not_lt.mpr h, hread, hn]

namespace Frame

/-- The number that the first four bytes stand for: the length that a frame announces. -/
def announced (bytes : List UInt8) : Nat := LittleEndian.value (bytes.take 4)

theorem length_encode (body : List UInt8) : (encode body).length = 4 + body.length := by
  simp [encode, Encoding.word]

theorem announced_encode {body : List UInt8} (h : body.length < UInt32.size) (rest : List UInt8) :
    announced (encode body ++ rest) = body.length := by
  have ht : (encode body ++ rest).take 4 = Encoding.word (UInt32.ofNat body.length) := by
    rw [encode, List.append_assoc]
    exact List.take_left' (LittleEndian.length_u32 _)
  rw [announced, ht, Encoding.word, LittleEndian.value_u32]
  exact UInt32.toNat_ofNat_of_lt' h

theorem drop_encode (body rest : List UInt8) : (encode body ++ rest).drop 4 = body ++ rest := by
  rw [encode, List.append_assoc]
  exact List.drop_left' (LittleEndian.length_u32 _)

/-- Four bytes are the length word of the length that they announce. -/
theorem word_announced {bytes : List UInt8} (h : 4 ≤ bytes.length) :
    Encoding.word (UInt32.ofNat (announced bytes)) = bytes.take 4 := by
  have hl : (bytes.take 4).length = 4 := by rw [List.length_take]; omega
  exact LittleEndian.u32_value hl

/-- A sink that has room for a frame takes it as a whole. -/
theorem on_send {s : Sink} {body : List UInt8} (h : s.HasRoom (encode body).length)
    (hb : body.length < UInt32.size) :
    ∃ s', (send body).on s = (.ok (), s') ∧ s'.room = s.room.map (· - (encode body).length) ∧
      s'.taken = s.taken ++ encode body := by
  generalize hheader : Encoding.word (UInt32.ofNat body.length) = header
  have hencode : encode body = header ++ body := by rw [encode, hheader]
  rw [hencode, List.length_append] at h ⊢
  have hfirst : s.HasRoom header.length := fun room hroom => by
    have := h room hroom
    omega
  obtain ⟨s₁, h₁, r₁, t₁⟩ := Sink.on_writeAll hfirst
  have hsecond : s₁.HasRoom body.length := by
    intro room hroom
    rw [r₁] at hroom
    obtain ⟨before, hbefore, rfl⟩ := Option.map_eq_some_iff.mp hroom
    have := h before hbefore
    omega
  obtain ⟨s₂, h₂, r₂, t₂⟩ := Sink.on_writeAll hsecond
  refine ⟨{ s₂ with flushes := s₂.flushes + 1 }, ?_, ?_, ?_⟩
  · simp [send, Operation.on_bind, Nat.not_le.mpr hb, hheader, h₁, h₂, Sink.flush]
  · rw [r₂, r₁, Option.map_map]
    refine congrArg (Option.map · s.room) (funext fun room => ?_)
    rw [Function.comp_apply, Nat.sub_sub]
  · rw [← List.append_assoc, ← t₁]
    exact t₂

/-- A sink takes the first bytes of a frame, and all of them unless it refuses. -/
theorem on_send_prefix (s : Sink) {body : List UInt8} (hb : body.length < UInt32.size) :
    ∃ s' part, s'.taken = s.taken ++ part ∧ part <+: encode body ∧
      ((send body).on s = (.ok (), s') ∧ part = encode body ∨
        ∃ cause, (send body).on s = (.error (.io cause), s')) := by
  generalize hheader : Encoding.word (UInt32.ofNat body.length) = header
  have hencode : encode body = header ++ body := by rw [encode, hheader]
  obtain ⟨s₁, part₁, ht₁, hp₁, ⟨hok₁, rfl⟩ | hfail₁⟩ := Sink.on_writeAll_prefix s header
  · obtain ⟨s₂, part₂, ht₂, hp₂, hwrite₂⟩ := Sink.on_writeAll_prefix s₁ body
    have hpart : part₁ ++ part₂ <+: encode body := by
      rw [hencode]
      exact (List.prefix_append_right_inj part₁).mpr hp₂
    have htaken : s₂.taken = s.taken ++ (part₁ ++ part₂) := by
      rw [ht₂, ht₁, List.append_assoc]
    rcases hwrite₂ with ⟨hok₂, rfl⟩ | hfail₂
    · refine ⟨{ s₂ with flushes := s₂.flushes + 1 }, _, htaken, hpart, Or.inl ⟨?_, hencode.symm⟩⟩
      simp [send, Operation.on_bind, Nat.not_le.mpr hb, hheader, hok₁, hok₂, Sink.flush]
    · refine ⟨s₂, _, htaken, hpart, Or.inr ⟨s₁.refusal, ?_⟩⟩
      simp [send, Operation.on_bind, Nat.not_le.mpr hb, hheader, hok₁, hfail₂]
  · have hpart : part₁ <+: encode body := by
      rw [hencode]
      exact hp₁.trans (List.prefix_append _ _)
    refine ⟨s₁, part₁, ht₁, hpart, Or.inr ⟨s.refusal, ?_⟩⟩
    simp [send, Operation.on_bind, Nat.not_le.mpr hb, hheader, hfail₁]

/-- No frame is the beginning of another one. -/
theorem eq_of_encode_prefix {body other : List UInt8} (hb : body.length < UInt32.size)
    (ho : other.length < UInt32.size) (h : encode body <+: encode other) : body = other := by
  obtain ⟨rest, hrest⟩ := h
  have hlen : body.length = other.length := by
    have hother := announced_encode ho []
    rwa [List.append_nil, ← hrest, announced_encode hb rest] at hother
  have hdrop := drop_encode other []
  rw [List.append_nil, List.append_nil, ← hrest, drop_encode] at hdrop
  have hsize := congrArg List.length hdrop
  rw [List.length_append] at hsize
  have hnil : rest = [] := List.length_eq_zero_iff.mp (by omega)
  rwa [hnil, List.append_nil] at hdrop

/-- A body that no length word can count is refused before anything is written. -/
theorem on_send_of_ge {body : List UInt8} (hb : UInt32.size ≤ body.length) (s : Sink) :
    (send body).on s = (.error (.frameTooLarge (UInt32.size - 1) (UInt32.size - 1)), s) := by
  simp [send, hb]

/-- What receiving does with the bytes of a source: the header comes first, a length above the limit
ends it there, and otherwise the buffer is emptied before the body is read. -/
theorem on_recv (max : UInt32) (src : Source) (b : Buffer) :
    (recv max).on (src, b) =
      if src.bytes.length < 4 then (.error (.io src.afterwards), src.after 4, b)
      else if max.toNat < announced src.bytes then
        (.error (.frameTooLarge (announced src.bytes) max.toNat), src.after 4, b)
      else
        let body := (src.after 4).after (announced src.bytes)
        if src.bytes.length < 4 + announced src.bytes then
          (.error (.io src.afterwards), body, Buffer.empty)
        else
          (.ok (), body, Buffer.ofBytes ((src.bytes.drop 4).take (announced src.bytes))) := by
  by_cases h4 : src.bytes.length < 4
  · have hread : (Source.readExact 4).on src = (.error src.afterwards, src.after 4) := by
      rw [Source.on_readExact, if_neg (by omega)]
    simp [recv, Operation.on_bind, hread, h4]
  have hread : (Source.readExact 4).on src = (.ok (src.bytes.take 4), src.after 4) := by
    rw [Source.on_readExact, if_pos (by omega)]
  rw [if_neg h4]
  by_cases hmax : max.toNat < announced src.bytes
  · have hv : max.toNat < LittleEndian.value (src.bytes.take 4) := hmax
    simp [recv, Operation.on_bind, hread, hv, announced]
  have hroom : announced src.bytes ≤ Buffer.sizeLimit := by
    have hlt := max.toNat_lt
    exact Buffer.le_sizeLimit (by rw [UInt32.size]; omega)
  have hfill := Buffer.on_fillFrom hroom (src.after 4) b
  have hv : ¬ max.toNat < LittleEndian.value (src.bytes.take 4) := hmax
  have hstart : (recv max).on (src, b) =
      (Buffer.fillFrom (announced src.bytes)).on (src.after 4, b) := by
    simp [recv, Operation.on_bind, hread, hv, announced]
  have hlen : announced src.bytes ≤ (src.after 4).bytes.length ↔
      ¬ src.bytes.length < 4 + announced src.bytes := by
    rw [Source.bytes_after, List.length_drop]; omega
  simp only [hlen, ite_not] at hfill
  rw [if_neg hmax, hstart, hfill, Source.bytes_after, Source.afterwards_after]

/-- A receiver at the start of a frame that it accepts takes exactly that frame. -/
theorem on_recv_encode {max : UInt32} {src : Source} {body rest : List UInt8}
    (h : src.bytes = encode body ++ rest) (hmax : body.length ≤ max.toNat) (b : Buffer) :
    ∃ src', (recv max).on (src, b) = (.ok (), src', Buffer.ofBytes body) ∧
      src'.bytes = rest ∧ src'.afterwards = src.afterwards := by
  have hlt := max.toNat_lt
  have ha : announced src.bytes = body.length := by
    rw [h]; exact announced_encode (by simp only [UInt32.size]; omega) rest
  have hl : src.bytes.length = 4 + body.length + rest.length := by
    rw [h, List.length_append, length_encode]
  have hd : src.bytes.drop 4 = body ++ rest := by rw [h, drop_encode]
  refine ⟨(src.after 4).after body.length, ?_, ?_, rfl⟩
  · rw [on_recv, if_neg (by omega), ha, if_neg (by omega)]
    simp only [if_neg (show ¬ src.bytes.length < 4 + body.length by omega), hd, List.take_left]
  · rw [Source.bytes_after, Source.bytes_after, hd, List.drop_left]

/-- A receiver at the start of a frame that is too long takes the header and leaves the body. -/
theorem on_recv_oversized {max : UInt32} {src : Source} {body rest : List UInt8}
    (h : src.bytes = encode body ++ rest) (hb : body.length < UInt32.size)
    (hmax : max.toNat < body.length) (b : Buffer) :
    ∃ src', (recv max).on (src, b) = (.error (.frameTooLarge body.length max.toNat), src', b) ∧
      src'.bytes = body ++ rest ∧ src'.afterwards = src.afterwards := by
  have ha : announced src.bytes = body.length := by rw [h]; exact announced_encode hb rest
  have hl : src.bytes.length = 4 + body.length + rest.length := by
    rw [h, List.length_append, length_encode]
  refine ⟨src.after 4, ?_, by rw [Source.bytes_after, h, drop_encode], rfl⟩
  rw [on_recv, if_neg (by omega), ha, if_pos hmax]

/-- A receiver fails because the stream does, or because a frame is too long. -/
theorem error_of_on_recv {max : UInt32} {src : Source} {b : Buffer} {e : WireError}
    {p : Source × Buffer} (h : (recv max).on (src, b) = (.error e, p)) :
    (∃ cause, e = .io cause) ∨ ∃ length limit, e = .frameTooLarge length limit := by
  rw [on_recv] at h
  split at h
  · cases h
    exact Or.inl ⟨_, rfl⟩
  split at h
  · cases h
    exact Or.inr ⟨_, _, rfl⟩
  simp only at h
  split at h
  · cases h
    exact Or.inl ⟨_, rfl⟩
  · cases h

/-- A receiver that succeeds took the encoding of what it has in the buffer. -/
theorem encode_of_on_recv {max : UInt32} {src src' : Source} {b b' : Buffer}
    (h : (recv max).on (src, b) = (.ok (), src', b')) :
    b' = Buffer.ofBytes b'.bytes ∧ src.bytes = encode b'.bytes ++ src'.bytes ∧
      b'.bytes.length ≤ max.toNat := by
  rw [on_recv] at h
  split at h
  · cases h
  split at h
  · cases h
  simp only at h
  split at h
  · cases h
  next h4 hmax hl =>
    obtain ⟨-, rfl, rfl⟩ := h
    have hlen : ((src.bytes.drop 4).take (announced src.bytes)).length = announced src.bytes := by
      rw [List.length_take, List.length_drop]; omega
    refine ⟨rfl, ?_, ?_⟩
    · rw [Buffer.bytes_ofBytes, encode, hlen, word_announced (by omega), Source.bytes_after,
        Source.bytes_after, List.append_assoc, List.take_append_drop, List.take_append_drop]
    · rw [Buffer.bytes_ofBytes, hlen]; omega

/-- The bodies of a stream that starts with a frame. -/
theorem bodies_encode {body : List UInt8} (h : body.length < UInt32.size) (rest : List UInt8) :
    bodies (encode body ++ rest) = body :: bodies rest := by
  have ha : LittleEndian.value ((encode body ++ rest).take 4) = body.length :=
    announced_encode h rest
  have hl : (encode body ++ rest).length = 4 + body.length + rest.length := by
    rw [List.length_append, length_encode]
  rw [bodies]
  simp only [ha, hl, drop_encode, List.take_left, List.drop_left]
  rw [if_neg (by omega), if_pos (by omega)]

theorem bodies_nil : bodies [] = [] := by
  rw [bodies]
  rfl

end Frame

end PocketLink
