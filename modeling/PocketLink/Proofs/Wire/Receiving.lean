import PocketLink.Proofs.Wire.Frames

/-!
# Receiving against decoding

A receiver reads a frame off a stream that comes in pieces. What it makes of them is what a decoder
makes of all the bytes at once: a stream that ends within the length word, a length that is too
large, a stream that ends within the body, or a frame. So the answer, the buffer and what is left of
the stream depend on the bytes alone.
-/

namespace PocketLink.Frame

/-- What becomes of the frame at the front of a stream. -/
structure Reception where
  answer : Except WireError Unit
  buffer : Buffer
  /-- How many bytes of the stream are used up. -/
  used : Nat

/-- Decodes the frame at the front of all bytes of a stream, for a buffer that holds something. -/
def reception (max : UInt32) (stream : List UInt8) (b : Buffer) : Reception :=
  match Decoder.u32 stream with
  | .error _ => { answer := .error (.io .endOfStream), buffer := b, used := stream.length }
  | .ok (length, rest) =>
    if max < length then
      { answer := .error (.frameTooLarge length.toNat max.toNat), buffer := b, used := 4 }
    else
      match Decoder.take length.toNat rest with
      | .error _ =>
        { answer := .error (.io .endOfStream), buffer := Buffer.empty, used := stream.length }
      | .ok (body, _) =>
        { answer := .ok (), buffer := Buffer.ofBytes body, used := 4 + length.toNat }

section

variable {max length : UInt32} {stream rest : List UInt8}

theorem reception_of_short (h : stream.length < 4) (b : Buffer) :
    reception max stream b = ⟨.error (.io .endOfStream), b, stream.length⟩ := by
  have hshort : Decoder.u32 stream = .error (.truncated 4 stream.length) := by
    rw [Decoder.u32, Decoder.on_bind, Decoder.take_of_lt h]
  rw [reception, hshort]

theorem reception_of_long (hmax : max < length) (b : Buffer) :
    reception max (Encoding.word length ++ rest) b =
      ⟨.error (.frameTooLarge length.toNat max.toNat), b, 4⟩ := by
  rw [reception, Decoder.u32_append]
  exact if_pos hmax

theorem reception_of_cut (hmax : length ≤ max) (h : rest.length < length.toNat) (b : Buffer) :
    reception max (Encoding.word length ++ rest) b =
      ⟨.error (.io .endOfStream), Buffer.empty, 4 + rest.length⟩ := by
  have hsize : (Encoding.word length ++ rest).length = 4 + rest.length := by
    rw [List.length_append, Encoding.word, LittleEndian.length_u32]
  rw [reception, Decoder.u32_append, hsize]
  simp only [if_neg (UInt32.not_lt.mpr hmax), Decoder.take_of_lt h]

theorem reception_of_whole (hmax : length ≤ max) (h : length.toNat ≤ rest.length) (b : Buffer) :
    reception max (Encoding.word length ++ rest) b =
      ⟨.ok (), Buffer.ofBytes (rest.take length.toNat), 4 + length.toNat⟩ := by
  rw [reception, Decoder.u32_append]
  simp only [if_neg (UInt32.not_lt.mpr hmax), Decoder.take, if_pos h]

/-- A stream of four bytes or more starts with a length word. -/
theorem exists_word (h : 4 ≤ stream.length) :
    ∃ length rest, stream = Encoding.word length ++ rest :=
  ⟨_, stream.drop 4, by rw [word_announced h, List.take_append_drop]⟩

end

/-- Receiving comes to what decoding comes to, if the stream ends behind its last byte. -/
theorem on_recv_eq_reception {src : Source} (hend : src.afterwards = .endOfStream) (max : UInt32)
    (b : Buffer) :
    let r := reception max src.bytes b
    ∃ src', (recv max).on (src, b) = (r.answer, src', r.buffer) ∧
      src'.bytes = src.bytes.drop r.used := by
  have hall (n : Nat) (h : src.bytes.length ≤ n) :
      src.bytes.drop n = src.bytes.drop src.bytes.length := by
    rw [List.drop_of_length_le h, List.drop_length]
  intro r
  by_cases hshort : src.bytes.length < 4
  · have hr : r = ⟨.error (.io .endOfStream), b, src.bytes.length⟩ := reception_of_short hshort b
    refine ⟨src.after 4, ?_, ?_⟩
    · rw [on_recv, if_pos hshort, hr, hend]
    · rw [Source.bytes_after, hr]
      exact hall 4 (Nat.le_of_lt hshort)
  obtain ⟨length, rest, hbytes⟩ := exists_word (Nat.not_lt.mp hshort)
  have hword : (Encoding.word length).length = 4 := LittleEndian.length_u32 _
  have hannounced : announced src.bytes = length.toNat := by
    rw [announced, hbytes, ← hword, List.take_left, Encoding.word, LittleEndian.value_u32]
  have hrest : src.bytes.drop 4 = rest := by rw [hbytes, ← hword, List.drop_left]
  have hsize : src.bytes.length = 4 + rest.length := by rw [hbytes, List.length_append, hword]
  have hr : r = reception max (Encoding.word length ++ rest) b := by rw [← hbytes]
  by_cases hlong : max.toNat < length.toNat
  · rw [reception_of_long hlong] at hr
    refine ⟨src.after 4, ?_, ?_⟩
    · rw [on_recv, if_neg hshort, hannounced, if_pos hlong, hr]
    · rw [Source.bytes_after, hr]
  have hmax : length ≤ max := Nat.not_lt.mp hlong
  refine ⟨(src.after 4).after length.toNat, ?_⟩
  rw [on_recv, if_neg hshort, hannounced, if_neg hlong, Source.bytes_after, Source.bytes_after,
    List.drop_drop, hrest]
  by_cases hcut : rest.length < length.toNat
  · rw [reception_of_cut hmax hcut, ← hsize] at hr
    rw [hr, hend]
    exact ⟨if_pos (by omega), hall _ (by omega)⟩
  · rw [reception_of_whole hmax (Nat.not_lt.mp hcut)] at hr
    rw [hr]
    exact ⟨if_neg (by omega), rfl⟩

/-- A receiver is a decoder of the whole stream, in whatever pieces that comes and however often it
is interrupted, whatever the buffer holds and whatever is accepted. A stream that ends within the
length word leaves the buffer; so does a length that is too large, which is all that is taken then;
a stream that ends within the body leaves the buffer empty; and otherwise exactly one frame is
taken, and the buffer holds its body. -/
theorem received_as_decoded (max : UInt32) (arrivals : List Arrival) (b : Buffer) :
    let src : Source := { arrivals }
    let r := reception max src.bytes b
    (∃ src', (recv max).on (src, b) = (r.answer, src', r.buffer) ∧
        src'.bytes = src.bytes.drop r.used) ∧
      (src.bytes.length < 4 → r.answer = .error (.io .endOfStream) ∧ r.buffer = b) ∧
      (∀ length rest, src.bytes = Encoding.word length ++ rest →
        (max < length →
          r.answer = .error (.frameTooLarge length.toNat max.toNat) ∧ r.buffer = b ∧ r.used = 4) ∧
        (length ≤ max → rest.length < length.toNat →
          r.answer = .error (.io .endOfStream) ∧ r.buffer.bytes = [] ∧ r.buffer.position = 0) ∧
        (length ≤ max → length.toNat ≤ rest.length →
          r.answer = .ok () ∧ r.used = 4 + length.toNat ∧
            r.buffer.bytes = rest.take length.toNat ∧ r.buffer.length = length.toNat ∧
            r.buffer.position = 0)) ∧
      ∀ arrivals' : List Arrival,
        let other : Source := { arrivals := arrivals' }
        other.bytes = src.bytes →
          ((recv max).on (other, b)).1 = ((recv max).on (src, b)).1 ∧
            ((recv max).on (other, b)).2.2 = ((recv max).on (src, b)).2.2 ∧
            ((recv max).on (other, b)).2.1.bytes = ((recv max).on (src, b)).2.1.bytes := by
  intro src r
  have hend : src.afterwards = .endOfStream := rfl
  obtain ⟨src', hrecv, hleft⟩ := on_recv_eq_reception hend max b
  refine ⟨⟨src', hrecv, hleft⟩, fun hshort => ?_, fun length rest hbytes => ?_,
    fun arrivals' => ?_⟩
  · have hr : r = ⟨.error (.io .endOfStream), b, src.bytes.length⟩ := reception_of_short hshort b
    rw [hr]
    exact ⟨rfl, rfl⟩
  · have hr : r = reception max (Encoding.word length ++ rest) b := by rw [← hbytes]
    refine ⟨fun hmax => ?_, fun hmax hcut => ?_, fun hmax hwhole => ?_⟩
    · rw [hr, reception_of_long hmax]
      exact ⟨rfl, rfl, rfl⟩
    · rw [hr, reception_of_cut hmax hcut]
      exact ⟨rfl, rfl, rfl⟩
    · rw [hr, reception_of_whole hmax hwhole]
      have hlen : (Buffer.ofBytes (rest.take length.toNat)).length = length.toNat := by
        rw [Buffer.length_eq, Buffer.bytes_ofBytes, List.length_take_of_le hwhole]
      exact ⟨rfl, rfl, rfl, hlen, rfl⟩
  · intro other hsame
    have hend' : other.afterwards = .endOfStream := rfl
    obtain ⟨other', hrecv', hleft'⟩ := on_recv_eq_reception hend' max b
    rw [hsame] at hrecv' hleft'
    rw [hrecv, hrecv']
    exact ⟨rfl, rfl, hleft'.trans hleft.symm⟩

end PocketLink.Frame
