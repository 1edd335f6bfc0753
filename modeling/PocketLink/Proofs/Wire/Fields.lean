import Mathlib.Data.List.DropRight
import PocketLink.Dialect
import PocketLink.Wire.Buffer

/-!
# What a field reads back as

An encoding of a value stands at the front of some bytes; a decoder takes exactly the encoding and
answers the value, whatever follows. `Decoder.Takes` says so, and it holds of a field of several
parts when it holds of the parts. `Buffer.Appends` and `Buffer.Reads` say the same of the two
directions on a buffer: what a write appends, and how far a read moves the cursor.

A string comes back without the zero characters at its end, because the zero units that end a string
on the wire are told from those of the text by nothing.
-/

namespace PocketLink

/-! ## Texts and zero units -/

namespace Utf16

/-- A text without the zero characters at its end. -/
def trimZeros (text : String) : String :=
  String.ofList (text.toList.rdropWhile (· == '\x00'))

/-- The last unit of a character other than the zero character is not zero. -/
theorem ofChar_concat {c : Char} (h : c ≠ '\x00') :
    ∃ init last, ofChar c = init ++ [last] ∧ last ≠ 0 := by
  have hc := toNat_valid c
  have hpos : c.toNat ≠ 0 := fun h0 => h (Char.toNat_inj.mp h0)
  by_cases hlt : c.toNat < 0x10000
  · refine ⟨[], UInt16.ofNat c.toNat, ofChar_of_lt hlt, fun h0 => hpos ?_⟩
    have := congrArg UInt16.toNat h0
    simp only [UInt16.toNat_ofNat', UInt16.toNat_zero] at this
    omega
  · refine ⟨[_], _, ofChar_of_ge hlt, fun h0 => ?_⟩
    have := congrArg UInt16.toNat h0
    simp only [UInt16.toNat_ofNat', UInt16.toNat_zero] at this
    omega

/-- Zero units at the end of a text are its zero characters there. -/
theorem stripZeros_encode (text : String) :
    Decoder.stripZeros (encode text) = encode (trimZeros text) := by
  have key : ∀ cs : List Char, (cs.flatMap ofChar).rdropWhile (· == 0) =
      (cs.rdropWhile (· == '\x00')).flatMap ofChar := by
    intro cs
    induction cs using List.reverseRecOn with
    | nil => rfl
    | append_singleton cs c ih =>
      by_cases hc : c = '\x00'
      · have h0 : ofChar c = [0] := by rw [hc]; rfl
        rw [List.flatMap_append, List.flatMap_singleton, h0, List.rdropWhile_concat_pos _ _ _ rfl,
          List.rdropWhile_concat_pos _ _ _ (by simp [hc]), ih]
      · obtain ⟨init, last, hl, hne⟩ := ofChar_concat hc
        rw [List.rdropWhile_concat_neg _ _ _ (by simpa using hc), List.flatMap_append,
          List.flatMap_singleton, hl, ← List.append_assoc,
          List.rdropWhile_concat_neg _ _ _ (by simpa using hne)]
  show (text.toList.flatMap ofChar).rdropWhile (· == 0) = _
  rw [key, encode, trimZeros, String.toList_ofList]

example : trimZeros "a\x00b\x00\x00" = "a\x00b" := by decide

/-- The zero unit behind a text is stripped with those of the text. -/
theorem stripZeros_encode_zero (text : String) :
    Decoder.stripZeros (encode text ++ [0]) = encode (trimZeros text) := by
  rw [← stripZeros_encode]
  exact List.rdropWhile_concat_pos _ _ _ rfl

end Utf16

/-! ## Decoders -/

namespace Decoder

variable {α β : Type}

/-- A decoder takes an encoding off the front of any bytes and answers a value for it. -/
def Takes (field : Decoder α) (encoding : List UInt8) (value : α) : Prop :=
  ∀ tail, field (encoding ++ tail) = .ok (value, tail)

theorem Takes.bind {first : Decoder α} {next : α → Decoder β} {x y : List UInt8} {a : α} {b : β}
    (h₁ : first.Takes x a) (h₂ : (next a).Takes y b) : (first >>= next).Takes (x ++ y) b := by
  intro tail
  rw [on_bind, List.append_assoc, h₁ (y ++ tail)]
  exact h₂ tail

/-- A decoder that only computes with what another one took takes the same bytes. -/
theorem Takes.map {first : Decoder α} {x : List UInt8} {a : α} (f : α → β)
    (h : first.Takes x a) : (first >>= fun v => pure (f v)).Takes x (f a) := by
  intro tail
  rw [on_bind, h tail]
  rfl

theorem take_takes (bytes : List UInt8) : (take bytes.length).Takes bytes bytes :=
  take_append bytes

theorem u16_takes (w : UInt16) : u16.Takes (LittleEndian.u16 w) w := by
  have h := (take_takes (LittleEndian.u16 w)).map fun bytes =>
    UInt16.ofNat (LittleEndian.value bytes)
  rwa [LittleEndian.value_u16, UInt16.ofNat_toNat] at h

theorem u32_takes (w : UInt32) : u32.Takes (Encoding.word w) w := u32_append w

theorem i32_takes (i : Int32) : i32.Takes (Encoding.signed i) i :=
  (u32_takes i.toUInt32).map UInt32.toInt32

/-- The body of a string whose units are those of a text, as far as they are not stripped. -/
theorem text_ofUnits {units : List UInt16} {s : String}
    (h : stripZeros units = Utf16.encode s) : text (LittleEndian.ofUnits units) = .ok s := by
  simp [text, h]

/-- A length word and the bytes that it announces, of which a text is made. -/
theorem prefixed_takes {announced : Nat} {units : List UInt16} {s : String} (size : Nat → Nat)
    (hlt : announced < UInt32.size) (hsize : size announced = 2 * units.length)
    (h : stripZeros units = Utf16.encode s) :
    (u32 >>= fun w => take (size w.toNat) >>= fun body => liftM (text body)).Takes
      (Encoding.prefixed announced units) s := by
  refine (u32_takes (UInt32.ofNat announced)).bind fun tail => ?_
  have hw : (UInt32.ofNat announced).toNat = announced := UInt32.toNat_ofNat_of_lt' hlt
  rw [hw, hsize, ← LittleEndian.length_ofUnits, on_bind, take_append]
  simp only [text_ofUnits h]
  rfl

theorem string_takes {s : String} (h : Utf16.length s < UInt32.size) :
    string.Takes (Encoding.string s) (Utf16.trimZeros s) :=
  prefixed_takes (2 * ·) h rfl (Utf16.stripZeros_encode s)

theorem terminated_takes {s : String} (h : 2 * (Utf16.length s + 1) < UInt32.size) :
    terminated.Takes (Encoding.terminated s) (Utf16.trimZeros s) :=
  prefixed_takes id h (by simp [Utf16.length]) (Utf16.stripZeros_encode_zero s)

theorem optional_takes_none (field : Decoder α) :
    (optional field).Takes (Encoding.word Encoding.absent) none :=
  (u32_takes Encoding.absent).map fun _ => none

theorem optional_takes_some {field : Decoder α} {x : List UInt8} {a : α} (h : field.Takes x a) :
    (optional field).Takes (Encoding.word Encoding.present ++ x) (some a) :=
  (u32_takes Encoding.present).bind (h.map some)

theorem sized_takes {data : List UInt8} {max : Nat} (hlt : data.length < UInt32.size)
    (hmax : data.length ≤ max) : (sized max).Takes (Encoding.sized data) data := by
  refine (u32_takes (UInt32.ofNat data.length)).bind fun tail => ?_
  have hw : (UInt32.ofNat data.length).toNat = data.length := UInt32.toNat_ofNat_of_lt' hlt
  simp only [hw, if_neg (Nat.not_lt.mpr hmax)]
  exact take_append data tail

end Decoder

/-! ## Buffers -/

namespace Buffer

variable {α β : Type}

/-- A write appends an encoding to every buffer that has room for it. Where memory has room for the
buffer but not for the encoding too, the write fails for want of it. -/
def Appends (act : BufferM Unit) (encoding : List UInt8) : Prop :=
  ∀ b : Buffer,
    (b.length + encoding.length ≤ sizeLimit →
      act.on b = (.ok (), { b with unread := b.unread ++ encoding })) ∧
    (b.length ≤ sizeLimit → sizeLimit < b.length + encoding.length →
      ∃ requested, (act.on b).1 = .error (.alloc requested))

/-- A read answers a value and moves the cursor from the first byte of an encoding to the byte
behind its last one, whatever is in front of it and behind it. -/
def Reads (act : BufferM α) (encoding : List UInt8) (value : α) : Prop :=
  ∀ before tail, act.on { consumed := before, unread := encoding ++ tail } =
    (.ok value, { consumed := before ++ encoding, unread := tail })

theorem appends_append (bytes : List UInt8) : Appends (append bytes) bytes :=
  fun _ => ⟨append_of_le, fun _ h => ⟨_, by rw [append_of_gt h]⟩⟩

theorem appends_pure : Appends (pure ()) [] := by
  refine fun b => ⟨fun _ => by simp, fun hb h => ?_⟩
  simp only [List.length_nil] at h
  omega

theorem Appends.bind {first second : BufferM Unit} {x y : List UInt8} (h₁ : Appends first x)
    (h₂ : Appends second y) : Appends (first >>= fun _ => second) (x ++ y) := by
  intro b
  obtain ⟨fits, full⟩ := h₁ b
  have hlen : ({ b with unread := b.unread ++ x } : Buffer).length = b.length + x.length := by
    simp only [length, List.length_append]; omega
  obtain ⟨fits', full'⟩ := h₂ { b with unread := b.unread ++ x }
  rw [hlen] at fits' full'
  rw [List.length_append]
  refine ⟨fun h => ?_, fun hb h => ?_⟩
  · rw [Operation.on_bind_ok (fits (by omega)), fits' (by omega), List.append_assoc]
  · by_cases hx : b.length + x.length ≤ sizeLimit
    · rw [Operation.on_bind_ok (fits hx)]
      exact full' hx (by omega)
    · obtain ⟨requested, hr⟩ := full hb (by omega)
      refine ⟨requested, ?_⟩
      have he : first.on b = (.error (.alloc requested), (first.on b).2) := Prod.ext hr rfl
      rw [Operation.on_bind_error he]

theorem Appends.atomically {act : BufferM Unit} {x : List UInt8} (h : Appends act x) :
    Appends (Operation.atomically act) x := by
  intro b
  obtain ⟨fits, full⟩ := h b
  refine ⟨fun hb => ?_, fun hb hx => ?_⟩
  · rw [Operation.on_atomically, fits hb]
  · obtain ⟨requested, hr⟩ := full hb hx
    have he : act.on b = (.error (.alloc requested), (act.on b).2) := Prod.ext hr rfl
    exact ⟨requested, by rw [Operation.on_atomically, he]⟩

theorem reads_pure (a : α) : Reads (pure a) [] a := fun before tail => by simp

theorem Reads.bind {first : BufferM α} {next : α → BufferM β} {x y : List UInt8} {a : α} {b : β}
    (h₁ : Reads first x a) (h₂ : Reads (next a) y b) : Reads (first >>= next) (x ++ y) b := by
  intro before tail
  rw [List.append_assoc, Operation.on_bind_ok (h₁ before (y ++ tail)), h₂, List.append_assoc]

/-- A read that only computes with what another one answered moves the cursor as that one does. -/
theorem Reads.map {first : BufferM α} {x : List UInt8} {a : α} (f : α → β) (h : Reads first x a) :
    Reads (first >>= fun v => pure (f v)) x (f a) := by
  intro before tail
  rw [Operation.on_bind_ok (h before tail), Operation.on_pure]

/-- Reading with a decoder moves the cursor over what the decoder takes. -/
theorem reads_of_takes {field : Decoder α} {x : List UInt8} {a : α} (h : field.Takes x a) :
    Reads (read field) x a := by
  intro before tail
  rw [read_of_ok (h tail)]
  simp [advance]

end Buffer

end PocketLink
