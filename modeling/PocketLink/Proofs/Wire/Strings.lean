import PocketLink.Proofs.Text.Utf16
import PocketLink.Proofs.Wire.Grammar
import PocketLink.Proofs.Wire.Receiving

/-!
# Reading strings

The unread bytes decide what becomes of reading a string. They break off within the length word or
within the body that it announces, or else they lead with a whole field. Its body is made of units
and of zero units behind them, unless it is of odd length; and the units are those of exactly one
text, unless some surrogate among them is unpaired. Every string that was read is thus known from
its field, and a field with as many zero units as are written is what writing the string again
gives.
-/

namespace PocketLink

namespace Dialect

/-- How many bytes a length word announces: it counts units, or bytes. -/
def bodySize : Dialect → UInt32 → Nat
  | v1, n => 2 * n.toNat
  | v2, n => n.toNat

/-- How many zero units are written behind those of a text. -/
def terminators : Dialect → Nat
  | v1 => 0
  | v2 => 1

end Dialect

namespace StringField

/-- Bytes that lead with a whole string field: a length word, and a body as long as it announces. -/
structure Leads (d : Dialect) (unread : List UInt8) (n : UInt32) (body rest : List UInt8) :
    Prop where
  bytes : unread = Encoding.word n ++ (body ++ rest)
  size : body.length = d.bodySize n

/-- Bytes that end within a string field: in its length word, or in the body that this announces. Of
the bytes that are needed there, so many are available. -/
inductive BreaksOff (d : Dialect) : List UInt8 → Nat → Nat → Prop
  | word {unread : List UInt8} (h : unread.length < 4) : BreaksOff d unread 4 unread.length
  | body {n : UInt32} {rest : List UInt8} (h : rest.length < d.bodySize n) :
    BreaksOff d (Encoding.word n ++ rest) (d.bodySize n) rest.length

/-- A body of units, of which the last is not zero, and of zero units behind them. -/
structure Carries (body : List UInt8) (units : List UInt16) (zeros : Nat) : Prop where
  bytes : body = LittleEndian.ofUnits (units ++ List.replicate zeros 0)
  stripped : units.getLast? ≠ some 0

/-- A body that has no text: a unit of it is cut in half, or some surrogate is unpaired. -/
inductive Garbled (body : List UInt8) : Prop
  | odd (h : body.length % 2 = 1)
  | unpaired {units : List UInt16} (h : body = LittleEndian.ofUnits units)
    (hu : Utf16.Unpaired units)

variable {d : Dialect} {n : UInt32} {body rest : List UInt8} {b : Buffer}

/-! ## Bodies -/

theorem stripZeros_eq_self_iff {units : List UInt16} :
    Decoder.stripZeros units = units ↔ units.getLast? ≠ some 0 := by
  have hself : Decoder.stripZeros units = units ↔ _ := List.rdropWhile_eq_self_iff
  rw [hself]
  cases units using List.reverseRecOn <;> simp

theorem trimZeros_eq_self_iff {s : String} :
    Utf16.trimZeros s = s ↔ (Utf16.encode s).getLast? ≠ some 0 := by
  rw [← stripZeros_eq_self_iff, Utf16.stripZeros_encode]
  exact ⟨congrArg Utf16.encode, Utf16.encode_injective⟩

theorem text_eq_ok_iff {s : String} :
    Decoder.text body = .ok s ↔ ∃ zeros, Carries body (Utf16.encode s) zeros := by
  rw [Decoder.text_eq_ok_iff, trimZeros_eq_self_iff]
  constructor
  · rintro ⟨hlast, zeros, hbody⟩
    exact ⟨zeros, hbody, hlast⟩
  · rintro ⟨zeros, hbody, hlast⟩
    exact ⟨hlast, zeros, hbody⟩

theorem wellFormed_stripZeros (units : List UInt16) :
    Utf16.WellFormed (Decoder.stripZeros units) ↔ Utf16.WellFormed units := by
  obtain ⟨zeros, hzeros⟩ := Decoder.exists_stripped units
  conv_rhs => rw [hzeros]
  exact (Utf16.wellFormed_append_zeros zeros).symm

theorem garbled_iff_of_even (h : body.length % 2 = 0) :
    Garbled body ↔ Utf16.decode? (Decoder.stripZeros (LittleEndian.toUnits body)) = none := by
  rw [Utf16.decode?_eq_none_iff, wellFormed_stripZeros, Utf16.not_wellFormed_iff_unpaired]
  constructor
  · rintro (hodd | ⟨rfl, hu⟩)
    · omega
    · rwa [LittleEndian.toUnits_ofUnits]
  · exact fun hu => .unpaired (LittleEndian.ofUnits_toUnits h).symm hu

theorem text_eq_error_iff {e : WireError} :
    Decoder.text body = .error e ↔ e = .invalidUtf16 ∧ Garbled body := by
  unfold Decoder.text
  split
  · next hodd =>
    have hgarbled : Garbled body := .odd (by omega)
    simp [hgarbled, eq_comm]
  · next heven =>
    rw [garbled_iff_of_even (Decidable.not_not.mp heven)]
    cases Utf16.decode? (Decoder.stripZeros (LittleEndian.toUnits body)) with
    | none => simp [eq_comm]
    | some s => simp

/-! ## Fields -/

theorem readString_eq (d : Dialect) :
    d.readString = Buffer.read (Decoder.u32 >>= fun n =>
      Decoder.take (d.bodySize n) >>= fun body => liftM (Decoder.text body)) := by
  cases d <;> rfl

theorem breaksOff_or_leads (d : Dialect) (unread : List UInt8) :
    (∃ needed available, BreaksOff d unread needed available) ∨
      ∃ n body rest, Leads d unread n body rest := by
  by_cases hword : unread.length < 4
  · exact Or.inl ⟨_, _, .word hword⟩
  obtain ⟨n, behind, rfl⟩ := Frame.exists_word (Nat.not_lt.mp hword)
  by_cases hbody : behind.length < d.bodySize n
  · exact Or.inl ⟨_, _, .body hbody⟩
  · refine Or.inr ⟨n, behind.take (d.bodySize n), behind.drop (d.bodySize n), ?_, ?_⟩
    · rw [List.take_append_drop]
    · exact List.length_take_of_le (Nat.not_lt.mp hbody)

theorem on_readString_of_breaksOff {needed available : Nat}
    (h : BreaksOff d b.unread needed available) :
    d.readString.on b = (.error (.truncated needed available), b) := by
  rw [readString_eq]
  refine Buffer.read_of_error ?_
  rw [Decoder.on_bind]
  generalize b.unread = unread at h
  cases h with
  | word h => rw [Decoder.u32, Decoder.on_bind, Decoder.take_of_lt h]
  | body h =>
    rw [Decoder.u32_append]
    show (Decoder.take _ >>= _) _ = _
    rw [Decoder.on_bind, Decoder.take_of_lt h]

theorem on_readString_of_leads (h : Leads d b.unread n body rest) :
    d.readString.on b =
      match Decoder.text body with
      | .ok s => (.ok s, { consumed := b.consumed ++ (Encoding.word n ++ body), unread := rest })
      | .error e => (.error e, b) := by
  have hfield : (Decoder.u32 >>= fun n => Decoder.take (d.bodySize n) >>= fun body =>
      liftM (Decoder.text body)) b.unread = (liftM (Decoder.text body) : Decoder String) rest := by
    rw [h.bytes, Decoder.on_bind, Decoder.u32_append]
    show (Decoder.take _ >>= _) _ = _
    rw [Decoder.on_bind, ← h.size, Decoder.take_append]
  rw [readString_eq]
  cases htext : Decoder.text body with
  | error e =>
    rw [htext] at hfield
    exact Buffer.read_of_error hfield
  | ok s =>
    rw [htext] at hfield
    rw [Buffer.read_of_ok hfield, Buffer.advance, h.bytes, ← List.append_assoc, List.length_append,
      Nat.add_sub_cancel, List.take_left, List.drop_left]

/-- The unread bytes break off, or they lead with a field that has no text, or with one that has. -/
theorem on_readString_cases (d : Dialect) (b : Buffer) :
    (∃ needed available, BreaksOff d b.unread needed available ∧
        d.readString.on b = (.error (.truncated needed available), b)) ∨
      (∃ n body rest, Leads d b.unread n body rest ∧ Garbled body ∧
        d.readString.on b = (.error .invalidUtf16, b)) ∨
      ∃ n body rest s zeros, Leads d b.unread n body rest ∧ Carries body (Utf16.encode s) zeros ∧
        d.readString.on b =
          (.ok s, { consumed := b.consumed ++ (Encoding.word n ++ body), unread := rest }) := by
  rcases breaksOff_or_leads d b.unread with ⟨needed, available, hcut⟩ | ⟨n, body, rest, hleads⟩
  · exact Or.inl ⟨needed, available, hcut, on_readString_of_breaksOff hcut⟩
  have hread := on_readString_of_leads hleads
  cases htext : Decoder.text body with
  | error e =>
    obtain ⟨rfl, hgarbled⟩ := text_eq_error_iff.mp htext
    rw [htext] at hread
    exact Or.inr (Or.inl ⟨n, body, rest, hleads, hgarbled, hread⟩)
  | ok s =>
    obtain ⟨zeros, hbody⟩ := text_eq_ok_iff.mp htext
    rw [htext] at hread
    exact Or.inr (Or.inr ⟨n, body, rest, s, zeros, hleads, hbody, hread⟩)

theorem on_readString_ok_iff {s : String} {after : Buffer} :
    d.readString.on b = (.ok s, after) ↔
      ∃ n body rest zeros, Leads d b.unread n body rest ∧ Carries body (Utf16.encode s) zeros ∧
        after = { consumed := b.consumed ++ (Encoding.word n ++ body), unread := rest } := by
  constructor
  · intro hread
    rcases on_readString_cases d b with ⟨_, _, -, hcut⟩ | ⟨_, _, _, -, -, hbad⟩ |
      ⟨n, body, rest, _, zeros, hleads, hbody, hok⟩
    · rw [hcut] at hread
      cases hread
    · rw [hbad] at hread
      cases hread
    · rw [hok] at hread
      cases hread
      exact ⟨n, body, rest, zeros, hleads, hbody, rfl⟩
  · rintro ⟨n, body, rest, zeros, hleads, hbody, rfl⟩
    rw [on_readString_of_leads hleads, text_eq_ok_iff.mpr ⟨zeros, hbody⟩]

/-- A failure leaves the cursor, and is that of the place where the bytes break off, if they do. -/
theorem on_readString_error_iff {e : WireError} {after : Buffer} :
    d.readString.on b = (.error e, after) ↔
      after = b ∧
        ((∃ needed available, BreaksOff d b.unread needed available ∧
            e = .truncated needed available) ∨
          ((∃ n body rest, Leads d b.unread n body rest ∧ Garbled body) ∧ e = .invalidUtf16)) := by
  constructor
  · intro hread
    rcases on_readString_cases d b with ⟨needed, available, hbreaks, hcut⟩ |
      ⟨n, body, rest, hleads, hgarbled, hbad⟩ | ⟨_, _, _, _, _, -, -, hok⟩
    · rw [hcut] at hread
      cases hread
      exact ⟨rfl, Or.inl ⟨needed, available, hbreaks, rfl⟩⟩
    · rw [hbad] at hread
      cases hread
      exact ⟨rfl, Or.inr ⟨⟨n, body, rest, hleads, hgarbled⟩, rfl⟩⟩
    · rw [hok] at hread
      cases hread
  · rintro ⟨rfl, ⟨needed, available, hbreaks, rfl⟩ | ⟨⟨n, body, rest, hleads, hgarbled⟩, rfl⟩⟩
    · exact on_readString_of_breaksOff hbreaks
    · rw [on_readString_of_leads hleads, text_eq_error_iff.mpr ⟨rfl, hgarbled⟩]

/-! ## Writing again -/

/-- The bytes that are written for the text of a field are those of the field, if it has as many
zero units at its end as are written. -/
theorem writeString_eq_append {s : String} (hsize : body.length = d.bodySize n)
    (hbody : Carries body (Utf16.encode s) d.terminators) :
    d.writeString s = Buffer.append (Encoding.word n ++ body) := by
  -- The length of the field was read from a word, so that of the text fits one again.
  have hn := n.toNat_lt
  rw [hbody.bytes, LittleEndian.length_ofUnits, List.length_append, List.length_replicate] at hsize
  cases d with
  | v1 =>
    have hcount : Utf16.length s = n.toNat := by
      rw [Dialect.bodySize, Dialect.terminators] at hsize
      rw [Utf16.length]
      omega
    have hfits : Utf16.length s < UInt32.size := hcount ▸ hn
    show Buffer.writeString s = _
    rw [Buffer.writeString_of_lt hfits, Encoding.string, Encoding.prefixed, hcount,
      UInt32.ofNat_toNat, hbody.bytes, Dialect.terminators, List.replicate_zero, List.append_nil]
  | v2 =>
    have hcount : 2 * (Utf16.length s + 1) = n.toNat := hsize
    have hfits : 2 * (Utf16.length s + 1) < UInt32.size := hcount ▸ hn
    show Buffer.writeTerminated s = _
    rw [Buffer.writeTerminated_of_lt hfits, Encoding.terminated, Encoding.prefixed, hcount,
      UInt32.ofNat_toNat, hbody.bytes]
    rfl

/-- No field is too large for an empty buffer. -/
theorem Leads.length_le {unread : List UInt8} (h : Leads d unread n body rest) :
    (Encoding.word n ++ body).length ≤ Buffer.sizeLimit := by
  have hn := n.toNat_lt
  have hword : (Encoding.word n).length = 4 := LittleEndian.length_u32 n
  have hbody : body.length ≤ 2 * n.toNat := by
    rw [h.size]
    cases d with
    | v1 => exact Nat.le_refl _
    | v2 => exact Nat.le_mul_of_pos_left _ (by decide)
  rw [List.length_append, hword]
  exact Buffer.le_sizeLimit (by rw [UInt32.size]; omega)

/-! ## The main statement -/

/-- Strings are read by their grammar. From any bytes and any place of the cursor, reading succeeds
if and only if the unread bytes lead with a field whose units, without the zero units at their end,
are well formed. Then it answers the one text that has these units, and moves the cursor over
exactly the field; and writing that text gives the field again, if it has as many zero units as are
written. Otherwise the cursor stays. The failure is that of bytes that break off, with what was
needed where they do, or else, when the whole body is there, that of units that are cut or
unpaired. -/
theorem strings_read_by_grammar (d : Dialect) (b : Buffer) :
    ((∃ text after, d.readString.on b = (.ok text, after)) ↔
      ∃ n body rest units zeros, Leads d b.unread n body rest ∧ Carries body units zeros ∧
        Utf16.WellFormed units) ∧
    (∀ text after, d.readString.on b = (.ok text, after) →
      ∃ n body rest units zeros, Leads d b.unread n body rest ∧ Carries body units zeros ∧
        (∀ other, Utf16.encode other = units ↔ other = text) ∧
        after = { consumed := b.consumed ++ (Encoding.word n ++ body), unread := rest } ∧
        (zeros = d.terminators →
          Buffer.Appends (d.writeString text) (Encoding.word n ++ body) ∧
            (d.writeString text).on .empty = (.ok (), .ofBytes (Encoding.word n ++ body)))) ∧
    ∀ e after, d.readString.on b = (.error e, after) ↔
      after = b ∧
        ((∃ needed available, BreaksOff d b.unread needed available ∧
            e = .truncated needed available) ∨
          ((∃ n body rest, Leads d b.unread n body rest ∧ Garbled body) ∧ e = .invalidUtf16)) := by
  refine ⟨⟨?_, ?_⟩, ?_, fun e after => on_readString_error_iff⟩
  · rintro ⟨text, after, hread⟩
    obtain ⟨n, body, rest, zeros, hleads, hbody, -⟩ := on_readString_ok_iff.mp hread
    exact ⟨n, body, rest, _, zeros, hleads, hbody,
      Utf16.wellFormed_iff_exists_encode.mpr ⟨text, rfl⟩⟩
  · rintro ⟨n, body, rest, units, zeros, hleads, hbody, hunits⟩
    obtain ⟨text, rfl⟩ := Utf16.wellFormed_iff_exists_encode.mp hunits
    exact ⟨text, _, on_readString_ok_iff.mpr ⟨n, body, rest, zeros, hleads, hbody, rfl⟩⟩
  · intro text after hread
    obtain ⟨n, body, rest, zeros, hleads, hbody, hafter⟩ := on_readString_ok_iff.mp hread
    refine ⟨n, body, rest, _, zeros, hleads, hbody,
      fun other => ⟨Utf16.encode_injective, congrArg _⟩, hafter, ?_⟩
    rintro rfl
    rw [writeString_eq_append hleads.size hbody]
    have hfits : Buffer.empty.length + (Encoding.word n ++ body).length ≤ Buffer.sizeLimit :=
      (Nat.zero_add _).trans_le hleads.length_le
    exact ⟨Buffer.appends_append _, Buffer.append_of_le hfits⟩

/-- A zero in the middle of a text stays, and the one behind it does not. A high surrogate is not
paired by a zero that is stripped off behind it. Bytes that break off are reported as that, also
where the body would be of odd length. -/
example :
    (Dialect.v1.readString.on (.ofBytes [4, 0, 0, 0, 97, 0, 0, 0, 98, 0, 0, 0, 7])).1 =
        .ok "a\x00b" ∧
      (Dialect.v2.readString.on (.ofBytes [4, 0, 0, 0, 61, 216, 0, 0])).1 =
        .error .invalidUtf16 ∧
      (Dialect.v2.readString.on (.ofBytes [3, 0, 0, 0, 61, 216])).1 = .error (.truncated 3 2) := by
  decide +kernel

end StringField

end PocketLink
