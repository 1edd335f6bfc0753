import PocketLink.Proofs.Wire.Fields

/-!
# Records of fields

A record is a list of fields of any kinds, each with a value of its kind. Its encoding is that of
its fields in order. Writing a record appends the encoding, and reading the kinds of its fields in
the same order gives the record back, up to the zero characters at the ends of its strings, with the
cursor behind the last byte.

The statement for a record is derived from one for each kind, by `Buffer.Appends.bind` and
`Buffer.Reads.bind`; no field looks at what stands behind it.
-/

namespace PocketLink.Record

/-- The kinds of fields. What a reader has to know in advance is part of the kind. -/
inductive Kind where
  /-- A 16-bit word. -/
  | u16
  /-- A word. -/
  | u32
  /-- A signed word. -/
  | i32
  /-- That many bytes as they are. -/
  | bytes (count : Nat)
  /-- A counted string. -/
  | string
  /-- A terminated string. -/
  | terminated
  /-- An optional counted string. -/
  | optionalString
  /-- An optional word. -/
  | optionalU32
  /-- Optional data, of which a reader accepts at most `max` bytes. -/
  | optionalIn (max : Nat)
  /-- The number of bytes that may be filled, if any. -/
  | optionalOut
  /-- A string in the form of a dialect. -/
  | text (d : Dialect)
  /-- An optional string in the form of a dialect. -/
  | optionalText (d : Dialect)

/-- What a field of a kind holds. -/
@[reducible] def Kind.Value : Kind → Type
  | u16 => UInt16
  | u32 => UInt32
  | i32 => Int32
  | bytes _ => List UInt8
  | string => String
  | terminated => String
  | optionalString => Option String
  | optionalU32 => Option UInt32
  | optionalIn _ => Option (List UInt8)
  | optionalOut => Option UInt32
  | text _ => String
  | optionalText _ => Option String

end PocketLink.Record

namespace PocketLink

/-- Fields of any kinds with their values. -/
abbrev Record := List ((kind : Record.Kind) × kind.Value)

namespace Record

/-! ## Fields -/

namespace Kind

/-- Appends a value. -/
def write : (kind : Kind) → kind.Value → BufferM Unit
  | u16, w => Buffer.writeU16 w
  | u32, w => Buffer.writeU32 w
  | i32, i => Buffer.writeI32 i
  | bytes _, data => Buffer.append data
  | string, s => Buffer.writeString s
  | terminated, s => Buffer.writeTerminated s
  | optionalString, s => Buffer.writeOptionalString s
  | optionalU32, w => Buffer.writeOptionalU32 w
  | optionalIn _, data => Buffer.writeOptionalIn data
  | optionalOut, size => Buffer.writeOptionalOut size
  | text d, s => d.writeString s
  | optionalText d, s => d.writeOptionalString s

/-- Reads a value. In the second dialect an optional string is two fields, its presence word and the
string. -/
def read : (kind : Kind) → BufferM kind.Value
  | u16 => Buffer.read Decoder.u16
  | u32 => Buffer.read Decoder.u32
  | i32 => Buffer.read Decoder.i32
  | bytes count => Buffer.read (Decoder.take count)
  | string => Buffer.read Decoder.string
  | terminated => Buffer.read Decoder.terminated
  | optionalString => Buffer.read (Decoder.optional Decoder.string)
  | optionalU32 => Buffer.read (Decoder.optional Decoder.u32)
  | optionalIn max => Buffer.read (Decoder.optional (Decoder.sized max))
  | optionalOut => Buffer.read (Decoder.optional Decoder.u32)
  | text d => d.readString
  | optionalText .v1 => Buffer.read (Decoder.optional Decoder.string)
  | optionalText .v2 => do
    let presence ← Buffer.readU32
    if presence = Encoding.absent then return none
    return some (← Dialect.v2.readString)

/-- Whether a length word can count a string of a dialect. -/
def FitsText (d : Dialect) (s : String) : Prop :=
  match d with
  | .v1 => Utf16.length s < UInt32.size
  | .v2 => 2 * (Utf16.length s + 1) < UInt32.size

instance (d : Dialect) (s : String) : Decidable (FitsText d s) :=
  match d with
  | .v1 => Nat.decLt _ _
  | .v2 => Nat.decLt _ _

/-- Whether a value fits its length word, and what the reader knows in advance. -/
def Fits : (kind : Kind) → kind.Value → Prop
  | bytes count, data => data.length = count
  | string, s => FitsText .v1 s
  | terminated, s => FitsText .v2 s
  | optionalString, s => ∀ t ∈ s, FitsText .v1 t
  | optionalIn max, data => ∀ bytes ∈ data, bytes.length < UInt32.size ∧ bytes.length ≤ max
  | text d, s => FitsText d s
  | optionalText d, s => ∀ t ∈ s, FitsText d t
  | u16, _ | u32, _ | i32, _ | optionalU32, _ | optionalOut, _ => True

instance : (kind : Kind) → (value : kind.Value) → Decidable (kind.Fits value)
  | bytes _, _ => Nat.decEq _ _
  | string, s => inferInstanceAs (Decidable (FitsText .v1 s))
  | terminated, s => inferInstanceAs (Decidable (FitsText .v2 s))
  | optionalString, s => inferInstanceAs (Decidable (∀ t ∈ s, FitsText .v1 t))
  | optionalIn max, data => inferInstanceAs
    (Decidable (∀ bytes ∈ data, bytes.length < UInt32.size ∧ bytes.length ≤ max))
  | text d, s => inferInstanceAs (Decidable (FitsText d s))
  | optionalText d, s => inferInstanceAs (Decidable (∀ t ∈ s, FitsText d t))
  | u16, _ | u32, _ | i32, _ | optionalU32, _ | optionalOut, _ => isTrue trivial

/-- The bytes of a string of a dialect. -/
def encodeText (d : Dialect) (s : String) : List UInt8 :=
  match d with
  | .v1 => Encoding.string s
  | .v2 => Encoding.terminated s

/-- The bytes of a value. -/
def encode : (kind : Kind) → kind.Value → List UInt8
  | u16, w => LittleEndian.u16 w
  | u32, w => Encoding.word w
  | i32, i => Encoding.signed i
  | bytes _, data => data
  | string, s => Encoding.string s
  | terminated, s => Encoding.terminated s
  | optionalString, s => Encoding.optional Encoding.string s
  | optionalU32, w => Encoding.optional Encoding.word w
  | optionalIn _, data => Encoding.optional Encoding.sized data
  | optionalOut, size => Encoding.optional Encoding.word size
  | text d, s => encodeText d s
  | optionalText d, s => Encoding.optional (encodeText d) s

/-- What a value reads back as: strings lose the zero characters at their ends. -/
def readBack : (kind : Kind) → kind.Value → kind.Value
  | string, s => Utf16.trimZeros s
  | terminated, s => Utf16.trimZeros s
  | optionalString, s => s.map Utf16.trimZeros
  | text _, s => Utf16.trimZeros s
  | optionalText _, s => s.map Utf16.trimZeros
  | u16, w => w
  | u32, w => w
  | i32, i => i
  | bytes _, data => data
  | optionalU32, w => w
  | optionalIn _, data => data
  | optionalOut, size => size

/-! ### Each kind by itself -/

theorem appends_text {d : Dialect} {s : String} (h : FitsText d s) :
    Buffer.Appends (d.writeString s) (encodeText d s) := by
  cases d with
  | v1 =>
    have hlt : Utf16.length s < UInt32.size := h
    rw [Dialect.writeString, Buffer.writeString_of_lt hlt]
    exact Buffer.appends_append _
  | v2 =>
    have hlt : 2 * (Utf16.length s + 1) < UInt32.size := h
    rw [Dialect.writeString, Buffer.writeTerminated_of_lt hlt]
    exact Buffer.appends_append _

theorem appends_optionalText {d : Dialect} {s : Option String} (h : ∀ t ∈ s, FitsText d t) :
    Buffer.Appends (d.writeOptionalString s) (Encoding.optional (encodeText d) s) := by
  cases s with
  | none => cases d <;> exact Buffer.appends_append _
  | some t =>
    have hw : Buffer.Appends (Buffer.writeU32 Encoding.present) (Encoding.word Encoding.present) :=
      Buffer.appends_append _
    have both := hw.bind (appends_text (h t rfl))
    cases d with
    | v1 => exact both.atomically
    | v2 => exact both

theorem appends_optionalIn {data : Option (List UInt8)}
    (h : ∀ bytes ∈ data, bytes.length < UInt32.size) :
    Buffer.Appends (Buffer.writeOptionalIn data) (Encoding.optional Encoding.sized data) := by
  cases data with
  | none => exact Buffer.appends_append _
  | some bytes =>
    rw [Buffer.writeOptionalIn, if_pos (h bytes rfl)]
    exact Buffer.appends_append _

/-- Writing a value that fits appends its bytes. -/
theorem appends_write (kind : Kind) {value : kind.Value} (h : kind.Fits value) :
    Buffer.Appends (kind.write value) (kind.encode value) := by
  cases kind with
  | u16 => exact Buffer.appends_append _
  | u32 => exact Buffer.appends_append _
  | i32 => exact Buffer.appends_append _
  | bytes count => exact Buffer.appends_append _
  | string => exact appends_text (d := .v1) h
  | terminated => exact appends_text (d := .v2) h
  | optionalString => exact appends_optionalText (d := .v1) h
  | optionalU32 => exact Buffer.appends_append _
  | optionalIn max => exact appends_optionalIn fun bytes hb => (h bytes hb).1
  | optionalOut => exact Buffer.appends_append _
  | text d => exact appends_text h
  | optionalText d => exact appends_optionalText h

theorem reads_bytes {data : List UInt8} {count : Nat} (h : data.length = count) :
    Buffer.Reads (Buffer.read (Decoder.take count)) data data := by
  subst h
  exact Buffer.reads_of_takes (Decoder.take_takes data)

theorem reads_optional {α : Type} {field : Decoder α} {enc : α → List UInt8} {back : α → α}
    {value : Option α} (h : ∀ a ∈ value, field.Takes (enc a) (back a)) :
    Buffer.Reads (Buffer.read (Decoder.optional field)) (Encoding.optional enc value)
      (value.map back) := by
  cases value with
  | none => exact Buffer.reads_of_takes (Decoder.optional_takes_none field)
  | some a => exact Buffer.reads_of_takes (Decoder.optional_takes_some (h a rfl))

/-- An optional field whose values read back as they are. -/
theorem reads_optional_self {α : Type} {field : Decoder α} {enc : α → List UInt8}
    {value : Option α} (h : ∀ a ∈ value, field.Takes (enc a) a) :
    Buffer.Reads (Buffer.read (Decoder.optional field)) (Encoding.optional enc value) value := by
  have hid : ∀ a ∈ value, field.Takes (enc a) (id a) := h
  have := reads_optional hid
  rwa [Option.map_id] at this

theorem reads_text {d : Dialect} {s : String} (h : FitsText d s) :
    Buffer.Reads d.readString (encodeText d s) (Utf16.trimZeros s) := by
  cases d with
  | v1 => exact Buffer.reads_of_takes (Decoder.string_takes h)
  | v2 => exact Buffer.reads_of_takes (Decoder.terminated_takes h)

theorem reads_optionalText {d : Dialect} {s : Option String} (h : ∀ t ∈ s, FitsText d t) :
    Buffer.Reads (read (optionalText d)) (Encoding.optional (encodeText d) s)
      (s.map Utf16.trimZeros) := by
  have hw (w : UInt32) : Buffer.Reads Buffer.readU32 (Encoding.word w) w :=
    Buffer.reads_of_takes (Decoder.u32_takes w)
  cases d with
  | v1 => exact reads_optional fun t ht => Decoder.string_takes (h t ht)
  | v2 =>
    cases s with
    | none => exact (hw Encoding.absent).map fun _ => none
    | some t => exact (hw Encoding.present).bind ((reads_text (d := .v2) (h t rfl)).map some)

/-- Reading a value that fits answers what it reads back as. -/
theorem reads_read (kind : Kind) {value : kind.Value} (h : kind.Fits value) :
    Buffer.Reads kind.read (kind.encode value) (kind.readBack value) := by
  cases kind with
  | u16 => exact Buffer.reads_of_takes (Decoder.u16_takes value)
  | u32 => exact Buffer.reads_of_takes (Decoder.u32_takes value)
  | i32 => exact Buffer.reads_of_takes (Decoder.i32_takes value)
  | bytes count => exact reads_bytes h
  | string => exact reads_text (d := .v1) h
  | terminated => exact reads_text (d := .v2) h
  | optionalString => exact reads_optionalText (d := .v1) h
  | optionalU32 => exact reads_optional_self fun w _ => Decoder.u32_takes w
  | optionalIn max =>
    exact reads_optional_self fun bytes hb => Decoder.sized_takes (h bytes hb).1 (h bytes hb).2
  | optionalOut => exact reads_optional_self fun w _ => Decoder.u32_takes w
  | text d => exact reads_text h
  | optionalText d => exact reads_optionalText h

end Kind

/-! ## Records -/

/-- The kinds of the fields, which is what a reader knows. -/
def kinds (record : Record) : List Kind := record.map Sigma.fst

/-- Appends the fields in order. -/
def write : Record → BufferM Unit
  | [] => pure ()
  | field :: rest => do
    field.1.write field.2
    write rest

/-- Reads fields of the given kinds in order. -/
def read : List Kind → BufferM Record
  | [] => pure []
  | kind :: rest => do
    let value ← kind.read
    let values ← read rest
    return ⟨kind, value⟩ :: values

/-- The bytes of the fields in order. -/
def encode (record : Record) : List UInt8 := record.flatMap fun field => field.1.encode field.2

/-- What the fields read back as. -/
def readBack (record : Record) : Record :=
  record.map fun field => ⟨field.1, field.1.readBack field.2⟩

/-- Whether all fields fit. -/
def Fits (record : Record) : Prop := ∀ field ∈ record, field.1.Fits field.2

instance (record : Record) : Decidable record.Fits :=
  inferInstanceAs (Decidable (∀ field ∈ record, field.1.Fits field.2))

theorem appends_write {record : Record} (fits : record.Fits) :
    Buffer.Appends record.write record.encode := by
  induction record with
  | nil => exact Buffer.appends_pure
  | cons field rest ih =>
    have hf := Kind.appends_write field.1 (fits field (List.mem_cons_self ..))
    exact hf.bind (ih fun other ho => fits other (List.mem_cons_of_mem _ ho))

theorem reads_read {record : Record} (fits : record.Fits) :
    Buffer.Reads (read record.kinds) record.encode record.readBack := by
  induction record with
  | nil => exact Buffer.reads_pure []
  | cons field rest ih =>
    have hf := Kind.reads_read field.1 (fits field (List.mem_cons_self ..))
    have hr := ih fun other ho => fits other (List.mem_cons_of_mem _ ho)
    exact hf.bind (hr.map _)

/-- Writing a record appends its encoding, if memory has room for it. Reading its kinds from the
first byte of the encoding gives the record back, with the cursor at the end of the encoding,
whatever stands before it and behind it. -/
theorem record_round_trip (record : Record) (fits : record.Fits) :
    Buffer.Appends record.write record.encode ∧
      Buffer.Reads (read record.kinds) record.encode record.readBack :=
  ⟨appends_write fits, reads_read fits⟩

/-- A record with a field of most kinds: pairs of units, zero characters inside a string and at its
end, empty strings and empty data. -/
def mixed : Record :=
  [⟨.u16, 0xBEEF⟩, ⟨.string, "\\Temp\\😀.txt\x00"⟩, ⟨.i32, -2⟩, ⟨.terminated, ""⟩,
    ⟨.optionalString, some ""⟩, ⟨.optionalText .v2, some "a\x00b\x00\x00"⟩,
    ⟨.optionalText .v1, none⟩, ⟨.bytes 3, [7, 8, 9]⟩, ⟨.optionalIn 16, some []⟩,
    ⟨.optionalOut, some 512⟩, ⟨.text .v1, "x"⟩]

theorem record_round_trip_mixed :
    mixed.Fits ∧ Buffer.Appends mixed.write mixed.encode ∧
      Buffer.Reads (read mixed.kinds) mixed.encode mixed.readBack := by
  have fits : mixed.Fits := by decide
  exact ⟨fits, record_round_trip mixed fits⟩

end Record

end PocketLink
