import PocketLink.Proofs.Wire.AllOrNothing

/-!
# Records that break off

Where the bytes of a record break off, reading it breaks off: the fields in front of the cut are
read as they were written, and the field that was cut is reported as truncated, with the cursor at
its start. Nothing else is ever reported, whatever part of a field the cut is in.

For one field this holds of everything that decoders are made of, and for a record by going through
its fields.
-/

namespace PocketLink

/-- A decoder that reads an encoding takes it, whatever stands behind. -/
theorem Buffer.takes_of_reads {α : Type} {d : Decoder α} {bytes : List UInt8} {a : α}
    (hd : d.Composed) (h : Reads (read d) bytes a) : d.Takes bytes a := by
  intro tail
  have hread := h [] tail
  rcases on_read hd { consumed := [], unread := bytes ++ tail } with
    ⟨e, -, -, herror⟩ | ⟨value, taken, rest, -, htakes, hok⟩
  · rw [herror] at hread
    cases hread
  · rw [hok] at hread
    cases hread
    exact htakes tail

namespace Record

/-- A single field of which only the beginning is there is reported as truncated, and the cursor
stays at its start. -/
theorem Kind.on_read_cut {kind : Kind} (single : kind.IsSingle) {value : kind.Value}
    (fits : kind.Fits value) {cut : List UInt8} (hp : cut <+: kind.encode value)
    (hne : cut ≠ kind.encode value) (before : List UInt8) :
    ∃ needed available, available < needed ∧
      kind.read.on { consumed := before, unread := cut } =
        (.error (.truncated needed available), { consumed := before, unread := cut }) := by
  obtain ⟨d, hd, hread⟩ := exists_decoder single
  have hreads := reads_read kind fits
  rw [hread] at hreads
  have htakes : d.Takes (kind.encode value) (kind.readBack value) :=
    Buffer.takes_of_reads hd hreads
  obtain ⟨needed, available, hlt, herror⟩ := hd.truncated htakes hp hne
  refine ⟨needed, available, hlt, ?_⟩
  rw [hread]
  exact Buffer.read_of_error herror

/-- Reading one kind after another breaks off where the first of them does. -/
theorem on_read_append_error {first : List Kind} {kind : Kind} {rest : List Kind} {b b₁ : Buffer}
    {values : Record} {e : WireError} (hfirst : (read first).on b = (.ok values, b₁))
    (herror : kind.read.on b₁ = (.error e, b₁)) :
    (read (first ++ kind :: rest)).on b = (.error e, b₁) := by
  induction first generalizing b values with
  | nil =>
    cases hfirst
    exact Operation.on_bind_error herror
  | cons k more ih =>
    rcases hk : k.read.on b with ⟨e' | value, b₂⟩
    · have hfail : (read (k :: more)).on b = (.error e', b₂) := Operation.on_bind_error hk
      rw [hfail] at hfirst
      cases hfirst
    · have hstep (kinds : List Kind) : (read (k :: kinds)).on b =
          (read kinds >>= fun values => pure (⟨k, value⟩ :: values)).on b₂ :=
        Operation.on_bind_ok hk
      rw [hstep] at hfirst
      rcases hmore : (read more).on b₂ with ⟨e' | values', b₃⟩
      · rw [Operation.on_bind_error hmore] at hfirst
        cases hfirst
      · rw [Operation.on_bind_ok hmore] at hfirst
        cases hfirst
        rw [List.cons_append, hstep]
        exact Operation.on_bind_error (ih hmore)

/-- Where a record is cut: behind some fields, and in the middle of the next one. -/
theorem exists_cut {record : Record} {cut : List UInt8} (hp : cut <+: record.encode)
    (hne : cut ≠ record.encode) :
    ∃ (done : Record) (field : (kind : Kind) × kind.Value) (rest : Record) (left : List UInt8),
      record = done ++ field :: rest ∧ cut = done.encode ++ left ∧
        left <+: field.1.encode field.2 ∧ left ≠ field.1.encode field.2 := by
  induction record generalizing cut with
  | nil => exact absurd (List.prefix_nil.mp hp) hne
  | cons field rest ih =>
    have hencode : encode (field :: rest) = field.1.encode field.2 ++ encode rest := rfl
    rw [hencode] at hp hne
    rcases Decoder.prefix_append_cases hp hne with ⟨hin, hcut⟩ | ⟨more, rfl, hmore, hcut⟩
    · exact ⟨[], field, rest, cut, rfl, rfl, hin, hcut⟩
    · obtain ⟨done, next, others, left, rfl, rfl, hin, hleft⟩ := ih hmore hcut
      refine ⟨field :: done, next, others, left, rfl, ?_, hin, hleft⟩
      exact (List.append_assoc _ _ _).symm

/-- Truncation is reported as truncation. Of a record of single fields that fit, let the bytes break
off anywhere before the end. Then the fields in front of the cut read back as they were written, and
the one that was cut is reported as truncated, since it needs more bytes than there are; the cursor
is left at its start. -/
theorem truncation_reported {record : Record} (fits : record.Fits)
    (single : ∀ field ∈ record, field.1.IsSingle) {cut : List UInt8} (hp : cut <+: record.encode)
    (hne : cut ≠ record.encode) (before : List UInt8) :
    ∃ (done : Record) (field : (kind : Kind) × kind.Value) (rest : Record)
        (left : List UInt8) (needed available : Nat),
      let start : Buffer := { consumed := before, unread := cut }
      let stop : Buffer := { consumed := before ++ done.encode, unread := left }
      record = done ++ field :: rest ∧ cut = done.encode ++ left ∧
        left <+: field.1.encode field.2 ∧ left ≠ field.1.encode field.2 ∧
        available < needed ∧
        (read done.kinds).on start = (.ok done.readBack, stop) ∧
        field.1.read.on stop = (.error (.truncated needed available), stop) ∧
        (read record.kinds).on start = (.error (.truncated needed available), stop) := by
  obtain ⟨done, field, rest, left, rfl, rfl, hin, hcut⟩ := exists_cut hp hne
  have hfield : field ∈ done ++ field :: rest :=
    List.mem_append_right done (List.mem_cons_self ..)
  have hdone : done.Fits := fun other hother => fits other (List.mem_append_left _ hother)
  obtain ⟨needed, available, hlt, herror⟩ :=
    Kind.on_read_cut (single field hfield) (fits field hfield) hin hcut (before ++ done.encode)
  have hread := reads_read hdone before left
  have hkinds : kinds (done ++ field :: rest) = done.kinds ++ field.1 :: kinds rest :=
    List.map_append
  refine ⟨done, field, rest, left, needed, available, rfl, rfl, hin, hcut, hlt, hread, herror, ?_⟩
  rw [hkinds]
  exact on_read_append_error hread herror

/-- A record that is cut between the two units of a pair. -/
theorem truncation_reported_pair :
    let record : Record := [⟨.u16, 0xBEEF⟩, ⟨.optionalIn 16, some [7]⟩,
      ⟨.optionalString, some "a😀\x00"⟩, ⟨.u32, 5⟩]
    let cut := record.encode.take 23
    let stop : Buffer := { consumed := record.encode.take 11
                           unread := [1, 0, 0, 0, 4, 0, 0, 0, 97, 0, 61, 216] }
    record.Fits ∧ (∀ field ∈ record, field.1.IsSingle) ∧ cut <+: record.encode ∧
      cut ≠ record.encode ∧ ∃ needed available, available < needed ∧
        (read record.kinds).on (Buffer.ofBytes cut) =
          (.error (.truncated needed available), stop) := by
  intro record cut stop
  have fits : record.Fits := by decide
  have single : ∀ field ∈ record, field.1.IsSingle := by decide
  have hp : cut <+: record.encode := List.take_prefix 23 _
  have hne : cut ≠ record.encode := by decide
  obtain ⟨done, field, rest, left, needed, available, -, -, -, -, hlt, -, -, hread⟩ :=
    truncation_reported fits single hp hne []
  have hstop : ((read record.kinds).on (Buffer.ofBytes cut)).2 = stop := by decide +kernel
  have hread : (read record.kinds).on (Buffer.ofBytes cut) = _ := hread
  rw [hread] at hstop
  exact ⟨fits, single, hp, hne, needed, available, hlt, hread.trans (Prod.ext rfl hstop)⟩

end Record

end PocketLink
