import PocketLink.Proofs.Wire.Fields

/-!
# What decoders accept

A form says which bytes stand for which value of a field. A decoder recognizes a form if it takes
bytes of that form off the front of what is unread, and nothing else: whenever it answers a value,
the bytes that it took stand for that value.

The bytes of a value need not be unique. Any presence word but zero announces an optional value, and
any number of zero units may stand behind a text.
-/

namespace PocketLink

/-- The bytes that may stand for each value of a field. -/
abbrev Form (α : Type) := α → List UInt8 → Prop

/-- The number that stands before the units of a string: that of the units, or that of their
bytes. -/
def Dialect.measure : Dialect → List UInt16 → Nat
  | v1, units => units.length
  | v2, units => 2 * units.length

namespace Form

variable {α β : Type}

/-- No bytes, for one value. -/
def only (v : α) : Form α := fun a bytes => a = v ∧ bytes = []

/-- One field behind another. -/
def seq (first : Form α) (next : α → Form β) : Form β := fun b bytes =>
  ∃ a x y, first a x ∧ next a b y ∧ bytes = x ++ y

def word : Form UInt32 := fun w bytes => bytes = Encoding.word w

/-- A string of a dialect: a text without zero characters at its end, and any number of zero units
behind it. -/
def text (d : Dialect) : Form String := fun s bytes =>
  Utf16.trimZeros s = s ∧ ∃ zeros,
    let units := Utf16.encode s ++ List.replicate zeros 0
    d.measure units < UInt32.size ∧ bytes = Encoding.prefixed (d.measure units) units

/-- At most `max` bytes behind their length word. -/
def sized (max : Nat) : Form (List UInt8) := fun data bytes =>
  data.length ≤ max ∧ data.length < UInt32.size ∧ bytes = Encoding.sized data

/-- An optional field. -/
def optional (form : Form α) : Form (Option α)
  | none, bytes => bytes = Encoding.word Encoding.absent
  | some a, bytes => ∃ presence field, presence ≠ Encoding.absent ∧ form a field ∧
      bytes = Encoding.word presence ++ field

/-- Optional data of at most `max` bytes; absent data is no data. -/
def data (max : Nat) : Form (List UInt8) := fun bytes encoding =>
  ∃ field, optional (sized max) field encoding ∧ bytes = field.getD []

end Form

/-! ## Texts and the units behind them -/

namespace Decoder

/-- What is stripped off some units is zero units. -/
theorem exists_stripped (units : List UInt16) :
    ∃ zeros, units = stripZeros units ++ List.replicate zeros 0 := by
  let zeros := units.reverse.takeWhile (· == 0)
  have hzeros : zeros = List.replicate zeros.length 0 := by
    rw [List.eq_replicate_iff]
    refine ⟨rfl, fun u hu => ?_⟩
    have hall : zeros.all (· == 0) = true := List.all_takeWhile
    exact eq_of_beq (List.all_eq_true.mp hall u hu)
  have hsplit : zeros ++ units.reverse.dropWhile (· == 0) = units.reverse :=
    List.takeWhile_append_dropWhile
  refine ⟨zeros.length, ?_⟩
  rw [← List.reverse_inj, ← hsplit, List.reverse_append, stripZeros, List.reverse_reverse,
    List.reverse_replicate, ← hzeros]

theorem stripZeros_append_zeros (units : List UInt16) (zeros : Nat) :
    stripZeros (units ++ List.replicate zeros 0) = stripZeros units := by
  induction zeros with
  | zero => rw [List.replicate_zero, List.append_nil]
  | succ zeros ih =>
    rw [List.replicate_succ', ← List.append_assoc, ← ih]
    exact List.rdropWhile_concat_pos _ _ _ rfl

/-- The body of a string is the units of its text and zero units behind them. -/
theorem text_eq_ok_iff {body : List UInt8} {s : String} :
    text body = .ok s ↔ Utf16.trimZeros s = s ∧ ∃ zeros,
      body = LittleEndian.ofUnits (Utf16.encode s ++ List.replicate zeros 0) := by
  constructor
  · intro h
    unfold text at h
    split at h
    · cases h
    next heven =>
    split at h
    · next t hdecode =>
      cases h
      -- The units that are left when the zeros are gone are those of a text, which therefore has
      -- none at its end itself.
      rw [Utf16.decode?_eq_some_iff] at hdecode
      obtain ⟨zeros, hunits⟩ := exists_stripped (LittleEndian.toUnits body)
      rw [hdecode] at hunits
      have hstrip : Utf16.encode (Utf16.trimZeros s) = Utf16.encode s := by
        rw [← Utf16.stripZeros_encode, ← stripZeros_append_zeros _ zeros, ← hunits, hdecode]
      have htrim := congrArg Utf16.decode? hstrip
      rw [Utf16.decode?_encode, Utf16.decode?_encode] at htrim
      refine ⟨Option.some.inj htrim, zeros, ?_⟩
      rw [← hunits, LittleEndian.ofUnits_toUnits (Decidable.not_not.mp heven)]
    · cases h
  · rintro ⟨htrim, zeros, rfl⟩
    refine text_ofUnits ?_
    rw [stripZeros_append_zeros, Utf16.stripZeros_encode, htrim]

/-! ## Decoders -/

variable {α β : Type}

/-- A decoder takes the bytes of a form off the front of the unread ones, and no others. -/
def Recognizes (field : Decoder α) (form : Form α) : Prop :=
  ∀ unread a rest, field unread = .ok (a, rest) ↔ ∃ bytes, form a bytes ∧ unread = bytes ++ rest

theorem Recognizes.takes {field : Decoder α} {form : Form α} (h : field.Recognizes form) {a : α}
    {bytes : List UInt8} (ha : form a bytes) : field.Takes bytes a :=
  fun tail => (h _ a tail).mpr ⟨bytes, ha, rfl⟩

theorem Recognizes.congr {field : Decoder α} {form form' : Form α} (h : field.Recognizes form)
    (hform : ∀ a bytes, form a bytes ↔ form' a bytes) : field.Recognizes form' := by
  intro unread a rest
  simp only [h unread a rest, hform]

theorem recognizes_pure (v : α) : Recognizes (pure v) (Form.only v) := by
  intro unread a rest
  constructor
  · intro h
    cases h
    exact ⟨[], ⟨rfl, rfl⟩, rfl⟩
  · rintro ⟨_, ⟨rfl, rfl⟩, rfl⟩
    rfl

theorem Recognizes.bind {first : Decoder α} {next : α → Decoder β} {form : Form α}
    {forms : α → Form β} (h : first.Recognizes form) (hn : ∀ a, (next a).Recognizes (forms a)) :
    (first >>= next).Recognizes (form.seq forms) := by
  intro unread b rest
  constructor
  · intro hb
    rw [on_bind] at hb
    split at hb
    · next a middle hfirst =>
      obtain ⟨x, hx, rfl⟩ := (h unread a middle).mp hfirst
      obtain ⟨y, hy, rfl⟩ := (hn a middle b rest).mp hb
      exact ⟨x ++ y, ⟨a, x, y, hx, hy, rfl⟩, (List.append_assoc x y rest).symm⟩
    · cases hb
  · rintro ⟨_, ⟨a, x, y, hx, hy, rfl⟩, rfl⟩
    exact (h.takes hx).bind ((hn a).takes hy) rest

theorem recognizes_take (n : Nat) :
    Recognizes (take n) fun taken bytes => bytes = taken ∧ taken.length = n := by
  intro unread taken rest
  constructor
  · intro h
    unfold take at h
    split at h
    · next hle =>
      cases h
      exact ⟨_, ⟨rfl, List.length_take_of_le hle⟩, (List.take_append_drop n unread).symm⟩
    · cases h
  · rintro ⟨_, ⟨rfl, rfl⟩, rfl⟩
    exact take_append _ rest

theorem recognizes_u32 : Recognizes u32 Form.word := by
  refine ((recognizes_take 4).bind fun bytes => recognizes_pure _).congr fun w bytes => ?_
  constructor
  · rintro ⟨taken, _, _, ⟨rfl, hlen⟩, ⟨rfl, rfl⟩, rfl⟩
    rw [List.append_nil, Form.word]
    exact (LittleEndian.u32_value hlen).symm
  · rintro rfl
    have hw : w = UInt32.ofNat (LittleEndian.value (Encoding.word w)) := by simp [Encoding.word]
    have hlen : (Encoding.word w).length = 4 := LittleEndian.length_u32 w
    exact ⟨Encoding.word w, _, [], ⟨rfl, hlen⟩, ⟨hw, rfl⟩, (List.append_nil _).symm⟩

/-- A length word, and as many bytes as it says, of which a text is made. -/
theorem recognizes_prefixed (size : Nat → Nat) :
    Recognizes (u32 >>= fun w => take (size w.toNat) >>= fun body => liftM (text body))
      fun s bytes => ∃ w body, body.length = size w.toNat ∧ text body = .ok s ∧
        bytes = Encoding.word w ++ body := by
  have htext (body : List UInt8) : Recognizes (liftM (text body)) fun s bytes =>
      text body = .ok s ∧ bytes = [] := by
    intro unread s rest
    cases h : text body with
    | ok t =>
      constructor
      · intro hs
        cases hs
        exact ⟨[], ⟨rfl, rfl⟩, rfl⟩
      · rintro ⟨_, ⟨hs, rfl⟩, rfl⟩
        cases hs
        rfl
    | error e =>
      constructor
      · intro hs
        cases hs
      · rintro ⟨_, ⟨hs, -⟩, -⟩
        cases hs
  refine (recognizes_u32.bind fun w => (recognizes_take _).bind htext).congr fun s bytes => ?_
  constructor
  · rintro ⟨w, _, _, rfl, ⟨body, _, _, ⟨rfl, hlen⟩, ⟨hs, rfl⟩, rfl⟩, rfl⟩
    exact ⟨w, _, hlen, hs, by rw [List.append_nil]⟩
  · rintro ⟨w, body, hlen, hs, rfl⟩
    have hbody : body = body ++ [] := (List.append_nil body).symm
    exact ⟨w, _, body, rfl, ⟨body, body, [], ⟨rfl, hlen⟩, ⟨hs, rfl⟩, hbody⟩, rfl⟩

/-- The string decoder of a dialect. -/
theorem recognizes_text {d : Dialect} (size : Nat → Nat)
    (hsize : ∀ units announced, size announced = (LittleEndian.ofUnits units).length ↔
      announced = d.measure units) :
    Recognizes (u32 >>= fun w => take (size w.toNat) >>= fun body => liftM (text body))
      (Form.text d) := by
  refine (recognizes_prefixed size).congr fun s bytes => ?_
  constructor
  · rintro ⟨w, body, hlen, hs, rfl⟩
    obtain ⟨htrim, zeros, rfl⟩ := text_eq_ok_iff.mp hs
    have hw := (hsize _ _).mp hlen.symm
    refine ⟨htrim, zeros, ?_, ?_⟩
    · rw [← hw]
      exact w.toNat_lt
    · rw [Encoding.prefixed, ← hw, UInt32.ofNat_toNat]
  · rintro ⟨htrim, zeros, hlt, rfl⟩
    have hw := UInt32.toNat_ofNat_of_lt' hlt
    exact ⟨_, _, ((hsize _ _).mpr hw).symm, text_eq_ok_iff.mpr ⟨htrim, zeros, rfl⟩, rfl⟩

theorem recognizes_string : Recognizes string (Form.text .v1) := by
  refine recognizes_text (2 * ·) fun units announced => ?_
  rw [LittleEndian.length_ofUnits, Dialect.measure]
  omega

theorem recognizes_terminated : Recognizes terminated (Form.text .v2) := by
  refine recognizes_text id fun units announced => ?_
  rw [LittleEndian.length_ofUnits, Dialect.measure, id]

theorem recognizes_optional {field : Decoder α} {form : Form α} (h : field.Recognizes form) :
    Recognizes (optional field) form.optional := by
  have hnext (presence : UInt32) :
      Recognizes
        (if presence = Encoding.absent then pure none else field >>= fun a => pure (some a))
        fun o bytes => presence = Encoding.absent ∧ o = none ∧ bytes = [] ∨
          presence ≠ Encoding.absent ∧ ∃ a, form a bytes ∧ o = some a := by
    by_cases hp : presence = Encoding.absent
    · rw [if_pos hp]
      exact (recognizes_pure none).congr fun o bytes => by simp [Form.only, hp]
    · rw [if_neg hp]
      refine (h.bind fun a => recognizes_pure (some a)).congr fun o bytes => ?_
      simp [Form.seq, Form.only, hp]
  refine (recognizes_u32.bind hnext).congr fun o bytes => ?_
  cases o with
  | none => simp [Form.seq, Form.word, Form.optional]
  | some a =>
    constructor
    · rintro ⟨presence, _, field, rfl, ⟨-, ho, -⟩ | ⟨hp, b, hb, ho⟩, rfl⟩
      · cases ho
      · cases ho
        exact ⟨presence, field, hp, hb, rfl⟩
    · rintro ⟨presence, field, hp, ha, rfl⟩
      exact ⟨presence, _, field, rfl, Or.inr ⟨hp, a, ha, rfl⟩, rfl⟩

theorem recognizes_sized (max : Nat) : Recognizes (sized max) (Form.sized max) := by
  have hnext (size : UInt32) :
      Recognizes (if max < size.toNat then throw (.fieldTooLarge size.toNat max)
          else take size.toNat)
        fun data bytes => size.toNat ≤ max ∧ bytes = data ∧ data.length = size.toNat := by
    by_cases hmax : max < size.toNat
    · rw [if_pos hmax]
      intro unread data rest
      constructor
      · intro h
        cases h
      · rintro ⟨_, ⟨hle, -⟩, -⟩
        exact absurd hmax (Nat.not_lt.mpr hle)
    · rw [if_neg hmax]
      refine (recognizes_take size.toNat).congr fun data bytes => ?_
      simp [Nat.not_lt.mp hmax]
  refine (recognizes_u32.bind hnext).congr fun data bytes => ?_
  constructor
  · rintro ⟨size, _, _, rfl, ⟨hle, rfl, hlen⟩, rfl⟩
    refine ⟨hlen ▸ hle, hlen ▸ size.toNat_lt, ?_⟩
    rw [Encoding.sized, hlen, UInt32.ofNat_toNat]
  · rintro ⟨hle, hlt, rfl⟩
    have hsize := UInt32.toNat_ofNat_of_lt' hlt
    exact ⟨_, _, data, rfl, ⟨hsize.symm ▸ hle, rfl, hsize.symm⟩, rfl⟩

end Decoder

end PocketLink
