import PocketLink.Proofs.Wire.Fields

/-!
# Fields and their parts

Every decoder is made of the same few things: values, failures of the field, and bytes taken off the
front, one after another. Three properties follow from that alone, for all fields at once. A field
that is read depends on nothing but its own bytes. A field that fails does so for a reason of its
own. And a field of which only the beginning is there is reported as cut off, since nothing else can
be known about it before its end has come.

A buffer reads a field of several parts at once or part by part. It comes to the same, if the cursor
goes back to the start of the field as soon as one of the parts fails.
-/

namespace PocketLink

/-- Whether a failure is that of a field. -/
def WireError.isOfField : WireError → Bool
  | truncated .. | invalidUtf16 | fieldTooLarge .. => true
  | _ => false

/-! ## Decoders -/

namespace Decoder

variable {α β : Type}

/-- A decoder that fails for reasons of its field only. -/
def IsField (field : Decoder α) : Prop :=
  ∀ unread e, field unread = .error e → e.isOfField = true

/-- What decoders are made of. -/
inductive Composed : {α : Type} → Decoder α → Prop
  | pure {α : Type} (a : α) : Composed (Pure.pure a)
  | throw {α : Type} {e : WireError} (h : e.isOfField = true) :
    Composed (MonadExcept.throw e : Decoder α)
  | take (n : Nat) : Composed (Decoder.take n)
  | bind {α β : Type} {first : Decoder α} {next : α → Decoder β} (h : Composed first)
    (hn : ∀ a, Composed (next a)) : Composed (first >>= next)

theorem composed_u16 : Composed u16 := (Composed.take 2).bind fun _ => .pure _

theorem composed_u32 : Composed u32 := (Composed.take 4).bind fun _ => .pure _

theorem composed_i32 : Composed i32 := composed_u32.bind fun _ => .pure _

theorem composed_text (body : List UInt8) : Composed (liftM (text body) : Decoder String) := by
  cases h : text body with
  | ok s => exact .pure s
  | error e =>
    have hfield : e.isOfField = true := by
      unfold text at h
      split at h
      · cases h
        rfl
      · split at h
        · cases h
        · cases h
          rfl
    exact .throw hfield

theorem composed_string : Composed string :=
  composed_u32.bind fun _ => (Composed.take _).bind composed_text

theorem composed_terminated : Composed terminated :=
  composed_u32.bind fun _ => (Composed.take _).bind composed_text

theorem composed_optional {field : Decoder α} (h : Composed field) : Composed (optional field) := by
  refine composed_u32.bind fun presence => ?_
  split
  · exact .pure none
  · exact h.bind fun a => .pure (some a)

theorem composed_sized (max : Nat) : Composed (sized max) := by
  refine composed_u32.bind fun size => ?_
  split
  · exact .throw rfl
  · exact .take size.toNat

variable {field : Decoder α}

theorem Composed.isField (h : Composed field) : IsField field := by
  induction h with
  | pure a =>
    intro unread e he
    cases he
  | throw h =>
    intro unread e he
    cases he
    exact h
  | take n =>
    intro unread e he
    unfold Decoder.take at he
    split at he
    · cases he
    · cases he
      rfl
  | @bind _ _ first next _ _ ih ihn =>
    intro unread e he
    rw [on_bind] at he
    cases hf : first unread with
    | ok p =>
      rw [hf] at he
      exact ihn p.1 p.2 e he
    | error cause =>
      rw [hf] at he
      cases he
      exact ih unread e hf

/-- A field that is read depends on its own bytes only: whatever stands behind them, they are taken
for the same value. -/
theorem Composed.takes (h : Composed field) {unread rest : List UInt8} {a : α}
    (hf : field unread = .ok (a, rest)) :
    ∃ taken, unread = taken ++ rest ∧ field.Takes taken a := by
  induction h generalizing unread rest with
  | pure b =>
    cases hf
    exact ⟨[], rfl, fun tail => rfl⟩
  | throw h => cases hf
  | take n =>
    unfold Decoder.take at hf
    split at hf
    · next hle =>
      cases hf
      have htakes := take_takes (unread.take n)
      rw [List.length_take_of_le hle] at htakes
      exact ⟨_, (List.take_append_drop n unread).symm, htakes⟩
    · cases hf
  | @bind _ _ first next _ _ ih ihn =>
    rw [on_bind] at hf
    cases hfirst : first unread with
    | error e =>
      rw [hfirst] at hf
      cases hf
    | ok p =>
      rw [hfirst] at hf
      obtain ⟨x, hx, htakes⟩ := ih hfirst
      obtain ⟨y, hy, htakes'⟩ := ihn p.1 hf
      refine ⟨x ++ y, ?_, htakes.bind htakes'⟩
      rw [hx, hy, List.append_assoc]

theorem Takes.whole {bytes : List UInt8} {a : α} (h : field.Takes bytes a) :
    field bytes = .ok (a, []) := by
  have hnil := h []
  rwa [List.append_nil] at hnil

/-- The beginning of two lists in a row ends in the first of them, or somewhere in the second. -/
theorem prefix_append_cases {p x y : List UInt8} (hp : p <+: x ++ y) (hne : p ≠ x ++ y) :
    (p <+: x ∧ p ≠ x) ∨ ∃ q, p = x ++ q ∧ q <+: y ∧ q ≠ y := by
  by_cases hlen : p.length < x.length
  · have hpx : p <+: x :=
      List.prefix_of_prefix_length_le hp (List.prefix_append x y) (Nat.le_of_lt hlen)
    refine Or.inl ⟨hpx, fun heq => ?_⟩
    rw [heq] at hlen
    exact absurd hlen (Nat.lt_irrefl _)
  · have hxp : x <+: p :=
      List.prefix_of_prefix_length_le (List.prefix_append x y) hp (Nat.not_lt.mp hlen)
    obtain ⟨q, rfl⟩ := hxp
    have hq : q <+: y := (List.prefix_append_right_inj x).mp hp
    exact Or.inr ⟨q, rfl, hq, fun heq => hne (by rw [heq])⟩

/-- A field of which only the beginning is there is reported as cut off. What fails is the taking of
a part, and before that nothing is known that could be wrong. -/
theorem Composed.truncated (h : Composed field) {bytes cut : List UInt8} {a : α}
    (ht : field.Takes bytes a) (hp : cut <+: bytes) (hne : cut ≠ bytes) :
    ∃ needed available, available < needed ∧ field cut = .error (.truncated needed available) := by
  have hall := ht.whole
  clear ht
  induction h generalizing bytes cut with
  | pure b =>
    cases hall
    exact absurd (List.prefix_nil.mp hp) hne
  | throw h => cases hall
  | take n =>
    unfold Decoder.take at hall
    split at hall
    · next hle =>
      have hdrop : bytes.drop n = [] := congrArg Prod.snd (Except.ok.inj hall)
      have hlen : cut.length < bytes.length :=
        Nat.lt_of_le_of_ne hp.length_le fun heq => hne (hp.eq_of_length heq)
      have hcut : cut.length < n := by
        have := List.drop_eq_nil_iff.mp hdrop
        omega
      exact ⟨n, cut.length, hcut, take_of_lt hcut⟩
    · cases hall
  | @bind _ _ first next hfirst hnext ih ihn =>
    rw [on_bind] at hall
    cases hf : first bytes with
    | error e =>
      rw [hf] at hall
      cases hall
    | ok p =>
      rw [hf] at hall
      obtain ⟨x, hx, htakes⟩ := hfirst.takes hf
      subst hx
      rcases prefix_append_cases hp hne with ⟨hpx, hnx⟩ | ⟨q, rfl, hq, hnq⟩
      · obtain ⟨needed, available, hlt, herror⟩ := ih hpx hnx htakes.whole
        refine ⟨needed, available, hlt, ?_⟩
        rw [on_bind, herror]
      · obtain ⟨needed, available, hlt, herror⟩ := ihn p.1 hq hnq hall
        refine ⟨needed, available, hlt, ?_⟩
        rw [on_bind, htakes q]
        exact herror

end Decoder

/-! ## Buffers -/

namespace Buffer

variable {α β : Type}

/-- A field is read as a whole, and then its own bytes are what the cursor passes; or it is not
read, and the cursor stays. -/
theorem on_read {field : Decoder α} (h : field.Composed) (b : Buffer) :
    (∃ e, field b.unread = .error e ∧ e.isOfField = true ∧ (read field).on b = (.error e, b)) ∨
      ∃ a taken rest, b.unread = taken ++ rest ∧ field.Takes taken a ∧
        (read field).on b = (.ok a, { consumed := b.consumed ++ taken, unread := rest }) := by
  cases hf : field b.unread with
  | error e => exact Or.inl ⟨e, rfl, h.isField b.unread e hf, read_of_error hf⟩
  | ok p =>
    obtain ⟨taken, hunread, htakes⟩ := h.takes hf
    have hread := reads_of_takes htakes b.consumed p.2
    rw [← hunread] at hread
    exact Or.inr ⟨p.1, taken, p.2, hunread, htakes, hread⟩

theorem read_pure (a : α) : read (pure a : Decoder α) = pure a := by
  refine Operation.ext fun b => ?_
  have htakes : (pure a : Decoder α).Takes [] a := fun _ => rfl
  have hread := reads_of_takes htakes b.consumed b.unread
  rwa [List.append_nil] at hread

theorem read_throw (e : WireError) : read (throw e : Decoder α) = throw e :=
  Operation.ext fun _ => read_of_error rfl

theorem read_lift (answer : Except WireError α) :
    read (liftM answer : Decoder α) = liftM answer := by
  cases answer with
  | ok a => exact read_pure a
  | error e => exact read_throw e

/-- Reading one part behind another at once is reading them one after the other and going back if
the second fails. -/
theorem read_bind {first : Decoder α} {next : α → Decoder β} (h : first.Composed)
    (hn : ∀ a, (next a).Composed) :
    read (first >>= next) = Operation.atomically (read first >>= fun a => read (next a)) := by
  refine Operation.ext fun b => ?_
  rw [Operation.on_atomically]
  rcases on_read h b with ⟨e, hfirst, -, hread⟩ | ⟨a, x, rest, hunread, hx, hread⟩
  · have hall : (first >>= next) b.unread = .error e := by rw [Decoder.on_bind, hfirst]
    rw [Operation.on_bind_error hread, read_of_error hall]
  · rw [Operation.on_bind_ok hread]
    rcases on_read (hn a) { consumed := b.consumed ++ x, unread := rest } with
      ⟨e, hnext, -, hread'⟩ | ⟨v, y, rest', hrest, hy, hread'⟩
    · have hall : (first >>= next) b.unread = .error e := by
        rw [Decoder.on_bind, hunread, hx rest]
        exact hnext
      rw [hread', read_of_error hall]
    · have hall := reads_of_takes (hx.bind hy) b.consumed rest'
      have hrest : rest = y ++ rest' := hrest
      rw [List.append_assoc, ← hrest, ← hunread] at hall
      rw [hread', hall, List.append_assoc]

end Buffer

end PocketLink
