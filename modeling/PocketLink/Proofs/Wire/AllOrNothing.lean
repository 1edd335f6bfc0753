import PocketLink.Proofs.Wire.Parts
import PocketLink.Proofs.Wire.Record
import PocketLink.Wire.Frame

/-!
# All or nothing

A field is written as a whole or not at all, and read as a whole or not at all. A buffer therefore
never holds half a field, whatever was done to it and whatever of that failed: to leave the failed
actions out comes to the same buffer.

The optional string of the second dialect is the exception, because it is two fields. Its presence
word stays behind when there is no room for the string, or when no word can count it.
-/

namespace PocketLink

namespace Buffer

/-! ## Writing -/

/-- A write appends all of an encoding, or it leaves the buffer as it was. -/
def AllOrNothing (act : BufferM Unit) (encoding : List UInt8) : Prop :=
  ∀ b : Buffer, act.on b = (.ok (), { b with unread := b.unread ++ encoding }) ∨
    ∃ e, act.on b = (.error e, b)

theorem allOrNothing_append (bytes : List UInt8) : AllOrNothing (append bytes) bytes := by
  intro b
  by_cases h : b.length + bytes.length ≤ sizeLimit
  · exact Or.inl (append_of_le h)
  · exact Or.inr ⟨_, append_of_gt (Nat.not_le.mp h)⟩

theorem allOrNothing_throw (e : WireError) (encoding : List UInt8) :
    AllOrNothing (throw e) encoding :=
  fun _ => Or.inr ⟨e, rfl⟩

/-- Two writes, of which the first is taken back if the second fails. -/
theorem AllOrNothing.atomically {first second : BufferM Unit} {x y : List UInt8}
    (h₁ : AllOrNothing first x) (h₂ : AllOrNothing second y) :
    AllOrNothing (Operation.atomically (first >>= fun _ => second)) (x ++ y) := by
  intro b
  rw [Operation.on_atomically]
  rcases h₁ b with hfirst | ⟨e, hfirst⟩
  · rw [Operation.on_bind_ok hfirst]
    rcases h₂ { b with unread := b.unread ++ x } with hsecond | ⟨e, hsecond⟩
    · rw [hsecond, List.append_assoc]
      exact Or.inl rfl
    · rw [hsecond]
      exact Or.inr ⟨e, rfl⟩
  · rw [Operation.on_bind_error hfirst]
    exact Or.inr ⟨e, rfl⟩

/-! ## Reading part by part -/

/-- Reads a string: its length word, the bytes that this announces, and the text of them. -/
def readText (size : Nat → Nat) : BufferM String := Operation.atomically do
  let announced ← readU32
  let body ← read (Decoder.take (size announced.toNat))
  liftM (Decoder.text body)

/-- Reads an optional field: its presence word, and the field if that announces one. -/
def readOptional {α : Type} (field : BufferM α) : BufferM (Option α) := Operation.atomically do
  let presence ← readU32
  if presence = Encoding.absent then return none
  return some (← field)

/-- Reads data: its length word, and as many bytes as it announces unless they are too many. -/
def readSized (max : Nat) : BufferM (List UInt8) := Operation.atomically do
  let size ← readU32
  if max < size.toNat then throw (.fieldTooLarge size.toNat max)
  read (Decoder.take size.toNat)

theorem readText_eq (size : Nat → Nat) :
    readText size = read (Decoder.u32 >>= fun announced =>
      Decoder.take (size announced.toNat) >>= fun body => liftM (Decoder.text body)) := by
  have hbody (announced : UInt32) : (Decoder.take (size announced.toNat) >>= fun body =>
      (liftM (Decoder.text body) : Decoder String)).Composed :=
    (Decoder.Composed.take _).bind Decoder.composed_text
  rw [read_bind Decoder.composed_u32 hbody]
  simp only [read_bind (Decoder.Composed.take _) Decoder.composed_text, read_lift,
    Operation.atomically_bind_atomically]
  rfl

theorem readOptional_eq {α : Type} {d : Decoder α} (h : d.Composed) :
    readOptional (read d) = read (Decoder.optional d) := by
  have hsome : (d >>= fun a => pure (some a)).Composed := h.bind fun a => .pure (some a)
  have hnext (presence : UInt32) : (if presence = Encoding.absent then pure none
      else d >>= fun a => pure (some a)).Composed := by
    split
    · exact .pure none
    · exact hsome
  show _ = read (Decoder.u32 >>= fun presence =>
    if presence = Encoding.absent then pure none else d >>= fun a => pure (some a))
  rw [read_bind Decoder.composed_u32 hnext]
  simp only [apply_ite read, read_pure, read_bind h fun a => Decoder.Composed.pure (some a)]
  -- The read of the value goes back by itself, which the whole does anyway.
  show Operation.atomically (readU32 >>= fun presence =>
    if presence = Encoding.absent then pure none else read d >>= fun a => pure (some a)) = _
  rw [← Operation.atomically_bind_atomically]
  simp only [apply_ite Operation.atomically, Operation.atomically_pure]
  rfl

theorem readSized_eq (max : Nat) : readSized max = read (Decoder.sized max) := by
  have hnext (size : UInt32) : (if max < size.toNat then throw (.fieldTooLarge size.toNat max)
      else Decoder.take size.toNat).Composed := by
    split
    · exact .throw rfl
    · exact .take size.toNat
  show _ = read (Decoder.u32 >>= fun size =>
    if max < size.toNat then throw (.fieldTooLarge size.toNat max) else Decoder.take size.toNat)
  rw [read_bind Decoder.composed_u32 hnext]
  simp only [apply_ite read, read_throw]
  rfl

end Buffer

/-! ## Kinds of fields -/

namespace Record.Kind

/-- Whether the fields of a kind are single ones. The optional string of the second dialect is two:
a presence word and a string. -/
def IsSingle : Kind → Prop
  | optionalText .v2 => False
  | _ => True

instance : DecidablePred IsSingle
  | optionalText .v2 => isFalse id
  | optionalText .v1 => isTrue trivial
  | u16 | u32 | i32 | bytes _ | string | terminated | optionalString | optionalU32 | optionalIn _
  | optionalOut | text _ => isTrue trivial

/-- A single field is read by a decoder. -/
theorem exists_decoder {kind : Kind} (h : kind.IsSingle) :
    ∃ d : Decoder kind.Value, d.Composed ∧ kind.read = Buffer.read d := by
  cases kind with
  | u16 => exact ⟨_, Decoder.composed_u16, rfl⟩
  | u32 => exact ⟨_, Decoder.composed_u32, rfl⟩
  | i32 => exact ⟨_, Decoder.composed_i32, rfl⟩
  | bytes count => exact ⟨_, .take count, rfl⟩
  | string => exact ⟨_, Decoder.composed_string, rfl⟩
  | terminated => exact ⟨_, Decoder.composed_terminated, rfl⟩
  | optionalString => exact ⟨_, Decoder.composed_optional Decoder.composed_string, rfl⟩
  | optionalU32 => exact ⟨_, Decoder.composed_optional Decoder.composed_u32, rfl⟩
  | optionalIn max => exact ⟨_, Decoder.composed_optional (Decoder.composed_sized max), rfl⟩
  | optionalOut => exact ⟨_, Decoder.composed_optional Decoder.composed_u32, rfl⟩
  | text d =>
    cases d with
    | v1 => exact ⟨_, Decoder.composed_string, rfl⟩
    | v2 => exact ⟨_, Decoder.composed_terminated, rfl⟩
  | optionalText d =>
    cases d with
    | v1 => exact ⟨_, Decoder.composed_optional Decoder.composed_string, rfl⟩
    | v2 => exact absurd h id

/-- Reads a value part by part. -/
def readInParts : (kind : Kind) → BufferM kind.Value
  | string | text .v1 => Buffer.readText (2 * ·)
  | terminated | text .v2 => Buffer.readText id
  | optionalString | optionalText .v1 => Buffer.readOptional (Buffer.readText (2 * ·))
  | optionalU32 | optionalOut => Buffer.readOptional Buffer.readU32
  | optionalIn max => Buffer.readOptional (Buffer.readSized max)
  | kind => kind.read

theorem readInParts_eq (kind : Kind) : kind.readInParts = kind.read := by
  have hstring : Buffer.readText (2 * ·) = Buffer.read Decoder.string := Buffer.readText_eq _
  have hterminated : Buffer.readText id = Buffer.read Decoder.terminated := Buffer.readText_eq _
  have hoptional : Buffer.readOptional (Buffer.readText (2 * ·)) =
      Buffer.read (Decoder.optional Decoder.string) := by
    rw [hstring]
    exact Buffer.readOptional_eq Decoder.composed_string
  have hword : Buffer.readOptional Buffer.readU32 = Buffer.read (Decoder.optional Decoder.u32) :=
    Buffer.readOptional_eq Decoder.composed_u32
  cases kind with
  | u16 => rfl
  | u32 => rfl
  | i32 => rfl
  | bytes count => rfl
  | string => exact hstring
  | terminated => exact hterminated
  | optionalString => exact hoptional
  | optionalU32 => exact hword
  | optionalIn max =>
    show Buffer.readOptional (Buffer.readSized max) = _
    rw [Buffer.readSized_eq]
    exact Buffer.readOptional_eq (Decoder.composed_sized max)
  | optionalOut => exact hword
  | text d =>
    cases d with
    | v1 => exact hstring
    | v2 => exact hterminated
  | optionalText d =>
    cases d with
    | v1 => exact hoptional
    | v2 => rfl

theorem allOrNothing_text (d : Dialect) (s : String) :
    Buffer.AllOrNothing (d.writeString s) (encodeText d s) := by
  cases d with
  | v1 =>
    show Buffer.AllOrNothing (Buffer.writeString s) _
    by_cases h : Utf16.length s < UInt32.size
    · rw [Buffer.writeString_of_lt h]
      exact Buffer.allOrNothing_append _
    · rw [Buffer.writeString_of_ge (Nat.not_lt.mp h)]
      exact Buffer.allOrNothing_throw _ _
  | v2 =>
    show Buffer.AllOrNothing (Buffer.writeTerminated s) _
    by_cases h : 2 * (Utf16.length s + 1) < UInt32.size
    · rw [Buffer.writeTerminated_of_lt h]
      exact Buffer.allOrNothing_append _
    · rw [Buffer.writeTerminated_of_ge (Nat.not_lt.mp h)]
      exact Buffer.allOrNothing_throw _ _

theorem allOrNothing_optionalString (s : Option String) :
    Buffer.AllOrNothing (Buffer.writeOptionalString s) (Encoding.optional Encoding.string s) := by
  cases s with
  | none => exact Buffer.allOrNothing_append _
  | some t => exact (Buffer.allOrNothing_append _).atomically (allOrNothing_text .v1 t)

theorem allOrNothing_optionalIn (data : Option (List UInt8)) :
    Buffer.AllOrNothing (Buffer.writeOptionalIn data) (Encoding.optional Encoding.sized data) := by
  cases data with
  | none => exact Buffer.allOrNothing_append _
  | some bytes =>
    by_cases h : bytes.length < UInt32.size
    · rw [Buffer.writeOptionalIn, if_pos h]
      exact Buffer.allOrNothing_append _
    · rw [Buffer.writeOptionalIn, if_neg h]
      exact Buffer.allOrNothing_throw _ _

/-- A single field is written as a whole or not at all, whatever its value is. -/
theorem allOrNothing_write {kind : Kind} (h : kind.IsSingle) (value : kind.Value) :
    Buffer.AllOrNothing (kind.write value) (kind.encode value) := by
  cases kind with
  | u16 => exact Buffer.allOrNothing_append _
  | u32 => exact Buffer.allOrNothing_append _
  | i32 => exact Buffer.allOrNothing_append _
  | bytes count => exact Buffer.allOrNothing_append _
  | string => exact allOrNothing_text .v1 value
  | terminated => exact allOrNothing_text .v2 value
  | optionalString => exact allOrNothing_optionalString value
  | optionalU32 => exact Buffer.allOrNothing_append _
  | optionalIn max => exact allOrNothing_optionalIn value
  | optionalOut => exact Buffer.allOrNothing_append _
  | text d => exact allOrNothing_text d value
  | optionalText d =>
    cases d with
    | v1 => exact allOrNothing_optionalString value
    | v2 => exact absurd h id

end Record.Kind

/-! ## Whatever is done to a buffer -/

namespace Buffer

open Record (Kind)

/-- What a caller does to a buffer. -/
inductive Action where
  /-- Takes another buffer, with the given bytes. -/
  | ofBytes (bytes : List UInt8)
  /-- Takes another buffer, without bytes and with room for so many. -/
  | withCapacity (capacity : Nat)
  | reset
  | write (kind : Kind) (value : kind.Value) (single : kind.IsSingle)
  | read (kind : Kind) (single : kind.IsSingle)
  | fillFrom (n : Nat) (src : Source)

/-- Whether an action succeeds, and the buffer after it. The room of a buffer is seen by nobody. -/
def Action.on : Action → Buffer → Except WireError Unit × Buffer
  | ofBytes bytes, _ => (.ok (), Buffer.ofBytes bytes)
  | withCapacity _, _ => (.ok (), empty)
  | reset, b => Buffer.reset.on b
  | write kind value _, b => (kind.write value).on b
  | read kind _, b => ((kind.read.on b).1.map fun _ => (), (kind.read.on b).2)
  | fillFrom n src, b =>
    (((Buffer.fillFrom n).on (src, b)).1, ((Buffer.fillFrom n).on (src, b)).2.2)

/-- Whether an action writes or reads a field. -/
def Action.IsOfField : Action → Prop
  | write .. | read .. => True
  | _ => False

/-- What a failed action comes to: to nothing, but that a buffer is empty that was to be filled. -/
def Action.undone : Action → List Action
  | fillFrom .. => [reset]
  | _ => []

/-- The buffer after some actions. -/
def after (b : Buffer) (actions : List Action) : Buffer :=
  actions.foldl (fun b action => (action.on b).2) b

/-- The actions that succeed, and what the others come to. -/
def succeeding (b : Buffer) : List Action → List Action
  | [] => []
  | action :: rest =>
    match action.on b with
    | (.ok _, b') => action :: succeeding b' rest
    | (.error _, b') => action.undone ++ succeeding b' rest

/-- Whether all actions succeed. -/
def AllSucceed (b : Buffer) : List Action → Prop
  | [] => True
  | action :: rest => (action.on b).1 = .ok () ∧ AllSucceed (action.on b).2 rest

/-- A source that has too few bytes leaves an empty buffer, and so does one that announces more than
memory can hold. -/
theorem on_fillFrom_failed {n : Nat} {src : Source} {b : Buffer} {e : WireError}
    (h : ((fillFrom n).on (src, b)).1 = .error e) : ((fillFrom n).on (src, b)).2.2 = empty := by
  by_cases hn : sizeLimit < n
  · simp [fillFrom, Operation.on_bind, hn]
  · rcases hread : (Source.readExact n).on src with ⟨e' | bytes, src'⟩
    · simp [fillFrom, Operation.on_bind, hn, hread]
    · simp [fillFrom, Operation.on_bind, hn, hread] at h

/-- Writing a field appends to the bytes, and reading one moves the cursor on. -/
theorem Action.extends_on {action : Action} (h : action.IsOfField) (b : Buffer) :
    b.bytes <+: (action.on b).2.bytes ∧ b.position ≤ (action.on b).2.position := by
  cases action with
  | ofBytes bytes => exact absurd h id
  | withCapacity capacity => exact absurd h id
  | reset => exact absurd h id
  | write kind value single =>
    show b.bytes <+: ((kind.write value).on b).2.bytes ∧
      b.position ≤ ((kind.write value).on b).2.position
    rcases Kind.allOrNothing_write single value b with hok | ⟨e, herror⟩
    · rw [hok]
      have happend : b.bytes ++ kind.encode value =
          b.consumed ++ (b.unread ++ kind.encode value) := List.append_assoc _ _ _
      exact ⟨⟨kind.encode value, happend⟩, Nat.le_refl _⟩
    · rw [herror]
      exact ⟨List.prefix_rfl, Nat.le_refl _⟩
  | read kind single =>
    show b.bytes <+: (kind.read.on b).2.bytes ∧ b.position ≤ (kind.read.on b).2.position
    obtain ⟨d, hd, hread⟩ := Kind.exists_decoder single
    rw [hread, bytes_read]
    refine ⟨List.prefix_rfl, ?_⟩
    rcases on_read hd b with ⟨e, -, -, herror⟩ | ⟨a, taken, rest, -, -, hok⟩
    · rw [herror]
    · rw [hok]
      have hlen : (b.consumed ++ taken).length = b.position + taken.length := List.length_append
      exact Nat.le.intro hlen.symm
  | fillFrom n src => exact absurd h id

/-- As long as fields are written and read only, no byte is lost and the cursor never goes back. -/
theorem extends_after (b : Buffer) {actions : List Action} (h : ∀ a ∈ actions, a.IsOfField) :
    b.bytes <+: (b.after actions).bytes ∧ b.position ≤ (b.after actions).position := by
  induction actions generalizing b with
  | nil => exact ⟨List.prefix_rfl, Nat.le_refl _⟩
  | cons action rest ih =>
    obtain ⟨hbytes, hposition⟩ := Action.extends_on (h action (List.mem_cons_self ..)) b
    obtain ⟨hbytes', hposition'⟩ :=
      ih (action.on b).2 fun other hother => h other (List.mem_cons_of_mem _ hother)
    exact ⟨hbytes.trans hbytes', Nat.le_trans hposition hposition'⟩

theorem Action.on_failed {action : Action} {b b' : Buffer} {e : WireError}
    (h : action.on b = (.error e, b')) :
    b.AllSucceed action.undone ∧ b.after action.undone = b' := by
  cases action with
  | ofBytes bytes => cases h
  | withCapacity capacity => cases h
  | reset => cases h
  | write kind value single =>
    have h : (kind.write value).on b = (.error e, b') := h
    rcases Kind.allOrNothing_write single value b with hok | ⟨e', herror⟩
    · rw [hok] at h
      cases h
    · rw [herror] at h
      cases h
      exact ⟨trivial, rfl⟩
  | read kind single =>
    obtain ⟨d, hd, hread⟩ := Kind.exists_decoder single
    have h : (((Buffer.read d).on b).1.map fun _ => (), ((Buffer.read d).on b).2) =
        (.error e, b') := by
      rw [← hread]
      exact h
    rcases on_read hd b with ⟨e', -, -, herror⟩ | ⟨a, taken, rest, -, -, hok⟩
    · rw [herror] at h
      cases h
      exact ⟨trivial, rfl⟩
    · rw [hok] at h
      cases h
  | fillFrom n src =>
    have hfailed : ((Buffer.fillFrom n).on (src, b)).1 = .error e := congrArg Prod.fst h
    have hafter : ((Buffer.fillFrom n).on (src, b)).2.2 = b' := congrArg Prod.snd h
    rw [on_fillFrom_failed hfailed] at hafter
    exact ⟨⟨rfl, trivial⟩, hafter⟩

theorem after_append (b : Buffer) (first second : List Action) :
    b.after (first ++ second) = (b.after first).after second :=
  List.foldl_append

theorem allSucceed_append {b : Buffer} {first second : List Action} (h : b.AllSucceed first)
    (h' : (b.after first).AllSucceed second) : b.AllSucceed (first ++ second) := by
  induction first generalizing b with
  | nil => exact h'
  | cons action rest ih => exact ⟨h.1, ih h.2 h'⟩

/-- To leave out the actions that fail comes to the same buffer. -/
theorem after_succeeding (b : Buffer) (actions : List Action) :
    b.AllSucceed (b.succeeding actions) ∧ b.after (b.succeeding actions) = b.after actions := by
  induction actions generalizing b with
  | nil => exact ⟨trivial, rfl⟩
  | cons action rest ih =>
    rcases h : action.on b with ⟨e | ⟨⟩, b'⟩
    · have hrest : b.after (action :: rest) = b'.after rest := by
        show ((action.on b).2).after rest = _
        rw [h]
      have hleft : b.succeeding (action :: rest) = action.undone ++ b'.succeeding rest := by
        simp only [succeeding, h]
      obtain ⟨hundone, hafter⟩ := Action.on_failed h
      rw [hrest, hleft, after_append, hafter]
      refine ⟨allSucceed_append hundone ?_, (ih b').2⟩
      rw [hafter]
      exact (ih b').1
    · have hrest (more : List Action) : b.after (action :: more) = b'.after more := by
        show ((action.on b).2).after more = _
        rw [h]
      have hleft : b.succeeding (action :: rest) = action :: b'.succeeding rest := by
        simp only [succeeding, h]
      rw [hleft, hrest, hrest]
      refine ⟨⟨by rw [h], ?_⟩, (ih b').2⟩
      rw [h]
      exact (ih b').1

/-- A buffer holds no half field, and nothing that fails leaves a trace in it. After any actions on
any buffer the cursor stands within the bytes, and the actions that failed might as well not have
been tried; where all were writes and reads of fields, the bytes of before are still there and the
cursor did not go back. What is read from there, at once or part by part, leaves the bytes in place;
it leaves the cursor too if it fails, and otherwise moves it over bytes on which alone the value
depends. What is written is appended as a whole and leaves the cursor; if it fails, the buffer is as
before. And a buffer that was to be filled, but was not, is empty. -/
theorem fields_all_or_nothing (start : Buffer) (actions : List Action) :
    let b := start.after actions
    b.position ≤ b.length ∧
      (start.AllSucceed (start.succeeding actions) ∧
        start.after (start.succeeding actions) = b) ∧
      ((∀ a ∈ actions, a.IsOfField) →
        start.bytes <+: b.bytes ∧ start.position ≤ b.position) ∧
      (∀ kind : Kind, kind.IsSingle →
        kind.readInParts.on b = kind.read.on b ∧ (kind.read.on b).2.bytes = b.bytes ∧
          (∀ e, (kind.read.on b).1 = .error e →
            e.isOfField = true ∧ (kind.read.on b).2 = b) ∧
          ∀ value, (kind.read.on b).1 = .ok value →
            ∃ taken, taken <+: b.unread ∧
              (kind.read.on b).2.position = b.position + taken.length ∧
              Reads kind.read taken value) ∧
      (∀ (kind : Kind) (value : kind.Value), kind.IsSingle →
        ((kind.write value).on b).2.position = b.position ∧
          (((kind.write value).on b).1 = .ok () →
            ((kind.write value).on b).2.bytes = b.bytes ++ kind.encode value) ∧
          ∀ e, ((kind.write value).on b).1 = .error e → ((kind.write value).on b).2 = b) ∧
      ∀ (n : Nat) (src : Source) (e : WireError),
        ((fillFrom n).on (src, b)).1 = .error e →
        ((fillFrom n).on (src, b)).2.2.bytes = [] ∧
          ((fillFrom n).on (src, b)).2.2.position = 0 := by
  intro b
  refine ⟨position_le_length b, after_succeeding start actions, extends_after start,
    fun kind single => ?_, fun kind value single => ?_, fun n src e h => ?_⟩
  · obtain ⟨d, hd, hread⟩ := Kind.exists_decoder single
    rw [Kind.readInParts_eq, hread]
    refine ⟨rfl, bytes_read d b, ?_⟩
    rcases on_read hd b with ⟨e, -, hfield, herror⟩ | ⟨a, taken, rest, hunread, htakes, hok⟩
    · rw [herror]
      refine ⟨fun e' he => ?_, fun value hvalue => ?_⟩
      · cases he
        exact ⟨hfield, rfl⟩
      · cases hvalue
    · rw [hok]
      refine ⟨fun e he => ?_, fun value hvalue => ?_⟩
      · cases he
      · cases hvalue
        refine ⟨taken, ?_, List.length_append, reads_of_takes htakes⟩
        rw [hunread]
        exact List.prefix_append taken rest
  · rcases Kind.allOrNothing_write single value b with hok | ⟨e, herror⟩
    · rw [hok]
      refine ⟨rfl, fun _ => ?_, fun e he => ?_⟩
      · exact (List.append_assoc _ _ _).symm
      · cases he
    · rw [herror]
      refine ⟨rfl, fun hok => ?_, fun _ _ => rfl⟩
      cases hok
  · rw [on_fillFrom_failed h]
    exact ⟨rfl, rfl⟩

/-! ## The field that is two -/

/-- A write that fails after it has changed the buffer. -/
def LeavesPart (act : BufferM Unit) (b : Buffer) : Prop :=
  ∃ e, (act.on b).1 = .error e ∧ (act.on b).2 ≠ b

theorem AllOrNothing.not_leavesPart {act : BufferM Unit} {encoding : List UInt8}
    (h : AllOrNothing act encoding) (b : Buffer) : ¬ LeavesPart act b := by
  rintro ⟨e, he, hne⟩
  rcases h b with hok | ⟨e', herror⟩
  · rw [hok] at he
    cases he
  · rw [herror] at hne
    exact hne rfl

/-- Of two writes one behind the other, the first stays alone if the second fails. -/
theorem AllOrNothing.leavesPart_iff {first second : BufferM Unit} {x y : List UInt8}
    (h₁ : AllOrNothing first x) (h₂ : AllOrNothing second y) (hx : x ≠ []) (b : Buffer) :
    let b₁ : Buffer := { b with unread := b.unread ++ x }
    (LeavesPart (first >>= fun _ => second) b ↔
        (first.on b).1 = .ok () ∧ ∃ e, (second.on b₁).1 = .error e) ∧
      (LeavesPart (first >>= fun _ => second) b →
        ((first >>= fun _ => second).on b).2 = b₁) := by
  intro b₁
  rcases h₁ b with hfirst | ⟨e, hfirst⟩
  · have hwhole : (first >>= fun _ => second).on b = second.on b₁ := Operation.on_bind_ok hfirst
    have hne : b₁ ≠ b := by
      intro heq
      have hunread : b.unread ++ x = b.unread := congrArg Buffer.unread heq
      exact hx (List.append_right_eq_self.mp hunread)
    rw [LeavesPart, hwhole, hfirst]
    rcases h₂ b₁ with hsecond | ⟨e, hsecond⟩
    · simp [hsecond]
    · simp [hsecond, hne]
  · have hwhole : (first >>= fun _ => second).on b = (.error e, b) := Operation.on_bind_error hfirst
    simp [LeavesPart, hwhole, hfirst]

theorem append_ok_iff {bytes : List UInt8} {b : Buffer} :
    ((append bytes).on b).1 = .ok () ↔ b.length + bytes.length ≤ sizeLimit := by
  by_cases h : b.length + bytes.length ≤ sizeLimit
  · simp [append_of_le h, h]
  · simp [append_of_gt (Nat.not_le.mp h), h]

theorem writeTerminated_failed_iff {text : String} {b : Buffer} :
    (∃ e, ((writeTerminated text).on b).1 = .error e) ↔
      UInt32.size ≤ 2 * (Utf16.length text + 1) ∨
        sizeLimit < b.length + (Encoding.terminated text).length := by
  by_cases hfits : 2 * (Utf16.length text + 1) < UInt32.size
  · rw [writeTerminated_of_lt hfits]
    by_cases h : b.length + (Encoding.terminated text).length ≤ sizeLimit
    · simp [append_of_le h, h, hfits]
    · simp [append_of_gt (Nat.not_le.mp h), Nat.not_le.mp h]
  · simp [writeTerminated_of_ge (Nat.not_lt.mp hfits), Nat.not_lt.mp hfits]

/-- A string of either dialect is written as a whole or not at all, and so is an optional one, but
for the second dialect: there a presence word that has room stays behind, and nothing else, when no
word can count the string or memory has no room for it. -/
theorem part_of_text_left_iff (d : Dialect) (b : Buffer) :
    (∀ s : String, ¬ LeavesPart (d.writeString s) b) ∧
      ∀ s : Option String,
        (LeavesPart (d.writeOptionalString s) b ↔
          d = .v2 ∧ b.length + 4 ≤ sizeLimit ∧ ∃ text, s = some text ∧
            (UInt32.size ≤ 2 * (Utf16.length text + 1) ∨
              sizeLimit < b.length + 4 + (Encoding.terminated text).length)) ∧
        (LeavesPart (d.writeOptionalString s) b →
          ((d.writeOptionalString s).on b).2 =
            { b with unread := b.unread ++ Encoding.word Encoding.present }) := by
  refine ⟨fun s => (Kind.allOrNothing_text d s).not_leavesPart b, fun s => ?_⟩
  cases d with
  | v1 =>
    have hnot : ¬ LeavesPart (Dialect.v1.writeOptionalString s) b :=
      (Kind.allOrNothing_optionalString s).not_leavesPart b
    simp [hnot]
  | v2 =>
    cases s with
    | none =>
      have hnot : ¬ LeavesPart (Dialect.v2.writeOptionalString none) b :=
        (allOrNothing_append (Encoding.word Encoding.absent)).not_leavesPart b
      simp [hnot]
    | some text =>
      have hword : (Encoding.word Encoding.present).length = 4 := LittleEndian.length_u32 _
      have hlen :
          ({ b with unread := b.unread ++ Encoding.word Encoding.present } : Buffer).length =
            b.length + 4 := by
        simp only [length, List.length_append, hword]
        omega
      obtain ⟨hiff, hleft⟩ := (allOrNothing_append (Encoding.word Encoding.present)).leavesPart_iff
        (Kind.allOrNothing_text .v2 text) (by decide) b
      refine ⟨?_, hleft⟩
      have hiff : LeavesPart (Dialect.v2.writeOptionalString (some text)) b ↔ _ := hiff
      rw [hiff, append_ok_iff, hword]
      show _ ∧ (∃ e, ((writeTerminated text).on _).1 = .error e) ↔ _
      rw [writeTerminated_failed_iff, hlen]
      simp

/-- With its zero unit, a text of 2³¹ - 1 units has 2³² bytes. No word counts them, and the presence
word in front stands alone. -/
theorem not_text_all_or_nothing :
    ¬ ∀ (d : Dialect) (b : Buffer),
      (∀ s : String, ¬ LeavesPart (d.writeString s) b) ∧
        ∀ s : Option String, ¬ LeavesPart (d.writeOptionalString s) b := by
  intro claim
  let text := String.ofList (List.replicate 2147483647 'a')
  have hlength : Utf16.length text = 2147483647 := Utf16.length_replicate 2147483647 'a'
  have hlong : UInt32.size ≤ 2 * (Utf16.length text + 1) := by rw [hlength]
  have hleft : (Dialect.v2.writeOptionalString (some text)).on empty =
      (.error (.stringTooLong (Utf16.length text + 1)), ofBytes [1, 0, 0, 0]) := by
    rw [Dialect.writeOptionalString, writeTerminated_of_ge hlong]
    rfl
  have hne : ofBytes [1, 0, 0, 0] ≠ empty := by decide
  refine (claim .v2 empty).2 (some text) ⟨_, congrArg Prod.fst hleft, ?_⟩
  rw [hleft]
  exact hne

end Buffer

end PocketLink
