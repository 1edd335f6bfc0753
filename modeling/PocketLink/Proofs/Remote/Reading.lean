import PocketLink.Proofs.Agree
import PocketLink.Proofs.Upholds
import PocketLink.Proofs.Wire.Parts
import PocketLink.Remote.Answer

/-!
# Reading replies

Reading a reply moves its cursor and leaves its bytes in place, as far as it comes. Whatever goes
wrong with it is a matter of these bytes: a field is not there or not what it should be, the
exchange has a status, or the device reports an error. What is before the cursor has no part in it.

Every reader is made of fields, one after another, so both are shown once for all readers.
-/

namespace PocketLink

/-- The failures that a reply may have once it has come. -/
def Error.isOfReply : Error → Bool
  | wire cause => cause.isOfField
  | protocol _ | remote _ => true
  | _ => false

theorem Error.isOfReply_ofWire {e : WireError} (h : e.isOfField = true) :
    (ofWire e).isOfReply = true := by
  cases e <;> exact h

/-! ## Replies -/

namespace Reply

variable {α β : Type}

/-- What readers of replies are made of: values, failures of the reply, and fields, one after
another. What these have in common is common to all readers. -/
inductive Composed : {α : Type} → Reader α → Prop
  | pure {α : Type} (a : α) : Composed (Pure.pure a)
  | throw {α : Type} {e : Error} (h : e.isOfReply = true) :
    Composed (MonadExcept.throw e : Reader α)
  | field {α : Type} {d : Decoder α} (h : d.IsField) : Composed (Reply.field d)
  | bind {α β : Type} {act : Reader α} {next : α → Reader β} (h : Composed act)
    (hn : ∀ a, Composed (next a)) : Composed (act >>= next)

theorem composed_word : Composed word := .field Decoder.composed_u32.isField

theorem composed_text (d : Dialect) : Composed (text d) := by
  cases d
  · exact .field Decoder.composed_string.isField
  · exact .field Decoder.composed_terminated.isField

theorem composed_success (lastError : UInt32) : Composed (success lastError) := by
  refine composed_word.bind fun flag => ?_
  split
  · exact .throw rfl
  · exact .pure _

theorem composed_status : Composed status := by
  refine composed_word.bind fun code => ?_
  split
  · exact .throw rfl
  · exact .pure _

theorem composed_data (max : UInt32) : Composed (data max) := by
  have hfield := Decoder.composed_optional (Decoder.composed_sized max.toNat)
  exact (Composed.field hfield.isField).bind fun _ => .pure _

/-- An answer that is one word, which may say that there is none. -/
theorem composed_wordUnless (failed : UInt32 → Prop) [DecidablePred failed] (e : UInt32) :
    Composed (do
      let w ← word
      if failed w then throw (.remote e)
      return w) := by
  refine composed_word.bind fun w => ?_
  split
  · exact .throw rfl
  · exact .pure _

end Reply

open Reply in
/-- Reading the fields of any answer. -/
theorem Request.composed_unmarshal (d : Dialect) (lastError : UInt32) (r : Request) :
    Composed (r.unmarshal d lastError) := by
  cases r with
  | createFile path access share disposition flags =>
    exact composed_wordUnless (· = Status.invalidHandle) lastError
  | readFrom handle length =>
    exact (composed_success lastError).bind fun _ => composed_data length
  | writeTo handle data => exact (composed_success lastError).bind fun _ => composed_word
  | setFilePointer handle distance origin =>
    exact composed_wordUnless (fun w => w = 0xFFFFFFFF ∧ lastError ≠ 0) lastError
  | getFileAttributes path => exact composed_wordUnless (· = Attributes.invalid) lastError
  | regOpenKey key subKey => exact composed_status.bind fun _ => composed_word
  | regQueryValue key name maxLength =>
    refine composed_status.bind fun _ => composed_word.bind fun kind => ?_
    exact (composed_data maxLength).bind fun data => .pure _
  | getVersion =>
    refine (composed_success lastError).bind fun _ => composed_word.bind fun major => ?_
    refine composed_word.bind fun minor => composed_word.bind fun build => ?_
    refine composed_word.bind fun platform => (composed_text d).bind fun extra => ?_
    exact .pure _
  | getStoreInformation =>
    refine (composed_success lastError).bind fun _ => composed_word.bind fun size => ?_
    exact composed_word.bind fun free => .pure _
  | createProcess application arguments =>
    refine (composed_success lastError).bind fun _ => composed_word.bind fun process => ?_
    refine composed_word.bind fun thread => composed_word.bind fun processId => ?_
    exact composed_word.bind fun threadId => .pure _
  | closeHandle handle => exact composed_success lastError
  | deleteFile path => exact composed_success lastError
  | createDirectory path => exact composed_success lastError
  | removeDirectory path => exact composed_success lastError
  | moveFile source target => exact composed_success lastError
  | regCloseKey key => exact composed_status

open Reply in
/-- Opening the envelope of any reply. -/
theorem Dialect.composed_openEnvelope (d : Dialect) : Composed d.openEnvelope := by
  cases d with
  | v2 => exact .pure ()
  | v1 =>
    refine composed_word.bind fun first => ?_
    split
    · refine composed_word.bind fun status => ?_
      split
      · exact .throw rfl
      · exact .pure _
    · exact .pure _

/-! ## What readers have in common -/

namespace Reply

variable {α : Type} {act : Reader α}

/-- Reading that leaves the bytes of a reply in place and fails for reasons of the reply only. -/
def OnlyReads (act : Reader α) : Prop :=
  ∀ bytes, Operation.Upholds (fun b => b.bytes = bytes) (·.isOfReply = true) act

/-- Reading that depends on the unread bytes only, in what it answers and in what it leaves unread.
-/
def LooksAhead (act : Reader α) : Prop :=
  Operation.Agree (fun b b' => b'.unread = b.unread) act act

theorem on_field (d : Decoder α) (b : Buffer) :
    (field d).on b =
      match d b.unread with
      | .ok (a, rest) => (.ok a, b.advance (b.unread.length - rest.length))
      | .error cause => (.error (.ofWire cause), b) := by
  cases hd : d b.unread with
  | ok p => simp only [field, Operation.on_within, id, Buffer.read_of_ok hd, Operation.mapError_ok]
  | error cause =>
    simp only [field, Operation.on_within, id, Buffer.read_of_error hd, Operation.mapError_error]

theorem Composed.onlyReads (h : Composed act) : OnlyReads act := by
  induction h with
  | pure a => exact fun _ => Operation.upholds_pure a
  | throw he => exact fun _ => Operation.upholds_throw he
  | bind h hn ih ihn => exact fun bytes => (ih bytes).bind fun a => ihn a bytes
  | @field α d hd =>
    rintro bytes b rfl
    refine ⟨Buffer.bytes_read d b, fun e he => ?_⟩
    rw [on_field] at he
    cases hfield : d b.unread with
    | ok p =>
      rw [hfield] at he
      cases he
    | error cause =>
      rw [hfield] at he
      cases he
      exact Error.isOfReply_ofWire (hd b.unread cause hfield)

theorem Composed.looksAhead (h : Composed act) : LooksAhead act := by
  induction h with
  | pure a => exact Operation.agree_pure a
  | throw he => exact Operation.agree_throw _
  | bind h hn ih ihn => exact ih.bind ihn
  | @field α d hd =>
    intro b b' hb
    rw [on_field, on_field, hb]
    cases d b.unread with
    | ok p => exact ⟨rfl, congrArg (List.drop _) hb⟩
    | error cause => exact ⟨rfl, hb⟩

end Reply

end PocketLink
