import PocketLink.Proofs.Wire.Record
import PocketLink.Remote.Request

/-!
# Requests as a device reads them

A request is the number of its command and a record of its arguments. A device that knows the
dialect reads it back: it looks the number up in the table of the dialect, reads the arguments that
the command has, and lets nothing be left over. Unlike a reader of answers it takes the units of a
string as they are, with the zero units at its end, so that it finds every argument as it was given.

Therefore no two requests of one dialect have the same bytes.
-/

namespace PocketLink

namespace Decoder

theorem takes_pure {α : Type} (a : α) : (pure a : Decoder α).Takes [] a := fun _ => rfl

/-- The text of some units, all of which belong to it. -/
def wholeText (units : List UInt16) : Except WireError String :=
  match Utf16.decode? units with
  | some s => .ok s
  | none => .error .invalidUtf16

/-- A string argument in the form of a dialect. Of a terminated one the last unit is zero and does
not belong to the text; all other units do. -/
def argument : Dialect → Decoder String
  | .v1 => do
    let count ← u32
    let body ← take (2 * count.toNat)
    wholeText (LittleEndian.toUnits body)
  | .v2 => do
    let size ← u32
    let body ← take size.toNat
    let units := LittleEndian.toUnits body
    if body.length % 2 = 0 ∧ units.getLast? = some 0 then wholeText units.dropLast
    else throw .invalidUtf16

theorem wholeText_encode (s : String) : wholeText (Utf16.encode s) = .ok s := by
  rw [wholeText, Utf16.decode?_encode]

/-- A string argument is read unit for unit. -/
theorem argument_takes {d : Dialect} {s : String} (fits : Record.Kind.FitsText d s) :
    (argument d).Takes (Record.Kind.encodeText d s) s := by
  cases d with
  | v1 =>
    refine (u32_takes (UInt32.ofNat (Utf16.length s))).bind fun tail => ?_
    have hw : (UInt32.ofNat (Utf16.length s)).toNat = Utf16.length s :=
      UInt32.toNat_ofNat_of_lt' fits
    have hlen : 2 * Utf16.length s = (LittleEndian.ofUnits (Utf16.encode s)).length :=
      (LittleEndian.length_ofUnits _).symm
    rw [hw, hlen, on_bind, take_append]
    simp only [LittleEndian.toUnits_ofUnits, wholeText_encode]
    rfl
  | v2 =>
    refine (u32_takes (UInt32.ofNat (2 * (Utf16.length s + 1)))).bind fun tail => ?_
    have hw : (UInt32.ofNat (2 * (Utf16.length s + 1))).toNat = 2 * (Utf16.length s + 1) :=
      UInt32.toNat_ofNat_of_lt' fits
    have hlen :
        2 * (Utf16.length s + 1) = (LittleEndian.ofUnits (Utf16.encode s ++ [0])).length := by
      rw [LittleEndian.length_ofUnits, List.length_append]
      rfl
    rw [hw, hlen, on_bind, take_append]
    simp only [LittleEndian.toUnits_ofUnits, LittleEndian.length_ofUnits, Nat.mul_mod_right,
      List.getLast?_concat, and_self, if_true, List.dropLast_concat, wholeText_encode]
    rfl

end Decoder

namespace Dialect

/-- The command that has a number in the table of a dialect. -/
def command? (d : Dialect) (number : UInt32) : Option Command :=
  Command.all.find? fun c => d.opcode c == number

theorem command?_opcode (d : Dialect) (c : Command) : d.command? (d.opcode c) = some c := by
  cases d <;> cases c <;> rfl

end Dialect

/-- The origin that a word means. -/
def Origin.ofCode? (code : UInt32) : Option Origin :=
  [start, current, finish].find? fun origin => origin.code == code

theorem Origin.ofCode?_code (origin : Origin) : ofCode? origin.code = some origin := by
  cases origin <;> rfl

namespace Request

/-! ## Requests as records -/

/-- The arguments of a request, in the order in which they are written. -/
def fields (d : Dialect) : Request → Record
  | createFile path access share disposition flags =>
    [⟨.text d, path⟩, ⟨.u32, access⟩, ⟨.u32, share⟩, ⟨.u32, disposition⟩, ⟨.u32, flags⟩]
  | readFrom handle length => [⟨.u32, handle⟩, ⟨.optionalOut, some length⟩]
  | writeTo handle data => [⟨.u32, handle⟩, ⟨.optionalIn data.length, some data⟩]
  | setFilePointer handle distance origin =>
    [⟨.u32, handle⟩, ⟨.i32, distance⟩, ⟨.u32, origin.code⟩]
  | closeHandle handle => [⟨.u32, handle⟩]
  | getFileAttributes path => [⟨.text d, path⟩]
  | deleteFile path => [⟨.text d, path⟩]
  | createDirectory path => [⟨.text d, path⟩]
  | removeDirectory path => [⟨.text d, path⟩]
  | moveFile source target => [⟨.text d, source⟩, ⟨.text d, target⟩]
  | regOpenKey key subKey => [⟨.u32, key⟩, ⟨.text d, subKey⟩]
  | regCloseKey key => [⟨.u32, key⟩]
  | regQueryValue key name maxLength =>
    [⟨.u32, key⟩, ⟨.optionalText d, name⟩, ⟨.optionalOut, some maxLength⟩]
  | getVersion => [⟨.optionalOut, some versionSize⟩]
  | getStoreInformation => []
  | createProcess application arguments =>
    [⟨.text d, application⟩, ⟨.optionalText d, arguments⟩, ⟨.u32, 0⟩]

/-- The bytes of a request. -/
def payload (d : Dialect) (r : Request) : List UInt8 :=
  Encoding.word (d.opcode r.command) ++ (r.fields d).encode

/-- Writing the arguments of a request is writing its record. -/
theorem marshal_eq_write (d : Dialect) (r : Request) : r.marshal d = (r.fields d).write := by
  cases r <;> simp [marshal, fields, Record.write, Record.Kind.write]

/-! ## Reading requests -/

/-- Reads the arguments of a command. They are none of it if a word that says what is meant, or
that is always the same, is another one. -/
def arguments (d : Dialect) : Command → Decoder (Option Request)
  | .createFile => do
    let path ← Decoder.argument d
    let access ← Decoder.u32
    let share ← Decoder.u32
    let disposition ← Decoder.u32
    let flags ← Decoder.u32
    return some (createFile path access share disposition flags)
  | .readFile => do
    let handle ← Decoder.u32
    let length ← Decoder.optional Decoder.u32
    return length.map (readFrom handle)
  | .writeFile => do
    let handle ← Decoder.u32
    let data ← Decoder.optional (Decoder.sized UInt32.size)
    return data.map (writeTo handle)
  | .closeHandle => do
    let handle ← Decoder.u32
    return some (closeHandle handle)
  | .setFilePointer => do
    let handle ← Decoder.u32
    let distance ← Decoder.i32
    let origin ← Decoder.u32
    return (Origin.ofCode? origin).map (setFilePointer handle distance)
  | .getFileAttributes => do
    let path ← Decoder.argument d
    return some (getFileAttributes path)
  | .deleteFile => do
    let path ← Decoder.argument d
    return some (deleteFile path)
  | .moveFile => do
    let source ← Decoder.argument d
    let target ← Decoder.argument d
    return some (moveFile source target)
  | .createDirectory => do
    let path ← Decoder.argument d
    return some (createDirectory path)
  | .removeDirectory => do
    let path ← Decoder.argument d
    return some (removeDirectory path)
  | .regOpenKey => do
    let key ← Decoder.u32
    let subKey ← Decoder.argument d
    return some (regOpenKey key subKey)
  | .regCloseKey => do
    let key ← Decoder.u32
    return some (regCloseKey key)
  | .regQueryValue => do
    let key ← Decoder.u32
    let name ← Decoder.optional (Decoder.argument d)
    let maxLength ← Decoder.optional Decoder.u32
    return maxLength.map (regQueryValue key name)
  | .getVersion => do
    let size ← Decoder.optional Decoder.u32
    return if size = some versionSize then some getVersion else none
  | .getStoreInformation => return some getStoreInformation
  | .createProcess => do
    let application ← Decoder.argument d
    let arguments ← Decoder.optional (Decoder.argument d)
    let reserved ← Decoder.u32
    return if reserved = 0 then some (createProcess application arguments) else none

/-- The request that some bytes are, with nothing left over. -/
def decode? (d : Dialect) (bytes : List UInt8) : Option Request :=
  match Decoder.u32 bytes with
  | .error _ => none
  | .ok (number, rest) =>
    match d.command? number with
    | none => none
    | some command =>
      match arguments d command rest with
      | .ok (r, []) => r
      | _ => none

section Takes

open Decoder

theorem optionalArgument_takes {d : Dialect} {s : Option String}
    (fits : ∀ t ∈ s, Record.Kind.FitsText d t) :
    (optional (argument d)).Takes (Encoding.optional (Record.Kind.encodeText d) s) s := by
  cases s with
  | none => exact optional_takes_none _
  | some t => exact optional_takes_some (argument_takes (fits t rfl))

theorem optionalWord_takes (w : UInt32) :
    (optional u32).Takes (Encoding.optional Encoding.word (some w)) (some w) :=
  optional_takes_some (u32_takes w)

theorem optionalData_takes {data : List UInt8} (h : data.length < UInt32.size) :
    (optional (sized UInt32.size)).Takes (Encoding.optional Encoding.sized (some data))
      (some data) :=
  optional_takes_some (sized_takes h (Nat.le_of_lt h))

/-- The only argument of a command is a path. -/
theorem path_takes {d : Dialect} {path : String} (make : String → Request)
    (fits : Record.Fits [⟨.text d, path⟩]) :
    (argument d >>= fun path => pure (some (make path))).Takes (Record.encode [⟨.text d, path⟩])
      (some (make path)) := by
  have hpath : Record.Kind.FitsText d path := fits ⟨.text d, path⟩ (List.mem_cons_self ..)
  exact (argument_takes hpath).bind (takes_pure _)

/-- A device finds the arguments of a request as they were given. -/
theorem arguments_takes {d : Dialect} {r : Request} (fits : (r.fields d).Fits) :
    (arguments d r.command).Takes (r.fields d).encode (some r) := by
  -- By request: what reads each argument takes its bytes, in the order of the record.
  cases r with
  | createFile path access share disposition flags =>
    have hpath : Record.Kind.FitsText d path := fits ⟨.text d, path⟩ (List.mem_cons_self ..)
    refine (argument_takes hpath).bind ((u32_takes access).bind ((u32_takes share).bind ?_))
    exact (u32_takes disposition).bind ((u32_takes flags).bind (takes_pure _))
  | readFrom handle length =>
    exact (u32_takes handle).bind ((optionalWord_takes length).bind (takes_pure _))
  | writeTo handle data =>
    have hdata : ∀ bytes ∈ some data, bytes.length < UInt32.size ∧ bytes.length ≤ data.length :=
      fits ⟨.optionalIn data.length, some data⟩ (by simp [fields])
    have htakes := optionalData_takes (hdata data rfl).1
    exact (u32_takes handle).bind (htakes.bind (takes_pure _))
  | setFilePointer handle distance origin =>
    have horigin : (Origin.ofCode? origin.code).map (setFilePointer handle distance) =
        some (setFilePointer handle distance origin) := by
      rw [Origin.ofCode?_code]
      rfl
    refine (u32_takes handle).bind ((i32_takes distance).bind ((u32_takes origin.code).bind ?_))
    rw [horigin]
    exact takes_pure _
  | closeHandle handle => exact (u32_takes handle).bind (takes_pure _)
  | getFileAttributes path => exact path_takes getFileAttributes fits
  | deleteFile path => exact path_takes deleteFile fits
  | createDirectory path => exact path_takes createDirectory fits
  | removeDirectory path => exact path_takes removeDirectory fits
  | moveFile source target =>
    have hsource : Record.Kind.FitsText d source := fits ⟨.text d, source⟩ (by simp [fields])
    have htarget : Record.Kind.FitsText d target := fits ⟨.text d, target⟩ (by simp [fields])
    exact (argument_takes hsource).bind ((argument_takes htarget).bind (takes_pure _))
  | regOpenKey key subKey =>
    have hkey : Record.Kind.FitsText d subKey := fits ⟨.text d, subKey⟩ (by simp [fields])
    exact (u32_takes key).bind ((argument_takes hkey).bind (takes_pure _))
  | regCloseKey key => exact (u32_takes key).bind (takes_pure _)
  | regQueryValue key name maxLength =>
    have hname : ∀ t ∈ name, Record.Kind.FitsText d t :=
      fits ⟨.optionalText d, name⟩ (by simp [fields])
    refine (u32_takes key).bind ((optionalArgument_takes hname).bind ?_)
    exact (optionalWord_takes maxLength).bind (takes_pure _)
  | getVersion => exact (optionalWord_takes versionSize).bind (takes_pure _)
  | getStoreInformation => exact takes_pure _
  | createProcess application arguments =>
    have happlication : Record.Kind.FitsText d application :=
      fits ⟨.text d, application⟩ (by simp [fields])
    have harguments : ∀ t ∈ arguments, Record.Kind.FitsText d t :=
      fits ⟨.optionalText d, arguments⟩ (by simp [fields])
    refine (argument_takes happlication).bind ((optionalArgument_takes harguments).bind ?_)
    exact (u32_takes 0).bind (takes_pure _)

end Takes

/-- A request reads back from its bytes, and nothing of them is left over. -/
theorem decode?_payload {d : Dialect} {r : Request} (fits : (r.fields d).Fits) :
    decode? d (r.payload d) = some r := by
  have hargs := arguments_takes fits []
  rw [List.append_nil] at hargs
  simp only [decode?, payload, Decoder.u32_append, Dialect.command?_opcode, hargs]

/-- Within a dialect no two requests have the same bytes. -/
theorem payload_injective {d : Dialect} {r r' : Request} (fits : (r.fields d).Fits)
    (fits' : (r'.fields d).Fits) (h : r.payload d = r'.payload d) : r = r' := by
  have hr := decode?_payload fits
  rw [h, decode?_payload fits'] at hr
  exact (Option.some.inj hr).symm

end Request

end PocketLink
