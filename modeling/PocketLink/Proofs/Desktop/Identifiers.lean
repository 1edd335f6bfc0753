import PocketLink.Desktop.Basic
import PocketLink.Proofs.Device.Guid

/-!
# Devices by their identifiers

A device is looked for by comparing texts without regard to the case of letters, and no text is read
for that. Still the device that is found is the first one whose text is read for the identifier,
because the texts that are read for an identifier are those that differ from its text form in the
case of letters only.
-/

namespace PocketLink

theorem DeviceInfo.id_eq_ok_iff {info : DeviceInfo} {g : Guid} :
    info.id = .ok g ↔ ∃ s, info.guid = some s ∧ Ascii.sameName s g.text = true := by
  cases hinfo : info.guid with
  | none => simp [DeviceInfo.id, hinfo]
  | some s =>
    rw [Guid.id_eq hinfo]
    simp only [Option.some.injEq, exists_eq_left', Guid.sameName_text_iff]
    cases Guid.parse? s <;> simp

namespace Desktop

variable {σ : Type} {d : Desktop σ} {id : Guid}

/-- Whether the text of a device is that of an identifier, but for the case of letters. -/
def hasText (d : Desktop σ) (id : Guid) (device : DeviceId) : Bool :=
  match (d.info device).guid with
  | some text => Ascii.sameName text id.text
  | none => false

theorem hasText_iff {device : DeviceId} :
    d.hasText id device = true ↔ (d.info device).id = .ok id := by
  rw [DeviceInfo.id_eq_ok_iff, hasText]
  cases (d.info device).guid <;> simp

theorem find_eq (d : Desktop σ) (id : Guid) :
    d.find id =
      match d.listed.find? (d.hasText id) with
      | some device => .ok device
      | none => .error .noMoreDevices := rfl

/-- The first device with the text is the first one with the identifier. -/
theorem find?_hasText_eq_some_iff {device : DeviceId} :
    d.listed.find? (d.hasText id) = some device ↔
      ∃ before after, d.listed = before ++ device :: after ∧ (d.info device).id = .ok id ∧
        ∀ other ∈ before, (d.info other).id ≠ .ok id := by
  simp only [List.find?_eq_some_iff_append, Bool.not_eq_true', ← Bool.not_eq_true, hasText_iff]
  constructor
  · rintro ⟨hid, before, after, hlisted, hbefore⟩
    exact ⟨before, after, hlisted, hid, hbefore⟩
  · rintro ⟨before, after, hlisted, hid, hbefore⟩
    exact ⟨hid, before, after, hlisted, hbefore⟩

theorem find?_hasText_eq_none_iff :
    d.listed.find? (d.hasText id) = none ↔ ∀ device ∈ d.listed, (d.info device).id ≠ .ok id := by
  simp only [List.find?_eq_none, hasText_iff, ne_eq]

/-- A device is found by its identifier exactly. Whatever the texts of the listed devices are, well
formed or not, given or not, the one that is found is the first that has the identifier; and the
search fails, for want of devices, if and only if none has it. -/
theorem found_by_identifier (d : Desktop σ) (id : Guid) :
    (∀ device, d.find id = .ok device ↔
      ∃ before after, d.listed = before ++ device :: after ∧ (d.info device).id = .ok id ∧
        ∀ other ∈ before, (d.info other).id ≠ .ok id) ∧
    ∀ e, d.find id = .error e ↔
      e = .noMoreDevices ∧ ∀ device ∈ d.listed, (d.info device).id ≠ .ok id := by
  simp only [← find?_hasText_eq_some_iff, ← find?_hasText_eq_none_iff]
  rw [find_eq]
  cases d.listed.find? (d.hasText id) with
  | none => simp [eq_comm]
  | some first => simp

/-- Devices without a text, or with one that is malformed, are passed over. -/
example :
    let text (s : String) : Device := { info := { guid := some s } }
    let d : Desktop Nat := {
      settings := { port := 990, proxyDir := ⟨""⟩, infoDir := ⟨""⟩ }
      resolver := .fixed []
      created := [{ info := {} }, text "00000002-0000-0000-0000-00000000000a",
        text "{00000002-0000-0000-0000-00000000000a}",
        text "{00000002-0000-0000-0000-00000000000A}"]
      listed := [0, 1, 2, 3] }
    d.find { data1 := 2, data2 := 0, data3 := 0, data4 := 10 } = .ok 2 := by
  decide +kernel

end Desktop

end PocketLink
