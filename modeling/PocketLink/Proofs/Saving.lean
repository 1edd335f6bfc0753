import PocketLink.Device.Info
import PocketLink.Proofs.Files
import PocketLink.Proofs.Json.RoundTrip
import PocketLink.Proofs.Paths
import PocketLink.Settings

/-!
# Saved files

Device information and settings that were saved load back equal. A file says something about every
field, so that no default comes in when it is loaded: an absent field is written as such.
-/

namespace PocketLink

open Json

/-- What a file that was read is loaded as. -/
def loaded {α : Type} (parse? : String → Option α) : Except IoError String → Except FileFault α
  | .error cause => .error (.io cause)
  | .ok text =>
    match parse? text with
    | some a => .ok a
    | none => .error .malformed

theorem loaded_eq_ok_iff {α : Type} {parse? : String → Option α} {read : Except IoError String}
    {a : α} : loaded parse? read = .ok a ↔ ∃ text, read = .ok text ∧ parse? text = some a := by
  constructor
  · intro h
    cases read with
    | error cause => cases h
    | ok text =>
      rw [loaded] at h
      cases hparse : parse? text with
      | none => rw [hparse] at h; cases h
      | some b =>
        rw [hparse] at h
        cases h
        exact ⟨text, rfl, hparse⟩
  · rintro ⟨text, rfl, hparse⟩
    rw [loaded, hparse]

namespace DeviceInfo

variable {files saved : Files} {p : Path} {info : DeviceInfo}

theorem plain_toJson (info : DeviceInfo) : Plain info.toJson := by
  have htext : ∀ o : Option String, Plain (Json.ofOption Json.ofText o) := plain_ofOption .string
  refine plain_ofMembers fun value hvalue => ?_
  simp only [fieldValues, List.mem_cons, List.not_mem_nil, or_false] at hvalue
  rcases hvalue with rfl | rfl | rfl | rfl | rfl | rfl | rfl | rfl | rfl | rfl | rfl | rfl | rfl |
    rfl | rfl | rfl | rfl | rfl
  all_goals first
    | exact .string _
    | exact .integer _
    | exact htext _
    | exact plain_ofOption (fun _ => .integer _) _
    | exact plain_ofOption (fun _ => .string _) _

/-- A document of a device gives back all that is known about it. -/
theorem ofJson?_toJson (info : DeviceInfo) : ofJson? info.toJson = some info := by
  have hslots : info.toJson.slots? fieldNames = some (info.fieldValues.map some) :=
    slots?_ofMembers (by decide) rfl
  have htext (o : Option String) :
      field none (nullable text?) (some (Json.ofOption Json.ofText o)) = some o := by
    have hread (text : String) : text? (Json.ofText text) = some text := rfl
    have hfield := field_ofOption Json.ofText _ (fun _ => Json.noConfusion) hread none o
    rwa [Option.map_id'] at hfield
  have hword (w : UInt32) :
      (field 0 (natBelow? UInt32.size) (some (Json.ofNat w.toNat))).map UInt32.ofNat = some w := by
    rw [field_ofNat w.toNat_lt, Option.map_some, UInt32.ofNat_toNat]
  have hpid (o : Option UInt32) :
      field none (nullable (natBelow? UInt32.size))
        (some (Json.ofOption (fun w => Json.ofNat w.toNat) o)) = some (o.map UInt32.toNat) :=
    field_ofOption _ UInt32.toNat (fun _ => Json.noConfusion) (fun w => if_pos w.toNat_lt) none o
  have hpath (o : Option Path) :
      field none (nullable text?) (some (Json.ofOption (fun p => Json.ofText p.text) o)) =
        some (o.map Path.text) :=
    field_ofOption _ Path.text (fun _ => Json.noConfusion) (fun _ => rfl) none o
  have hpids : info.managerPid.map (UInt32.ofNat ∘ UInt32.toNat) = info.managerPid := by
    cases info.managerPid <;> simp
  have hpaths : info.brokerSocket.map (Path.mk ∘ Path.text) = info.brokerSocket := by
    cases info.brokerSocket <;> rfl
  rw [ofJson?, hslots]
  refine Option.bind_eq_some_iff.mpr ⟨_, rfl, ?_⟩
  refine Option.bind_eq_some_iff.mpr ⟨_, field_ofText "" info.name, ?_⟩
  refine Option.bind_eq_some_iff.mpr ⟨_, htext info.guid, ?_⟩
  refine Option.bind_eq_some_iff.mpr ⟨_, htext info.objectPath, ?_⟩
  refine Option.bind_eq_some_iff.mpr ⟨_, hword info.osMajor, ?_⟩
  refine Option.bind_eq_some_iff.mpr ⟨_, hword info.osMinor, ?_⟩
  refine Option.bind_eq_some_iff.mpr ⟨_, hword info.buildNumber, ?_⟩
  refine Option.bind_eq_some_iff.mpr ⟨_, hword info.processorType, ?_⟩
  refine Option.bind_eq_some_iff.mpr ⟨_, htext info.osName, ?_⟩
  refine Option.bind_eq_some_iff.mpr ⟨_, htext info.model, ?_⟩
  refine Option.bind_eq_some_iff.mpr ⟨_, hword info.partnerId1, ?_⟩
  refine Option.bind_eq_some_iff.mpr ⟨_, hword info.partnerId2, ?_⟩
  refine Option.bind_eq_some_iff.mpr ⟨_, htext info.deviceIp, ?_⟩
  refine Option.bind_eq_some_iff.mpr ⟨_, htext info.localIp, ?_⟩
  refine Option.bind_eq_some_iff.mpr ⟨_, htext info.transport, ?_⟩
  refine Option.bind_eq_some_iff.mpr ⟨_, htext info.password, ?_⟩
  refine Option.bind_eq_some_iff.mpr ⟨_, field_ofNat info.key.toNat_lt _, ?_⟩
  refine Option.bind_eq_some_iff.mpr ⟨_, hpid info.managerPid, ?_⟩
  refine Option.bind_eq_some_iff.mpr ⟨_, hpath info.brokerSocket, ?_⟩
  rw [Option.map_map, Option.map_map, hpids, hpaths, UInt8.ofNat_toNat]
  rfl

theorem parse?_render (info : DeviceInfo) : parse? info.render = some info := by
  rw [parse?, render, parse?_spread info.plain_toJson]
  exact ofJson?_toJson info

theorem load_eq_loaded (files : Files) (p : Path) :
    load files p = loaded parse? (files.readText p) := by
  rw [load]
  cases files.readText p with
  | error cause => rfl
  | ok text =>
    dsimp only [loaded]
    cases parse? text <;> rfl

theorem load_eq_ok_iff : load files p = .ok info ↔
    ∃ text, files.readText p = .ok text ∧ parse? text = some info := by
  rw [load_eq_loaded, loaded_eq_ok_iff]

theorem load_save (h : info.save files p = .ok saved) : load saved p = .ok info :=
  load_eq_ok_iff.mpr ⟨info.render, Files.readText_write h, parse?_render info⟩

theorem save_of_load (h : load files p = .ok info) : ∃ saved, info.save files p = .ok saved := by
  obtain ⟨text, hread, -⟩ := load_eq_ok_iff.mp h
  obtain ⟨place, hplace⟩ := Files.writable_of_readText hread
  exact ⟨_, hplace.write _⟩

end DeviceInfo

namespace Settings

variable {files saved : Files} {p : Path} {s : Settings}

theorem plain_toJson (s : Settings) : Plain s.toJson := by
  refine plain_ofMembers fun value hvalue => ?_
  simp only [fieldValues, List.mem_cons, List.not_mem_nil, or_false] at hvalue
  rcases hvalue with rfl | rfl | rfl | rfl | rfl | rfl
  · exact .integer _
  · exact .string _
  · exact .string _
  · exact plain_ofOption (fun _ => .integer _) _
  · exact plain_ofOption (fun _ => .integer _) _
  · exact .integer _

/-- A document of settings gives them back, whatever the defaults are. -/
theorem ofJson?_toJson (defaults s : Settings) : ofJson? defaults s.toJson = some s := by
  have hslots : s.toJson.slots? fieldNames = some (s.fieldValues.map some) :=
    slots?_ofMembers (by decide) rfl
  have htime (old o : Option UInt64) :
      field old (fun v => (nullable (natBelow? UInt64.size) v).map (Option.map UInt64.ofNat))
        (some (Json.ofOption (fun t => Json.ofNat t.toNat) o)) = some o := by
    have hnat : field none (nullable (natBelow? UInt64.size))
        (some (Json.ofOption (fun t => Json.ofNat t.toNat) o)) = some (o.map UInt64.toNat) :=
      field_ofOption _ UInt64.toNat (fun _ => Json.noConfusion) (fun t => if_pos t.toNat_lt) none o
    have htimes : o.map (UInt64.ofNat ∘ UInt64.toNat) = o := by
      cases o <;> simp
    rw [field] at hnat ⊢
    rw [hnat, Option.map_some, Option.map_map, htimes]
  rw [ofJson?, hslots]
  refine Option.bind_eq_some_iff.mpr ⟨_, rfl, ?_⟩
  refine Option.bind_eq_some_iff.mpr ⟨_, field_ofNat s.port.toNat_lt _, ?_⟩
  refine Option.bind_eq_some_iff.mpr ⟨_, field_ofText _ s.proxyDir.text, ?_⟩
  refine Option.bind_eq_some_iff.mpr ⟨_, field_ofText _ s.infoDir.text, ?_⟩
  refine Option.bind_eq_some_iff.mpr ⟨_, htime _ s.connectTimeout, ?_⟩
  refine Option.bind_eq_some_iff.mpr ⟨_, htime _ s.ioTimeout, ?_⟩
  refine Option.bind_eq_some_iff.mpr ⟨_, field_ofNat s.maxFrame.toNat_lt _, ?_⟩
  rw [UInt16.ofNat_toNat, UInt32.ofNat_toNat]
  rfl

theorem save_eq_install (s : Settings) (files : Files) (p : Path) :
    s.save files p = files.install p (.file (Utf8.encode s.render)) := rfl

theorem load_eq_loaded (defaults : Settings) (files : Files) (p : Path) :
    load defaults files p =
      loaded (fun text => Json.parse? text >>= ofJson? defaults) (files.readText p) := by
  rw [load]
  cases files.readText p with
  | error cause => rfl
  | ok text =>
    dsimp only [loaded]
    cases Json.parse? text >>= ofJson? defaults <;> rfl

theorem load_eq_ok_iff {defaults : Settings} : load defaults files p = .ok s ↔
    ∃ text, files.readText p = .ok text ∧ (Json.parse? text >>= ofJson? defaults) = some s := by
  rw [load_eq_loaded, loaded_eq_ok_iff]

theorem load_save (defaults : Settings) (h : s.save files p = .ok saved) :
    load defaults saved p = .ok s := by
  have hparse : Json.parse? s.render = some s.toJson := parse?_spread s.plain_toJson
  refine load_eq_ok_iff.mpr ⟨s.render, Files.readText_install h, ?_⟩
  rw [hparse]
  exact ofJson?_toJson defaults s

theorem save_of_load {defaults : Settings} (h : load defaults files p = .ok s) :
    ∃ saved, s.save files p = .ok saved := by
  obtain ⟨text, hread, -⟩ := load_eq_ok_iff.mp h
  obtain ⟨place, hplace⟩ := Files.writable_of_readText hread
  rw [save_eq_install, hplace.install]
  exact ⟨_, hplace.write _⟩

end Settings

/-- What is saved loads back equal, whatever the texts and numbers in it are: device information
wherever a file can be written, settings wherever one can be written once the directories around it
are made, and no default comes in. What was loaded from a file can be saved there, and it loads
again as the same. -/
theorem saved_loads_back (files : Files) (p : Path) :
    (∀ content written, files.write p content = .ok written → ∀ info : DeviceInfo,
      ∃ saved, info.save files p = .ok saved ∧ DeviceInfo.load saved p = .ok info) ∧
    (∀ info : DeviceInfo, DeviceInfo.load files p = .ok info →
      ∃ saved, info.save files p = .ok saved ∧ DeviceInfo.load saved p = .ok info) ∧
    (∀ content installed, files.install p (.file content) = .ok installed → ∀ s : Settings,
      ∃ saved, s.save files p = .ok saved ∧
        ∀ defaults : Settings, Settings.load defaults saved p = .ok s) ∧
    (∀ defaults s : Settings, Settings.load defaults files p = .ok s →
      ∃ saved, s.save files p = .ok saved ∧
        ∀ others : Settings, Settings.load others saved p = .ok s) := by
  refine ⟨fun content written h info => ?_, fun info h => ?_, fun content installed h s => ?_,
    fun defaults s h => ?_⟩
  · obtain ⟨saved, hsaved⟩ := Files.exists_write h (Utf8.encode info.render)
    exact ⟨saved, hsaved, DeviceInfo.load_save hsaved⟩
  · obtain ⟨saved, hsaved⟩ := DeviceInfo.save_of_load h
    exact ⟨saved, hsaved, DeviceInfo.load_save hsaved⟩
  · obtain ⟨saved, hsaved⟩ := Files.exists_install h (Utf8.encode s.render)
    exact ⟨saved, hsaved, fun defaults => Settings.load_save defaults hsaved⟩
  · obtain ⟨saved, hsaved⟩ := Settings.save_of_load h
    exact ⟨saved, hsaved, fun others => Settings.load_save others hsaved⟩

/-- A device whose name is hard to write: quotes, a backslash, control characters, and a character
of two units. An empty text is not an absent one. -/
def oddInfo : DeviceInfo where
  name := "\"\\\x00\n\x7f😀"
  model := some ""
  key := 255
  managerPid := some 4294967295

/-- Settings at the ends of their ranges. -/
def oddSettings : Settings where
  port := 65535
  proxyDir := ⟨""⟩
  infoDir := ⟨"/\u2028\"\\"⟩
  ioTimeout := some 18446744073709551615
  maxFrame := 0

/-- A device and some settings, the latter in a directory that is not there before. -/
theorem odd_texts_load_back :
    (∃ saved again, oddInfo.save {} ⟨"/pda"⟩ = .ok saved ∧
      DeviceInfo.load saved ⟨"/pda"⟩ = .ok oddInfo ∧
      oddInfo.save saved ⟨"/pda"⟩ = .ok again ∧
      DeviceInfo.load again ⟨"/pda"⟩ = .ok oddInfo) ∧
    ∃ saved again, oddSettings.save {} ⟨"/etc/rapi.json"⟩ = .ok saved ∧
      Settings.load oddSettings saved ⟨"/etc/rapi.json"⟩ = .ok oddSettings ∧
      oddSettings.save saved ⟨"/etc/rapi.json"⟩ = .ok again ∧
      Settings.load oddSettings again ⟨"/etc/rapi.json"⟩ = .ok oddSettings := by
  refine ⟨?_, ?_⟩
  · obtain ⟨saved, hsaved, hload⟩ := (saved_loads_back {} ⟨"/pda"⟩).1 [] _ rfl oddInfo
    obtain ⟨again, hagain, hreload⟩ := (saved_loads_back saved ⟨"/pda"⟩).2.1 oddInfo hload
    exact ⟨saved, again, hsaved, hload, hagain, hreload⟩
  · obtain ⟨saved, hsaved, hload⟩ :=
      (saved_loads_back {} ⟨"/etc/rapi.json"⟩).2.2.1 [] _ rfl oddSettings
    obtain ⟨again, hagain, hreload⟩ :=
      (saved_loads_back saved ⟨"/etc/rapi.json"⟩).2.2.2 oddSettings oddSettings (hload _)
    exact ⟨saved, again, hsaved, hload oddSettings, hagain, hreload oddSettings⟩

end PocketLink
