import PocketLink.Resolver.Basic

/-!
# Lookup by name

A chain looks a device up by asking one source after another, and it lists its devices by putting
the listings of its sources together, each name once. Both ways lead to the same device: the first
one with the name in the listing is the first one in all listings, because a device is only left out
of the listing behind another one of its name. A source that cannot list its devices, like a file in
the place of a directory, knows none.

Sources are chained to any depth, so what is said of a chain is said by induction on how it was put
together.
-/

namespace PocketLink.Resolver

/-- A source that fails to list its devices, and to look one up by name. -/
structure Unreadable (source : Resolver) : Prop where
  devices : ∃ e, source.devices = .error e
  resolve : ∀ name, ∃ reason, source.resolve (.name name) = .error (.resolution reason)

/-- The sources over a file tree: fixed lists, directories, and chains of such sources. A tree knows
no permissions, so a directory may also be unreadable for a cause that is not in the tree. -/
inductive Stacked (files : Files) : Resolver → Prop
  | fixed (devices : List DeviceInfo) : Stacked files (Resolver.fixed devices)
  | directory (dir : Path) : Stacked files (Resolver.directory files dir)
  | unreadable {source : Resolver} (h : Unreadable source) : Stacked files source
  | chain {sources : List Resolver} (h : ∀ source ∈ sources, Stacked files source) :
      Stacked files (Resolver.chain sources)

/-- The devices that a source has to offer: none if it cannot list them. -/
def offered (source : Resolver) : List DeviceInfo := source.devices.toOption.getD []

/-- Whether a device has a name, in whatever case its letters are. -/
def isNamed (name : String) (info : DeviceInfo) : Bool := Ascii.sameName info.name name

/-- An answer that is the device that is to be found, or a failure to find one if there is none. -/
def Answers (answer : Except Error DeviceInfo) : Option DeviceInfo → Prop
  | some info => answer = .ok info
  | none => ∃ reason, answer = .error (.resolution reason)

variable {files : Files} {name : String} {selector : Selector} {source : Resolver}

/-! ## Listing -/

/-- A device is passed over only if one of its name is known already, and then that one is found. -/
theorem find?_addNew (known found : List DeviceInfo) :
    (addNew known found).find? (isNamed name) =
      (known.find? (isNamed name)).or (found.find? (isNamed name)) := by
  induction found generalizing known with
  | nil => exact (Option.or_none).symm
  | cons info found ih =>
    have hstep : addNew known (info :: found) =
        addNew (if hasName known info then known else known ++ [info]) found := rfl
    rw [hstep, ih]
    by_cases hname : isNamed name info = true
    · rw [List.find?_cons_of_pos hname]
      by_cases hknown : hasName known info = true
      · obtain ⟨other, hmem, hother⟩ := List.any_eq_true.mp hknown
        have hfound : (known.find? (isNamed name)).isSome = true :=
          List.find?_isSome.mpr ⟨other, hmem, Ascii.sameName_trans hother hname⟩
        obtain ⟨first, hfirst⟩ := Option.isSome_iff_exists.mp hfound
        rw [if_pos hknown, hfirst]
        rfl
      · rw [if_neg hknown, List.find?_append, List.find?_cons_of_pos hname]
        cases known.find? (isNamed name) <;> rfl
    · rw [List.find?_cons_of_neg hname]
      split
      · rfl
      · rw [List.find?_append, List.find?_cons_of_neg hname, List.find?_nil, Option.or_none]

theorem offered_chain (sources : List Resolver) :
    (chain sources).offered = devicesOf sources := rfl

/-- The listing of a chain grows source by source, by what each has to offer. -/
theorem devicesOf_eq_foldl (sources : List Resolver) :
    devicesOf sources = sources.foldl (fun all source => addNew all source.offered) [] := by
  unfold devicesOf
  congr 1
  funext all source
  rw [offered]
  cases source.devices <;> rfl

/-- The first device with a name in the listing of a chain is the first one that any of its sources
offers. -/
theorem find?_devicesOf (sources : List Resolver) :
    (devicesOf sources).find? (isNamed name) =
      sources.findSome? fun source => source.offered.find? (isNamed name) := by
  -- What is known already stands before what is added.
  have grows (known : List DeviceInfo) :
      (sources.foldl (fun all source => addNew all source.offered) known).find? (isNamed name) =
        (known.find? (isNamed name)).or
          (sources.findSome? fun source => source.offered.find? (isNamed name)) := by
    induction sources generalizing known with
    | nil => exact (Option.or_none).symm
    | cons source sources ih =>
      rw [List.foldl_cons, ih, List.findSome?_cons, find?_addNew, Option.or_assoc]
      cases source.offered.find? (isNamed name) <;> rfl
  rw [devicesOf_eq_foldl]
  exact grows []

/-! ## Looking up -/

section Answering

variable {answer : Except Error DeviceInfo} {found : Option DeviceInfo} {info : DeviceInfo}
  {e : Error}

theorem Answers.ok_iff (h : Answers answer found) : answer = .ok info ↔ found = some info := by
  cases found with
  | some first =>
    rw [show answer = .ok first from h]
    simp
  | none =>
    obtain ⟨reason, rfl⟩ := h
    simp

theorem Answers.resolution_iff (h : Answers answer found) :
    (∃ reason, answer = .error (.resolution reason)) ↔ found = none := by
  cases found with
  | some first =>
    rw [show answer = .ok first from h]
    simp
  | none => exact iff_of_true h rfl

theorem Answers.failure (h : Answers answer found) (hfail : answer = .error e) :
    ∃ reason, e = .resolution reason := by
  cases found with
  | some first => cases hfail.symm.trans h
  | none =>
    obtain ⟨reason, hreason⟩ := h
    cases hfail.symm.trans hreason
    exact ⟨reason, rfl⟩

end Answering

theorem answers_pick (devices : List DeviceInfo) (selector : Selector) :
    Answers (pick devices selector) (devices.find? selector.selects) := by
  rw [pick]
  cases devices.find? selector.selects with
  | some info => rfl
  | none => exact ⟨_, rfl⟩

/-- If each source answers with what is to be found in it, the first one that knows the device
answers for all. -/
theorem answers_resolveFirst {sources : List Resolver} {find : Resolver → Option DeviceInfo}
    (h : ∀ source ∈ sources, Answers (source.resolve selector) (find source)) :
    Answers (resolveFirst selector sources) (sources.findSome? find) := by
  induction sources with
  | nil => exact ⟨_, rfl⟩
  | cons source sources ih =>
    have hfirst := h source (List.mem_cons_self ..)
    have hrest := ih fun other hother => h other (List.mem_cons_of_mem source hother)
    rw [List.findSome?_cons, resolveFirst]
    cases hfind : find source with
    | some info =>
      rw [hfind] at hfirst
      rw [show source.resolve selector = .ok info from hfirst]
      rfl
    | none =>
      rw [hfind] at hfirst
      obtain ⟨reason, hreason⟩ := hfirst
      rw [hreason]
      exact hrest

theorem Unreadable.answers (h : Unreadable source) (name : String) :
    Answers (source.resolve (.name name)) (source.offered.find? (isNamed name)) := by
  obtain ⟨e, hdevices⟩ := h.devices
  have hnone : source.offered = [] := by rw [offered, hdevices]; rfl
  rw [hnone]
  exact h.resolve name

theorem offered_directory (files : Files) (dir : Path) :
    (directory files dir).offered = (devicesIn files dir).toOption.getD [] := by
  rw [offered, directory]
  cases devicesIn files dir <;> rfl

/-- The file of the default device makes no difference when a name is looked up. -/
theorem resolve_directory {dir : Path} {devices : List DeviceInfo}
    (h : devicesIn files dir = .ok devices) (name : String) :
    (directory files dir).resolve (.name name) = pick devices (.name name) := by
  simp [directory, resolveIn, h]

/-- A directory that cannot be listed is unreadable, for whatever cause. -/
theorem unreadable_directory {dir : Path} {cause : IoError}
    (h : devicesIn files dir = .error cause) : Unreadable (directory files dir) := by
  refine ⟨⟨.io cause, congrArg (Except.mapError Error.io) h⟩, fun name =>
    ⟨.unreadable dir (.io cause), ?_⟩⟩
  simp [directory, resolveIn, h]

/-- A directory answers for a name with the first device in its listing, if it can be listed. -/
theorem answers_directory (files : Files) (dir : Path) (name : String) :
    Answers ((directory files dir).resolve (.name name))
      ((directory files dir).offered.find? (isNamed name)) := by
  cases hlisted : devicesIn files dir with
  | ok devices =>
    rw [resolve_directory hlisted, offered_directory, hlisted]
    exact answers_pick devices (.name name)
  | error cause => exact (unreadable_directory hlisted).answers name

/-- Every source answers for a name with the first device of that name that it offers. -/
theorem Stacked.answers (h : Stacked files source) (name : String) :
    Answers (source.resolve (.name name)) (source.offered.find? (isNamed name)) := by
  induction h with
  | fixed devices => exact answers_pick devices (.name name)
  | directory dir => exact answers_directory files dir name
  | unreadable h => exact h.answers name
  | @chain sources h ih =>
    rw [offered_chain, find?_devicesOf]
    exact answers_resolveFirst ih

/-- However its sources were chained, and whatever is the matter with their directories: a chain can
list its devices, it resolves a name to the first device of the listing that has it, and it fails to
resolve the name exactly if no device of the listing has it. There is no other failure. -/
theorem name_resolves_to_first_listed {sources : List Resolver}
    (h : ∀ source ∈ sources, Stacked files source) (name : String) :
    ∃ listed, (chain sources).devices = .ok listed ∧
      (∀ info, (chain sources).resolve (.name name) = .ok info ↔
        ∃ before behind, listed = before ++ info :: behind ∧
          Ascii.sameName info.name name = true ∧
          ∀ other ∈ before, Ascii.sameName other.name name = false) ∧
      ((∃ reason, (chain sources).resolve (.name name) = .error (.resolution reason)) ↔
        ∀ info ∈ listed, Ascii.sameName info.name name = false) ∧
      ∀ e, (chain sources).resolve (.name name) = .error e → ∃ reason, e = .resolution reason := by
  have hanswers : Answers ((chain sources).resolve (.name name))
      ((devicesOf sources).find? (isNamed name)) := (Stacked.chain h).answers name
  refine ⟨devicesOf sources, rfl, fun info => ?_, ?_, fun e hfail => hanswers.failure hfail⟩
  · rw [hanswers.ok_iff, List.find?_eq_some_iff_append]
    constructor
    · rintro ⟨hname, before, behind, hsplit, hbefore⟩
      exact ⟨before, behind, hsplit, hname, fun other hother => by
        simpa [isNamed] using hbefore other hother⟩
    · rintro ⟨before, behind, hsplit, hname, hbefore⟩
      exact ⟨hname, before, behind, hsplit, fun other hother => by
        simpa [isNamed] using hbefore other hother⟩
  · rw [hanswers.resolution_iff, List.find?_eq_none]
    simp [isNamed]

/-- A directory with a device file and a corrupt one, and a file that is no directory. -/
def sampleTree : Files where
  nodes := [("/a", .directory),
    ("/a/x.json", .file (Utf8.encode "\x7b\"name\":\"Tablet\"\x7d")),
    ("/a/w.json", .file (Utf8.encode "\x7b")), ("/b", .file [])]

/-- A chain over what is no directory, over a directory and what is missing, and over a list. -/
def sampleSources : List Resolver :=
  [directory sampleTree ⟨"/b"⟩, chain [directory sampleTree ⟨"/a"⟩, directory sampleTree ⟨"/c"⟩],
    fixed [{ name := "TABLET", osMajor := 5 }, { name := "Phone" }]]

theorem stacked_sampleSources : ∀ source ∈ sampleSources, Stacked sampleTree source := by
  have hnested : Stacked sampleTree
      (chain [directory sampleTree ⟨"/a"⟩, directory sampleTree ⟨"/c"⟩]) := by
    refine .chain fun source hsource => ?_
    simp only [List.mem_cons, List.not_mem_nil, or_false] at hsource
    rcases hsource with rfl | rfl
    · exact .directory ⟨"/a"⟩
    · exact .directory ⟨"/c"⟩
  intro source hsource
  simp only [sampleSources, List.mem_cons, List.not_mem_nil, or_false] at hsource
  rcases hsource with rfl | rfl | rfl
  · exact .directory ⟨"/b"⟩
  · exact hnested
  · exact .fixed _

/-- What a device file of the sample tree says. -/
theorem load_sampleTree (text : String) {p : Path}
    (hread : sampleTree.read p = .ok (Utf8.encode text)) :
    (DeviceInfo.load sampleTree p).toOption = DeviceInfo.parse? text := by
  have htext : sampleTree.readText p = .ok text := by
    rw [Files.readText, hread]
    simp only [Bind.bind, Except.bind, Utf8.decode?_encode]
    rfl
  rw [DeviceInfo.load, htext]
  dsimp only
  cases DeviceInfo.parse? text <;> rfl

theorem devicesIn_sampleTree : devicesIn sampleTree ⟨"/a"⟩ = .ok [{ name := "Tablet" }] := by
  have hfiles : deviceFiles ["x.json", "w.json"] = ["w.json", "x.json"] := by
    have hfilter : ["x.json", "w.json"].filter isDeviceFile = ["x.json", "w.json"] := by decide
    rw [deviceFiles, hfilter, List.mergeSort]
    simp
  have hlist : sampleTree.list ⟨"/a"⟩ = .ok ["x.json", "w.json"] := rfl
  have hbad : (DeviceInfo.load sampleTree ⟨"/a/w.json"⟩).toOption = none :=
    (load_sampleTree "\x7b" rfl).trans (by decide +kernel)
  have hgood : (DeviceInfo.load sampleTree ⟨"/a/x.json"⟩).toOption = some { name := "Tablet" } :=
    (load_sampleTree "\x7b\"name\":\"Tablet\"\x7d" rfl).trans (by decide +kernel)
  have hjoin : Path.join ⟨"/a"⟩ "w.json" = ⟨"/a/w.json"⟩ ∧
      Path.join ⟨"/a"⟩ "x.json" = ⟨"/a/x.json"⟩ := by decide
  rw [devicesIn, hlist]
  simp only [hfiles, List.filterMap_cons, List.filterMap_nil, hjoin.1, hjoin.2, hbad, hgood]

theorem offered_nested :
    (chain [directory sampleTree ⟨"/a"⟩, directory sampleTree ⟨"/c"⟩]).offered =
      [{ name := "Tablet" }] := by
  have hfound : (directory sampleTree ⟨"/a"⟩).offered = [{ name := "Tablet" }] := by
    rw [offered_directory, devicesIn_sampleTree]
    rfl
  have hmissing : (directory sampleTree ⟨"/c"⟩).offered = [] := rfl
  rw [offered_chain, devicesOf_eq_foldl, List.foldl_cons, List.foldl_cons, hfound, hmissing]
  rfl

/-- The list offers the tablet as well, but the directory comes first. -/
theorem tablet_resolves_to_first_listed :
    (chain sampleSources).devices = .ok [{ name := "Tablet" }, { name := "Phone" }] ∧
      (chain sampleSources).resolve (.name "tablet") = .ok { name := "Tablet" } := by
  obtain ⟨listed, hlisted, hfirst, -⟩ :=
    name_resolves_to_first_listed stacked_sampleSources "tablet"
  have hdevices : (chain sampleSources).devices =
      .ok [{ name := "Tablet" }, { name := "Phone" }] := by
    have hfile : (directory sampleTree ⟨"/b"⟩).offered = [] := rfl
    refine congrArg Except.ok ?_
    rw [sampleSources, devicesOf_eq_foldl, List.foldl_cons, List.foldl_cons, hfile,
      offered_nested]
    rfl
  refine ⟨hdevices, (hfirst _).mpr ⟨[], [{ name := "Phone" }], ?_, by decide, by simp⟩⟩
  cases hdevices.symm.trans hlisted
  rfl

end PocketLink.Resolver
