import PocketLink.Proofs.Entries
import PocketLink.Proofs.Resolver.Lookup
import PocketLink.Proofs.Saving
import PocketLink.Proofs.Text.Utf8

/-!
# Directories of device files

The devices of a directory are those of its device files, in the order of their names
(`directory_answers`). Nothing else matters: not the order in which the directory is listed
(`directory_of_reordered`), and not what else is in it (`devicesIn_of_same`). Only the file of the
active device is looked at beside them, and only for the default device.
-/

namespace PocketLink.Resolver

open Files (DirectoryAt IsTable Reordered)

/-- An entry of a directory is a device file: its name ends in `.json` behind something else, it is
not the file of the active device, and its content is the document of a device. -/
structure Describes (t : Files) (dir : Path) (name : String) (info : DeviceInfo) : Prop where
  listed : ∃ names, t.list dir = .ok names ∧ name ∈ names
  ending : ∃ stem, stem ≠ "" ∧ name = stem ++ ".json"
  inactive : name ≠ activeFile
  content : ∃ text, t.read (dir.join name) = .ok (Utf8.encode text) ∧
    DeviceInfo.parse? text = some info

/-- The device files of a directory with their devices, as the directory is read. -/
def entriesIn (t : Files) (dir : Path) : List (String × DeviceInfo) :=
  (deviceFiles ((t.list dir).toOption.getD [])).filterMap fun name =>
    (DeviceInfo.load t (dir.join name)).toOption.map (name, ·)

variable {t t' : Files} {dir dir' : Path} {place : Location} {name : String} {info : DeviceInfo}
  {names : List String} {selector : Selector}

/-! ## Names -/

theorem isDeviceFile_iff : isDeviceFile name = true ↔
    (∃ stem, stem ≠ "" ∧ name = stem ++ ".json") ∧ name ≠ activeFile := by
  have hending : (∃ stem, stem ≠ "" ∧ name = stem ++ "." ++ "json") ↔
      ∃ stem, stem ≠ "" ∧ name = stem ++ ".json" := by
    simp only [String.append_assoc]
    rfl
  rw [isDeviceFile, Bool.and_eq_true, decide_eq_true_eq, decide_eq_true_eq,
    Path.extension?_eq_some_iff (by decide), hending]

theorem mem_deviceFiles_iff :
    name ∈ deviceFiles names ↔ name ∈ names ∧ isDeviceFile name = true := by
  rw [deviceFiles, (List.mergeSort_perm _ _).mem_iff, List.mem_filter]

theorem pairwise_deviceFiles (h : names.Nodup) : (deviceFiles names).Pairwise (· < ·) := by
  have hsorted : (deviceFiles names).Pairwise fun a b => decide (a ≤ b) = true :=
    List.pairwise_mergeSort
      (fun a b c hab hbc =>
        decide_eq_true ((of_decide_eq_true hab).trans (of_decide_eq_true hbc)))
      (fun a b => by simpa using le_total a b) _
  have hnodup : (deviceFiles names).Nodup :=
    (List.mergeSort_perm _ _).nodup_iff.mpr (h.filter _)
  exact (hsorted.and hnodup).imp fun ⟨hle, hne⟩ => lt_of_le_of_ne (of_decide_eq_true hle) hne

/-- The name of an entry with an extension leads somewhere. -/
theorem isName_of_ending (hslash : '/' ∉ name.toList)
    (h : ∃ stem, stem ≠ "" ∧ name = stem ++ ".json") : Path.IsName name := by
  obtain ⟨stem, -, rfl⟩ := h
  have hlast : (stem ++ ".json").toList.getLast? = some 'n' := by simp
  refine ⟨?_, ?_, ?_, hslash⟩ <;>
  · intro heq
    rw [heq] at hlast
    revert hlast
    decide

theorem isName_activeFile : Path.IsName activeFile := by
  refine ⟨?_, ?_, ?_, ?_⟩ <;> decide

/-! ## The devices of a directory -/

theorem readText_eq_ok_iff {p : Path} {text : String} :
    t.readText p = .ok text ↔ t.read p = .ok (Utf8.encode text) := by
  unfold Files.readText
  rw [Operation.bind_eq_ok_iff]
  constructor
  · rintro ⟨bytes, hbytes, htext⟩
    cases hdecoded : Utf8.decode? bytes with
    | none =>
      rw [hdecoded] at htext
      cases htext
    | some decoded =>
      rw [hdecoded] at htext
      cases htext
      rw [hbytes, Utf8.decode?_eq_some_iff.mp hdecoded]
  · intro hbytes
    refine ⟨_, hbytes, ?_⟩
    rw [Utf8.decode?_encode]
    rfl

theorem load_eq_ok_iff_read {p : Path} : DeviceInfo.load t p = .ok info ↔
    ∃ text, t.read p = .ok (Utf8.encode text) ∧ DeviceInfo.parse? text = some info := by
  rw [DeviceInfo.load_eq_ok_iff]
  simp only [readText_eq_ok_iff]

theorem mem_entriesIn : (name, info) ∈ entriesIn t dir ↔ Describes t dir name info := by
  have hloaded : (DeviceInfo.load t (dir.join name)).toOption = some info ↔
      DeviceInfo.load t (dir.join name) = .ok info := by
    cases DeviceInfo.load t (dir.join name) <;> simp [Except.toOption]
  have hlisted : name ∈ (t.list dir).toOption.getD [] ↔
      ∃ names, t.list dir = .ok names ∧ name ∈ names := by
    cases t.list dir <;> simp [Except.toOption]
  have hentry : (name, info) ∈ entriesIn t dir ↔
      name ∈ deviceFiles ((t.list dir).toOption.getD []) ∧
        (DeviceInfo.load t (dir.join name)).toOption = some info := by
    rw [entriesIn, List.mem_filterMap]
    constructor
    · rintro ⟨other, hother, hpair⟩
      obtain ⟨found, hfound, heq⟩ := Option.map_eq_some_iff.mp hpair
      cases heq
      exact ⟨hother, hfound⟩
    · rintro ⟨hname, hfound⟩
      exact ⟨name, hname, by rw [hfound]; rfl⟩
  rw [hentry, mem_deviceFiles_iff, isDeviceFile_iff, hloaded, load_eq_ok_iff_read, hlisted]
  constructor
  · rintro ⟨⟨hlist, hending, hinactive⟩, hcontent⟩
    exact ⟨hlist, hending, hinactive, hcontent⟩
  · rintro ⟨hlist, hending, hinactive, hcontent⟩
    exact ⟨⟨hlist, hending, hinactive⟩, hcontent⟩

theorem pairwise_entriesIn (ht : t.IsTable) (dir : Path) :
    (entriesIn t dir).Pairwise fun a b => a.1 < b.1 := by
  have hnodup : ((t.list dir).toOption.getD []).Nodup := by
    cases hlist : t.list dir with
    | error cause => exact List.nodup_nil
    | ok names =>
      obtain ⟨place, -, rfl⟩ := Files.list_eq_ok_iff.mp hlist
      exact ht.nodup_namesIn place
  refine List.Pairwise.filterMap _ (fun name name' hlt entry hentry entry' hentry' => ?_)
    (pairwise_deviceFiles hnodup)
  obtain ⟨_, -, rfl⟩ := Option.map_eq_some_iff.mp hentry
  obtain ⟨_, -, rfl⟩ := Option.map_eq_some_iff.mp hentry'
  exact hlt

/-- Which entries are device files, and what is in them, says in which order they come. -/
theorem entriesIn_eq (ht : t.IsTable) (ht' : t'.IsTable)
    (h : ∀ name info, Describes t' dir' name info ↔ Describes t dir name info) :
    entriesIn t' dir' = entriesIn t dir := by
  have hpairs := pairwise_entriesIn ht dir
  have hpairs' := pairwise_entriesIn ht' dir'
  have hne {a b : String × DeviceInfo} (hlt : a.1 < b.1) : a ≠ b := by
    rintro rfl
    exact lt_irrefl _ hlt
  -- Two lists in strict order that have the same entries are the same list.
  have hperm : (entriesIn t' dir').Perm (entriesIn t dir) := by
    refine (List.perm_ext_iff_of_nodup (hpairs'.imp hne) (hpairs.imp hne)).mpr ?_
    rintro ⟨name, info⟩
    rw [mem_entriesIn, mem_entriesIn, h]
  exact hperm.eq_of_pairwise (fun a b _ _ hab hba => absurd hab (lt_asymm hba)) hpairs' hpairs

/-- A directory that can be listed or is missing has the devices of its device files. -/
theorem devicesIn_eq (h : ∀ cause, t.list dir = .error cause → cause = .notFound) :
    devicesIn t dir = .ok ((entriesIn t dir).map Prod.snd) := by
  rw [devicesIn, entriesIn]
  cases hlist : t.list dir with
  | error cause =>
    cases h cause hlist
    simp [deviceFiles, Except.toOption]
  | ok names =>
    have hforget (answer : Except FileFault DeviceInfo) (name : String) :
        (answer.toOption.map (name, ·)).map Prod.snd = answer.toOption := by
      cases answer <;> rfl
    simp only [List.map_filterMap, hforget]
    rfl

/-! ## Looking up -/

theorem resolve_of_not_active (h : ¬(selector = .default ∧ t.contains (dir.join activeFile))) :
    (directory t dir).resolve selector = match devicesIn t dir with
      | .ok devices => pick devices selector
      | .error cause => .error (.resolution (.unreadable dir (.io cause))) := by
  show resolveIn t dir selector = _
  rw [resolveIn]
  exact if_neg h

/-- The file of the active device answers for the default device, whether it can be loaded or
not. -/
theorem answers_active (h : t.contains (dir.join activeFile) = true) :
    Answers ((directory t dir).resolve .default)
      (DeviceInfo.load t (dir.join activeFile)).toOption := by
  show Answers (resolveIn t dir .default) _
  rw [resolveIn, if_pos ⟨rfl, h⟩]
  cases DeviceInfo.load t (dir.join activeFile) with
  | ok info => rfl
  | error fault => exact ⟨_, rfl⟩

theorem load_congr {p : Path} (h : t'.find p = t.find p) :
    DeviceInfo.load t' p = DeviceInfo.load t p := by
  rw [DeviceInfo.load, DeviceInfo.load, Files.readText, Files.readText, Files.read, Files.read, h]

/-- An answer is made of the devices, and of the active file if the default device is asked for. -/
theorem resolve_congr (hdevices : devicesIn t' dir = devicesIn t dir)
    (hactive : selector = .default → t'.find (dir.join activeFile) = t.find (dir.join activeFile)) :
    (directory t' dir).resolve selector = (directory t dir).resolve selector := by
  by_cases hdefault : selector = .default
  · have hfind := hactive hdefault
    have hcontains : t'.contains (dir.join activeFile) = t.contains (dir.join activeFile) := by
      rw [Files.contains, Files.contains, hfind]
    show resolveIn t' dir selector = resolveIn t dir selector
    rw [resolveIn, resolveIn, hcontains, load_congr hfind, hdevices]
  · rw [resolve_of_not_active fun h => hdefault h.1, resolve_of_not_active fun h => hdefault h.1,
      hdevices]

/-- What a directory of device files answers, said by its device files alone. -/
theorem directory_answers
    (hlist : ∀ cause, t.list dir = .error cause → cause = .notFound) :
    (directory t dir).devices = .ok ((entriesIn t dir).map Prod.snd) ∧
      (∀ selector, selector ≠ .default → Answers ((directory t dir).resolve selector)
        (((entriesIn t dir).map Prod.snd).find? selector.selects)) ∧
      Answers ((directory t dir).resolve .default)
        (if t.contains (dir.join activeFile) then
          (DeviceInfo.load t (dir.join activeFile)).toOption
        else ((entriesIn t dir).map Prod.snd).head?) := by
  have hdevices := devicesIn_eq hlist
  refine ⟨congrArg (Except.mapError Error.io) hdevices, fun selector hselector => ?_, ?_⟩
  · rw [resolve_of_not_active fun h => hselector h.1, hdevices]
    exact answers_pick _ selector
  · by_cases hactive : t.contains (dir.join activeFile) = true
    · rw [if_pos hactive]
      exact answers_active hactive
    · have hfirst (devices : List DeviceInfo) :
          devices.find? Selector.default.selects = devices.head? := by
        cases devices <;> rfl
      rw [if_neg hactive, resolve_of_not_active fun h => hactive h.2, hdevices, ← hfirst]
      exact answers_pick _ .default

/-! ## What makes no difference -/

/-- Whether an entry is a device file depends on what stands at its place. -/
theorem Describes.of_same (hp : t.DirectoryAt dir place) (hp' : t'.DirectoryAt dir place)
    (hsame : t'.node? (place ++ "/" ++ name) = t.node? (place ++ "/" ++ name))
    (h : Describes t dir name info) : Describes t' dir name info := by
  obtain ⟨names, hlist, hname⟩ := h.listed
  obtain ⟨place', hplace', rfl⟩ := Files.list_eq_ok_iff.mp hlist
  cases hp.located.symm.trans hplace'.located
  obtain ⟨hslash, hthere⟩ := Files.mem_namesIn_iff.mp hname
  have hfind := Files.find_join_congr (isName_of_ending hslash h.ending) hp hp' hsame
  have hread : t'.read (dir.join name) = t.read (dir.join name) := by
    rw [Files.read, Files.read, hfind]
  refine ⟨⟨_, Files.list_eq_ok_iff.mpr ⟨place, hp', rfl⟩, ?_⟩, h.ending, h.inactive, ?_⟩
  · rw [Files.mem_namesIn_iff, hsame]
    exact ⟨hslash, hthere⟩
  · rw [hread]
    exact h.content

/-- Entries that are no device files may come, go and change. -/
theorem devicesIn_of_same (ht : t.IsTable) (ht' : t'.IsTable) (hp : t.DirectoryAt dir place)
    (hp' : t'.DirectoryAt dir place)
    (h : ∀ name, t'.node? (place ++ "/" ++ name) = t.node? (place ++ "/" ++ name) ∨
      ∀ info, ¬Describes t dir name info ∧ ¬Describes t' dir name info) :
    devicesIn t' dir = devicesIn t dir := by
  have hlisted {t : Files} (hp : t.DirectoryAt dir place) (cause : IoError)
      (herror : t.list dir = .error cause) : cause = .notFound := by
    cases herror.symm.trans (Files.list_eq_ok_iff.mpr ⟨place, hp, rfl⟩)
  have hentries : entriesIn t' dir = entriesIn t dir := by
    refine entriesIn_eq ht ht' fun name info => ?_
    rcases h name with hsame | hnone
    · exact ⟨.of_same hp' hp hsame.symm, .of_same hp hp' hsame⟩
    · exact iff_of_false (hnone info).2 (hnone info).1
  rw [devicesIn_eq (hlisted hp), devicesIn_eq (hlisted hp'), hentries]

theorem devicesIn_of_reordered (ht : t.IsTable) (h : Reordered t t') (dir : Path) :
    devicesIn t' dir = devicesIn t dir := by
  cases hlist : t.list dir with
  | error cause =>
    rw [devicesIn, devicesIn, hlist, h.list_eq_error ht hlist]
    cases cause <;> rfl
  | ok names =>
    obtain ⟨place, hp, -⟩ := Files.list_eq_ok_iff.mp hlist
    exact devicesIn_of_same ht (h.isTable ht) hp (h.directoryAt ht hp) fun name =>
      Or.inl (congrFun (h.node? ht) _)

theorem directory_of_reordered (ht : t.IsTable) (h : Reordered t t') (dir : Path) :
    directory t' dir = directory t dir := by
  have hdevices := devicesIn_of_reordered ht h dir
  have hresolve : (directory t' dir).resolve = (directory t dir).resolve :=
    funext fun selector => resolve_congr hdevices fun _ => h.find ht _
  unfold directory at hresolve ⊢
  rw [hdevices, show resolveIn t' dir = resolveIn t dir from hresolve]

/-- Where no directory is, no active file is found either, unless by the empty path. -/
theorem not_contains_of_missing {cause : IoError} (hlist : t.list dir = .error cause)
    (hpath : dir.text = "" → ¬t.contains (dir.join activeFile) = true) :
    ¬t.contains (dir.join activeFile) = true := by
  by_cases hempty : dir.text = ""
  · exact hpath hempty
  · intro hcontains
    obtain ⟨node, hfind⟩ := Files.exists_find_of_contains hcontains
    obtain ⟨place, hp⟩ :=
      Files.find_eq_directory_iff.mp (Files.find_of_find_join isName_activeFile hempty hfind)
    cases hlist.symm.trans (Files.list_eq_ok_iff.mpr ⟨place, hp, rfl⟩)

theorem not_contains_of_empty (hlist : t.list dir = .ok []) :
    ¬t.contains (dir.join activeFile) = true := by
  intro hcontains
  obtain ⟨node, hfind⟩ := Files.exists_find_of_contains hcontains
  cases Files.mem_of_find_join isName_activeFile hlist hfind

theorem devicesIn_of_missing (h : t.list dir = .error .notFound) : devicesIn t dir = .ok [] := by
  rw [devicesIn, h]

theorem devicesIn_of_empty (h : t.list dir = .ok []) : devicesIn t dir = .ok [] := by
  simp [devicesIn, h, deviceFiles]

/-- The devices of a directory that is there or missing are those of its device files, in the order
of the bytes of their names, and a name or an object path means the first of them that has it. The
default device is that of the active file if there is one, and otherwise the first of all. So it
makes no difference in which order the directory is listed, nor does it to anything but the default
device whether other entries come, go or change. A missing directory answers like an empty one; only
the empty path, to which no directory belongs, may still find the active file of the working
directory. -/
theorem directory_answers_by_device_files (dir : Path) :
    (∀ t : Files, t.IsTable → (∀ cause, t.list dir = .error cause → cause = .notFound) →
      ∃ entries : List (String × DeviceInfo),
        entries.Pairwise (fun a b => Utf8.encode a.1 < Utf8.encode b.1) ∧
        (∀ name info, (name, info) ∈ entries ↔ Describes t dir name info) ∧
        (directory t dir).devices = .ok (entries.map Prod.snd) ∧
        (∀ selector, selector ≠ .default → Answers ((directory t dir).resolve selector)
          ((entries.map Prod.snd).find? selector.selects)) ∧
        Answers ((directory t dir).resolve .default)
          (if t.contains (dir.join activeFile) then
            (DeviceInfo.load t (dir.join activeFile)).toOption
          else (entries.map Prod.snd).head?)) ∧
    (∀ t t' : Files, t.IsTable → Reordered t t' → directory t' dir = directory t dir) ∧
    (∀ (t t' : Files) (place : Location), t.IsTable → t'.IsTable →
      t.DirectoryAt dir place → t'.DirectoryAt dir place →
      (∀ name, t'.node? (place ++ "/" ++ name) = t.node? (place ++ "/" ++ name) ∨
        ∀ info, ¬Describes t dir name info ∧ ¬Describes t' dir name info) →
      (directory t' dir).devices = (directory t dir).devices ∧
        ∀ selector, (selector = .default →
            t'.node? (place ++ "/" ++ activeFile) = t.node? (place ++ "/" ++ activeFile)) →
          (directory t' dir).resolve selector = (directory t dir).resolve selector) ∧
    ∀ (t t' : Files) (dir' : Path), t.list dir = .error .notFound → t'.list dir' = .ok [] →
      (directory t dir).devices = (directory t' dir').devices ∧
        ∀ selector, (selector = .default → dir.text = "" →
            ¬t.contains (dir.join activeFile) = true) →
          (directory t dir).resolve selector = (directory t' dir').resolve selector := by
  refine ⟨fun t ht hlist => ?_, fun t t' ht h => directory_of_reordered ht h dir,
    fun t t' place ht ht' hp hp' h => ?_, fun t t' dir' hmissing hempty => ?_⟩
  · refine ⟨entriesIn t dir, ?_, fun name info => mem_entriesIn, directory_answers hlist⟩
    exact (pairwise_entriesIn ht dir).imp Utf8.encode_lt_encode_iff.mpr
  · have hdevices := devicesIn_of_same ht ht' hp hp' h
    refine ⟨congrArg (Except.mapError Error.io) hdevices, fun selector hactive => ?_⟩
    exact resolve_congr hdevices fun hdefault =>
      Files.find_join_congr isName_activeFile hp hp' (hactive hdefault)
  · have hdevices := (devicesIn_of_missing hmissing).trans (devicesIn_of_empty hempty).symm
    refine ⟨congrArg (Except.mapError Error.io) hdevices, fun selector hpath => ?_⟩
    rw [resolve_of_not_active fun h => not_contains_of_missing hmissing (hpath h.1) h.2,
      resolve_of_not_active fun h => not_contains_of_empty hempty h.2,
      devicesIn_of_missing hmissing, devicesIn_of_empty hempty]

/-- The sample tree, in whose directory there are two more files that are not text. One of them has
the name of a device file, the other that of the active device. -/
def litteredTree : Files :=
  (sampleTree.put "/a/0.json" (.file [255])).put "/a/active_connection.json" (.file [255])

theorem isTable_sampleTree : sampleTree.IsTable := by
  unfold IsTable
  decide

theorem load_ne_ok_of_read {p : Path} {bytes : List UInt8} (hread : t.read p = .ok bytes)
    (hbytes : Utf8.decode? bytes = none) : DeviceInfo.load t p ≠ .ok info := by
  intro h
  obtain ⟨text, htext, -⟩ := load_eq_ok_iff_read.mp h
  cases hread.symm.trans htext
  rw [Utf8.decode?_encode] at hbytes
  cases hbytes

theorem litteredTree_of_sampleTree (name : String) :
    litteredTree.node? ("/a" ++ "/" ++ name) = sampleTree.node? ("/a" ++ "/" ++ name) ∨
      ∀ info, ¬Describes sampleTree ⟨"/a"⟩ name info ∧
        ¬Describes litteredTree ⟨"/a"⟩ name info := by
  by_cases hactive : name = activeFile
  · exact Or.inr fun info => ⟨fun h => h.inactive hactive, fun h => h.inactive hactive⟩
  by_cases hbroken : name = "0.json"
  · subst hbroken
    refine Or.inr fun info => ⟨fun h => ?_, fun h => ?_⟩
    · obtain ⟨names, hlist, hname⟩ := h.listed
      have hnames : sampleTree.list ⟨"/a"⟩ = .ok ["x.json", "w.json"] := rfl
      cases hnames.symm.trans hlist
      revert hname
      decide
    · exact load_ne_ok_of_read rfl (by decide +kernel) (load_eq_ok_iff_read.mpr h.content)
  · have hne {other : String} (h : name ≠ other) : "/a" ++ "/" ++ name ≠ "/a" ++ "/" ++ other :=
      fun heq => h ((String.append_right_inj _).mp heq)
    have hfirst : "/a" ++ "/" ++ name ≠ "/a/active_connection.json" := hne hactive
    have hsecond : "/a" ++ "/" ++ name ≠ "/a/0.json" := hne hbroken
    refine Or.inl ?_
    rw [litteredTree, Files.node?_put_of_ne _ _ hfirst, Files.node?_put_of_ne _ _ hsecond]

/-- The tablet is found in whatever order the directory is listed, and whatever else is in it, but
the broken file of the active device stands for the default device. -/
theorem tablet_among_other_entries :
    (directory { sampleTree with nodes := sampleTree.nodes.reverse } ⟨"/a"⟩).devices =
        .ok [{ name := "Tablet" }] ∧
      (directory sampleTree ⟨"/a"⟩).resolve .default = .ok { name := "Tablet" } ∧
      (directory litteredTree ⟨"/a"⟩).resolve (.name "tablet") = .ok { name := "Tablet" } ∧
      (∃ reason, (directory litteredTree ⟨"/a"⟩).resolve .default = .error (.resolution reason)) ∧
      (directory sampleTree ⟨"/c"⟩).resolve .default =
        (directory (sampleTree.put "/e" .directory) ⟨"/e"⟩).resolve .default := by
  have htable := isTable_sampleTree
  have hlittered : litteredTree.IsTable := (htable.put _ _).put _ _
  obtain ⟨hanswers, horder, hsame, -⟩ := directory_answers_by_device_files ⟨"/a"⟩
  obtain ⟨-, -, -, hmissing⟩ := directory_answers_by_device_files ⟨"/c"⟩
  have hdevices : (directory sampleTree ⟨"/a"⟩).devices = .ok [{ name := "Tablet" }] :=
    congrArg (Except.mapError Error.io) devicesIn_sampleTree
  have hreversed : Reordered sampleTree { sampleTree with nodes := sampleTree.nodes.reverse } :=
    ⟨List.reverse_perm _, rfl⟩
  have hlist : ∀ cause, sampleTree.list ⟨"/a"⟩ = .error cause → cause = .notFound :=
    fun cause h => by cases h
  have hlist' : ∀ cause, litteredTree.list ⟨"/a"⟩ = .error cause → cause = .notFound :=
    fun cause h => by cases h
  have hload : (DeviceInfo.load litteredTree (Path.join ⟨"/a"⟩ activeFile)).toOption = none := by
    cases hloaded : DeviceInfo.load litteredTree (Path.join ⟨"/a"⟩ activeFile) with
    | error fault => rfl
    | ok info => exact absurd hloaded (load_ne_ok_of_read rfl (by decide +kernel))
  obtain ⟨entries, -, -, hlisted, hfirst, hdefault⟩ := hanswers sampleTree htable hlist
  obtain ⟨_, -, -, -, -, hbroken⟩ := hanswers litteredTree hlittered hlist'
  obtain ⟨-, hresolve⟩ := hsame sampleTree litteredTree "/a" htable hlittered ⟨rfl, rfl⟩ ⟨rfl, rfl⟩
    litteredTree_of_sampleTree
  rw [hlisted] at hdevices
  have hentries : entries.map Prod.snd = [{ name := "Tablet" }] := Except.ok.inj hdevices
  rw [hentries] at hlisted hfirst hdefault
  refine ⟨?_, ?_, ?_, ?_, ?_⟩
  · rw [horder _ _ htable hreversed, hlisted]
  · rwa [if_neg (by decide)] at hdefault
  · rw [hresolve (.name "tablet") Selector.noConfusion]
    exact hfirst (.name "tablet") Selector.noConfusion
  · rwa [if_pos (by decide), hload] at hbroken
  · exact (hmissing sampleTree (sampleTree.put "/e" .directory) ⟨"/e"⟩ rfl rfl).2 .default
      fun _ h => absurd h (by decide)

end PocketLink.Resolver
