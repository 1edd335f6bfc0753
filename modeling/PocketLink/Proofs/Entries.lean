import PocketLink.Proofs.Paths

/-!
# The entries of a directory

The path of an entry is that of its directory, with the name as one more step. So what is found
there depends on what stands at that one place, once the path of the directory leads somewhere; and
an entry can only be found where there is a directory.

A tree is a table, in an order that nothing but a listing shows.
-/

namespace PocketLink

namespace Path

/-- A name that an entry of a directory can have. -/
structure IsName (name : String) : Prop where
  ne_empty : name ≠ ""
  ne_dot : name ≠ "."
  ne_up : name ≠ ".."
  noSlash : '/' ∉ name.toList

variable {p : Path} {name : String}

/-! ## The path of an entry -/

theorem parts_append_slash (front : String) (h : '/' ∉ name.toList) :
    parts ⟨front ++ "/" ++ name⟩ = parts ⟨front⟩ ++ [name] := by
  have hchars : (front ++ "/" ++ name).toList = front.toList ++ '/' :: name.toList := by simp
  have hsplit : (front.toList ++ '/' :: name.toList).splitOn '/' =
      front.toList.splitOn '/' ++ name.toList.splitOn '/' :=
    List.splitOnP_append_cons _ _ (by simp)
  rw [parts_eq, parts_eq, hchars, hsplit, List.splitOn_eq_singleton h, List.map_append]
  simp

/-- The name stands behind a slash, which may be there already. -/
theorem text_join (h : IsName name) (hne : p.text ≠ "") :
    ∃ front, (p.join name).text = front ++ "/" ++ name ∧
      (p.text = front ∨ p.text = front ++ "/") := by
  have habsolute : isAbsolute ⟨name⟩ = false := by
    rw [isAbsolute, decide_eq_false_iff_not]
    exact fun hhead => h.noSlash (List.mem_of_mem_head? hhead)
  rw [join, habsolute, if_neg Bool.false_ne_true]
  cases hlast : p.text.toList.getLast? with
  | none => simp [hne] at hlast
  | some c =>
    by_cases hc : c = '/'
    · subst hc
      obtain ⟨cs, hcs⟩ := List.getLast?_eq_some_iff.mp hlast
      have htext : p.text = String.ofList cs ++ "/" := by
        rw [← String.toList_inj, hcs]
        simp
      exact ⟨String.ofList cs, congrArg (· ++ name) htext, Or.inr htext⟩
    · refine ⟨p.text, ?_, Or.inl rfl⟩
      split
      · contradiction
      · simp_all
      · rfl

theorem steps_join (h : IsName name) (hne : p.text ≠ "") :
    (p.join name).steps = p.steps ++ [name] := by
  obtain ⟨front, hjoin, hfront⟩ := text_join h hne
  have hparts : (p.join name).parts = parts ⟨front⟩ ++ [name] := by
    rw [show p.join name = ⟨front ++ "/" ++ name⟩ from congrArg Path.mk hjoin]
    exact parts_append_slash front h.noSlash
  have hsame : p.steps = steps ⟨front⟩ := by
    rcases hfront with hfront | hfront
    · exact congrArg (fun text => steps ⟨text⟩) hfront
    · have hslash : p.parts = parts ⟨front⟩ ++ [""] := by
        have hmore := @parts_append_slash "" front List.not_mem_nil
        rwa [String.append_empty, ← hfront] at hmore
      rw [steps, steps, hslash, List.filter_append]
      simp
  rw [steps, hparts, List.filter_append, hsame]
  simp [steps, h.ne_empty]

theorem exists_text_join (h : IsName name) (hne : p.text ≠ "") :
    ∃ rest, (p.join name).text = p.text ++ rest := by
  obtain ⟨front, hjoin, hfront⟩ := text_join h hne
  rcases hfront with hfront | hfront
  · exact ⟨"/" ++ name, by rw [hjoin, hfront, String.append_assoc]⟩
  · exact ⟨name, by rw [hjoin, hfront]⟩

theorem isAbsolute_join (h : IsName name) (hne : p.text ≠ "") :
    (p.join name).isAbsolute = p.isAbsolute := by
  obtain ⟨rest, hrest⟩ := exists_text_join h hne
  have hchars : p.text.toList ≠ [] := by simpa using hne
  rw [isAbsolute, isAbsolute, hrest, String.toList_append, List.head?_append,
    List.head?_eq_some_head hchars]
  rfl

/-! ## Extensions -/

theorem extension?_of_not_mem (h : '.' ∉ name.toList) : extension? name = none := by
  rw [extension?, splitFrom_eq, List.splitOn_eq_singleton h]
  rfl

/-- What stands behind the last dot is an extension if something stands before it. -/
theorem extension?_append (stem : String) {ending : String} (h : '.' ∉ ending.toList) :
    extension? (stem ++ "." ++ ending) = if stem = "" then none else some ending := by
  have hchars : (stem ++ "." ++ ending).toList = stem.toList ++ '.' :: ending.toList := by simp
  have hsplit : (stem.toList ++ '.' :: ending.toList).splitOn '.' =
      stem.toList.splitOn '.' ++ [ending.toList] := by
    rw [← List.splitOn_eq_singleton h]
    exact List.splitOnP_append_cons _ _ (by simp)
  have hplain : (stem.toList.splitOn '.' ++ [ending.toList]).modifyHead
      (([] : List Char).reverse ++ ·) = stem.toList.splitOn '.' ++ [ending.toList] := by
    cases stem.toList.splitOn '.' ++ [ending.toList] <;> rfl
  have hjoin : ['.'].intercalate (stem.toList.splitOn '.') = stem.toList :=
    List.intercalate_splitOn '.'
  rw [extension?, splitFrom_eq, hchars, hsplit, hplain, List.reverse_append]
  by_cases hempty : stem = ""
  · subst hempty
    rfl
  · rw [if_neg hempty]
    cases hbefore : (stem.toList.splitOn '.').reverse with
    | nil => simp at hbefore
    | cons part before =>
      -- Only the empty text is a single empty part.
      have hfull : ¬((part :: before).all List.isEmpty &&
          decide ((part :: before).length = 1)) = true := by
        rw [Bool.and_eq_true, decide_eq_true_eq, List.length_eq_one_iff]
        rintro ⟨hblank, only, honly⟩
        rw [honly] at hblank hbefore
        have hnone : only = [] := by simpa using hblank
        rw [List.reverse_eq_iff.mp hbefore, hnone] at hjoin
        exact hempty (String.toList_inj.mp hjoin.symm)
      show (if _ then none else some (String.ofList ending.toList)) = some ending
      rw [if_neg hfull, String.ofList_toList]

/-- A name with a given extension has something before it. -/
theorem extension?_eq_some_iff {ending : String} (h : '.' ∉ ending.toList) :
    extension? name = some ending ↔ ∃ stem, stem ≠ "" ∧ name = stem ++ "." ++ ending := by
  constructor
  · intro hname
    by_cases hdot : '.' ∈ name.toList
    · obtain ⟨behind, front, hsplit, hlast⟩ :=
        List.eq_append_cons_of_mem (List.mem_reverse.mpr hdot)
      have htext : name = String.ofList front.reverse ++ "." ++ String.ofList behind.reverse := by
        rw [← String.toList_inj, ← List.reverse_reverse name.toList, hsplit]
        simp
      have hmark : '.' ∉ (String.ofList behind.reverse).toList := by simpa using hlast
      rw [htext, extension?_append _ hmark] at hname
      split at hname
      · cases hname
      · next hstem =>
        cases hname
        exact ⟨_, hstem, htext⟩
    · rw [extension?_of_not_mem hdot] at hname
      cases hname
  · rintro ⟨stem, hstem, rfl⟩
    rw [extension?_append stem h, if_neg hstem]

end Path

namespace Files

/-- A tree in which each place stands once. -/
def IsTable (t : Files) : Prop := (t.nodes.map Prod.fst).Nodup

/-- The same tree, with its places in another order. -/
structure Reordered (t t' : Files) : Prop where
  nodes : t'.nodes.Perm t.nodes
  workingDirectory : t'.workingDirectory = t.workingDirectory

/-- A path that leads to a directory. -/
structure DirectoryAt (t : Files) (p : Path) (place : Location) : Prop where
  located : t.locate p = .ok place
  directory : t.node? place = some .directory

variable {t t' : Files} {p : Path} {place spot : Location} {name : String} {node : Node}

/-! ## Listings -/

theorem nameIn?_append (spot : Location) (name : String) :
    nameIn? spot (spot ++ "/" ++ name) = if '/' ∈ name.toList then none else some name := by
  have hchars : (spot ++ "/" ++ name).toList = (spot.toList ++ ['/']) ++ name.toList := by simp
  have hfront : (spot.toList ++ ['/']).isPrefixOf ((spot.toList ++ ['/']) ++ name.toList) = true :=
    List.isPrefixOf_iff_prefix.mpr (List.prefix_append _ _)
  rw [nameIn?, hchars, hfront, List.drop_left, String.ofList_toList]
  by_cases hslash : '/' ∈ name.toList <;> simp [hslash]

theorem nameIn?_eq_some_iff :
    nameIn? spot place = some name ↔ place = spot ++ "/" ++ name ∧ '/' ∉ name.toList := by
  constructor
  · intro h
    obtain ⟨rest, rfl⟩ : ∃ rest, place = spot ++ "/" ++ rest := by
      unfold nameIn? at h
      extract_lets front behind at h
      split at h
      · next hentry =>
        rw [Bool.and_eq_true, List.isPrefixOf_iff_prefix] at hentry
        obtain ⟨⟨rest, hrest⟩, -⟩ := hentry
        refine ⟨String.ofList rest, ?_⟩
        rw [← String.toList_inj, ← hrest]
        simp [front]
      · cases h
    rw [nameIn?_append] at h
    split at h
    · cases h
    · next hslash =>
      cases h
      exact ⟨rfl, hslash⟩
  · rintro ⟨rfl, hslash⟩
    rw [nameIn?_append, if_neg hslash]

/-- What a directory lists is what stands behind a slash in it. -/
theorem mem_namesIn_iff : name ∈ t.namesIn spot ↔
    '/' ∉ name.toList ∧ (t.node? (spot ++ "/" ++ name)).isSome = true := by
  have hroot : spot ++ "/" ++ name ≠ "" := by
    intro hempty
    simpa using congrArg String.toList hempty
  rw [namesIn, List.mem_filterMap, node?, if_neg hroot, List.lookup_isSome_iff]
  simp only [nameIn?_eq_some_iff, beq_iff_eq]
  constructor
  · rintro ⟨entry, hentry, hplace, hslash⟩
    exact ⟨hslash, entry, hentry, hplace.symm⟩
  · rintro ⟨hslash, entry, hentry, hplace⟩
    exact ⟨entry, hentry, hplace.symm, hslash⟩

theorem IsTable.nodup_namesIn (h : t.IsTable) (spot : Location) : (t.namesIn spot).Nodup := by
  have hplaces : t.namesIn spot = (t.nodes.map Prod.fst).filterMap (nameIn? spot) := by
    rw [List.filterMap_map]
    rfl
  rw [hplaces]
  -- A name says at which place its entry stands, so two places have two names.
  refine List.Pairwise.filterMap _ (fun place place' hne name hname name' hname' => ?_) h
  rintro rfl
  exact hne ((nameIn?_eq_some_iff.mp hname).1.trans (nameIn?_eq_some_iff.mp hname').1.symm)

theorem exists_find_of_contains (h : t.contains p = true) : ∃ node, t.find p = .ok node := by
  unfold contains at h
  cases hfind : t.find p with
  | error cause =>
    rw [hfind] at h
    cases h
  | ok node => exact ⟨node, rfl⟩

theorem find_eq_directory_iff : t.find p = .ok .directory ↔ ∃ place, t.DirectoryAt p place := by
  constructor
  · intro h
    obtain ⟨place, hplace, hnode⟩ := Operation.bind_eq_ok_iff.mp h
    refine ⟨place, hplace, ?_⟩
    split at hnode
    · cases hnode
    · assumption
    · split at hnode
      · cases hnode
      · next hthere _ =>
        cases hnode
        exact hthere
  · rintro ⟨place, hplace, hnode⟩
    refine Operation.bind_eq_ok_iff.mpr ⟨place, hplace, ?_⟩
    rw [hnode]
    rfl

/-- A directory can be listed, and nothing else. -/
theorem list_eq_ok_iff {names : List String} : t.list p = .ok names ↔
    ∃ place, t.DirectoryAt p place ∧ names = t.namesIn place := by
  constructor
  · intro h
    obtain ⟨node, hfind, hnames⟩ := Operation.bind_eq_ok_iff.mp h
    cases node with
    | directory =>
      obtain ⟨place, hplace⟩ := find_eq_directory_iff.mp hfind
      obtain ⟨place', hplace', hlisted⟩ := Operation.bind_eq_ok_iff.mp hnames
      cases hplace.located.symm.trans hplace'
      cases hlisted
      exact ⟨place, hplace, rfl⟩
    | file content => cases hnames
    | socket => cases hnames
  · rintro ⟨place, hplace, rfl⟩
    have hfind := find_eq_directory_iff.mpr ⟨place, hplace⟩
    exact Operation.bind_eq_ok_iff.mpr
      ⟨_, hfind, Operation.bind_eq_ok_iff.mpr ⟨place, hplace.located, rfl⟩⟩

/-! ## Tables -/

theorem IsTable.put (h : t.IsTable) (spot : Location) (node : Node) :
    (t.put spot node).IsTable := by
  have hrest : ((t.nodes.filter fun entry => entry.1 ≠ spot).map Prod.fst).Nodup :=
    h.sublist (List.filter_sublist.map Prod.fst)
  refine List.nodup_cons.mpr ⟨?_, hrest⟩
  simp

theorem IsTable.lookup_eq_some_iff (h : t.IsTable) :
    t.nodes.lookup spot = some node ↔ (spot, node) ∈ t.nodes := by
  rw [List.lookup_eq_some_iff]
  constructor
  · rintro ⟨before, behind, hsplit, -⟩
    rw [hsplit]
    exact List.mem_append_right _ (List.mem_cons_self ..)
  · intro hmem
    obtain ⟨before, behind, hsplit⟩ := List.append_of_mem hmem
    refine ⟨before, behind, hsplit, fun entry hentry => ?_⟩
    rw [IsTable, hsplit, List.map_append, List.map_cons] at h
    have hne := (List.nodup_append.mp h).2.2 entry.1 (List.mem_map_of_mem hentry) spot
      (List.mem_cons_self ..)
    simpa using hne.symm

theorem Reordered.isTable (h : Reordered t t') (ht : t.IsTable) : t'.IsTable :=
  (h.nodes.map Prod.fst).nodup_iff.mpr ht

theorem Reordered.node? (h : Reordered t t') (ht : t.IsTable) : t'.node? = t.node? := by
  funext spot
  unfold Files.node?
  split
  · rfl
  · refine Option.ext fun node => ?_
    rw [(h.isTable ht).lookup_eq_some_iff, ht.lookup_eq_some_iff, h.nodes.mem_iff]

theorem Reordered.locate (h : Reordered t t') (ht : t.IsTable) (p : Path) :
    t'.locate p = t.locate p := by
  have hstep : t'.step = t.step := by
    funext trail name
    rw [step, step, h.node? ht]
  rw [Files.locate, Files.locate, hstep, start, start, h.workingDirectory]

theorem Reordered.find (h : Reordered t t') (ht : t.IsTable) (p : Path) :
    t'.find p = t.find p := by
  rw [Files.find, Files.find, h.locate ht, h.node? ht]

theorem Reordered.directoryAt (h : Reordered t t') (ht : t.IsTable) (hp : t.DirectoryAt p place) :
    t'.DirectoryAt p place := by
  refine ⟨?_, ?_⟩
  · rw [h.locate ht, hp.located]
  · rw [h.node? ht, hp.directory]

theorem Reordered.list_eq_error (h : Reordered t t') (ht : t.IsTable) {cause : IoError}
    (hlist : t.list p = .error cause) : t'.list p = .error cause := by
  unfold Files.list at hlist ⊢
  rw [h.find ht]
  cases hfind : t.find p with
  | error reason =>
    rw [hfind] at hlist
    exact hlist
  | ok node =>
    rw [hfind] at hlist
    cases node with
    | directory =>
      obtain ⟨place, hp⟩ := find_eq_directory_iff.mp hfind
      simp only [hp.located] at hlist
      cases hlist
    | file content => exact hlist
    | socket => exact hlist

/-! ## What is found in a directory -/

section Entries

variable (h : Path.IsName name)

include h

theorem step_isName (trail : Trail) (hdir : t.node? trail.here = some .directory) :
    t.step trail name =
      if maxName < name.utf8ByteSize then .error .nameTooLong else .ok (trail.into name) := by
  rw [step, hdir]
  dsimp only
  rw [if_neg h.ne_dot, if_neg h.ne_up]

/-- A walk to an entry is a walk to its directory and one more step. -/
theorem walk_join (t : Files) (hne : p.text ≠ "") :
    (p.join name).steps.foldlM t.step (t.start (p.join name)) =
      (p.steps.foldlM t.step (t.start p) >>= fun trail => t.step trail name) := by
  rw [start, Path.isAbsolute_join h hne, Path.steps_join h hne, List.foldlM_append, ← start]
  simp only [List.foldlM_cons, List.foldlM_nil, bind_pure]

theorem locate_join (hp : t.DirectoryAt p place) :
    t.locate (p.join name) = (checkPath (p.join name) >>= fun _ =>
      if maxName < name.utf8ByteSize then .error .nameTooLong
      else .ok (place ++ "/" ++ name)) := by
  obtain ⟨_, hchecked, hplace⟩ := Operation.bind_eq_ok_iff.mp hp.located
  obtain ⟨last, hwalk, hlast⟩ := Operation.bind_eq_ok_iff.mp hplace
  cases hlast
  rw [locate, walk_join h t (checkPath_eq_ok_iff.mp hchecked).2.1, hwalk]
  congr 1
  funext _
  rw [show (Except.ok last >>= fun trail => t.step trail name) = t.step last name from rfl,
    step_isName h last hp.directory]
  split <;> rfl

theorem locate_join_eq_ok (hp : t.DirectoryAt p place) (hspot : t.locate (p.join name) = .ok spot) :
    spot = place ++ "/" ++ name := by
  rw [locate_join h hp] at hspot
  obtain ⟨_, -, hspot⟩ := Operation.bind_eq_ok_iff.mp hspot
  split at hspot
  · cases hspot
  · cases hspot
    rfl

/-- What is found behind a name depends on what stands at one place. -/
theorem find_join_congr (hp : t.DirectoryAt p place) (hp' : t'.DirectoryAt p place)
    (hsame : t'.node? (place ++ "/" ++ name) = t.node? (place ++ "/" ++ name)) :
    t'.find (p.join name) = t.find (p.join name) := by
  have hlocate : t'.locate (p.join name) = t.locate (p.join name) := by
    rw [locate_join h hp, locate_join h hp']
  rw [Files.find, Files.find, hlocate]
  cases hspot : t.locate (p.join name) with
  | error cause => rfl
  | ok spot =>
    cases locate_join_eq_ok h hp hspot
    show Except.bind (.ok _) _ = Except.bind (.ok _) _
    rw [Except.bind, Except.bind, hsame]

/-- An entry is found in a directory. -/
theorem find_of_find_join (hne : p.text ≠ "") (hfind : t.find (p.join name) = .ok node) :
    t.find p = .ok .directory := by
  obtain ⟨place, hplace, -⟩ := Operation.bind_eq_ok_iff.mp hfind
  obtain ⟨_, hchecked, hplace⟩ := Operation.bind_eq_ok_iff.mp hplace
  obtain ⟨last, hwalk, -⟩ := Operation.bind_eq_ok_iff.mp hplace
  rw [walk_join h t hne] at hwalk
  obtain ⟨around, haround, hstep⟩ := Operation.bind_eq_ok_iff.mp hwalk
  obtain ⟨rest, hrest⟩ := Path.exists_text_join h hne
  refine find_eq_directory_iff.mpr ⟨around.here, ?_, node?_of_step hstep⟩
  refine Operation.bind_eq_ok_iff.mpr ⟨(), checkPath_of_append hne hrest hchecked, ?_⟩
  exact Operation.bind_eq_ok_iff.mpr ⟨around, haround, rfl⟩

theorem mem_of_find_join {names : List String} (hlist : t.list p = .ok names)
    (hfind : t.find (p.join name) = .ok node) : name ∈ names := by
  obtain ⟨place, hp, rfl⟩ := list_eq_ok_iff.mp hlist
  obtain ⟨spot, hspot, hnode⟩ := Operation.bind_eq_ok_iff.mp hfind
  cases locate_join_eq_ok h hp hspot
  refine mem_namesIn_iff.mpr ⟨h.noSlash, Option.isSome_iff_ne_none.mpr fun hnone => ?_⟩
  rw [hnone] at hnode
  cases hnode

end Entries

end Files

end PocketLink
