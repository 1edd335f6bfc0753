import PocketLink.Proofs.Files

/-!
# The directories around a path

The path of the directory around a path has the parts of that path up to its last name. A walk along
the whole path has been in each of the directories on the way, so none of them is missing: to make
the directories around something that can be reached is to change nothing.
-/

namespace PocketLink

namespace Path

/-! ## Parts -/

theorem splitFrom_eq (mark : Char) (before cs : List Char) :
    splitFrom mark before cs = (cs.splitOn mark).modifyHead (before.reverse ++ ·) := by
  induction cs generalizing before with
  | nil => simp [splitFrom]
  | cons c cs ih =>
    rw [splitFrom, List.splitOn_cons_eq_if_modifyHead]
    by_cases hc : c = mark
    · have hrest : (cs.splitOn mark).modifyHead (([] : List Char).reverse ++ ·) =
          cs.splitOn mark := by
        cases cs.splitOn mark <;> rfl
      rw [if_pos hc, if_pos (by simpa using hc), ih, hrest]
      simp
    · rw [if_neg hc, if_neg (by simpa using hc), ih, List.modifyHead_modifyHead]
      simp [Function.comp_def]

theorem parts_eq (p : Path) : p.parts = (p.text.toList.splitOn '/').map String.ofList := by
  rw [parts, splitFrom_eq]
  cases p.text.toList.splitOn '/' <;> rfl

/-- A path is its parts with slashes between them. -/
theorem intercalate_parts (p : Path) : "/".intercalate p.parts = p.text := by
  have hchars : p.parts.map String.toList = p.text.toList.splitOn '/' := by
    rw [parts_eq, List.map_map]
    exact (List.map_congr_left fun part _ => String.toList_ofList).trans (List.map_id _)
  rw [← String.toList_inj, String.toList_intercalate, hchars]
  exact List.intercalate_splitOn '/'

theorem not_mem_splitOn (mark : Char) (cs : List Char) : ∀ part ∈ cs.splitOn mark, mark ∉ part := by
  induction cs with
  | nil => simp
  | cons c cs ih =>
    intro part hpart
    rw [List.splitOn_cons_eq_if_modifyHead] at hpart
    by_cases hc : c = mark
    · rw [if_pos (by simpa using hc)] at hpart
      rcases List.mem_cons.mp hpart with rfl | hpart
      · exact List.not_mem_nil
      · exact ih part hpart
    · rw [if_neg (by simpa using hc)] at hpart
      cases hsplit : cs.splitOn mark with
      | nil => exact absurd hsplit (List.splitOn_ne_nil _ _)
      | cons first rest =>
        rw [hsplit] at ih hpart
        rcases List.mem_cons.mp hpart with rfl | hpart
        · intro hmem
          rcases List.mem_cons.mp hmem with rfl | hmem
          · exact hc rfl
          · exact ih first (List.mem_cons_self ..) hmem
        · exact ih part (List.mem_cons_of_mem first hpart)

/-- Parts of a path that are put together again are the parts of what they make. -/
theorem parts_intercalate {p : Path} {chosen : List String} (hne : chosen ≠ [])
    (h : ∀ part ∈ chosen, part ∈ p.parts) : parts ⟨"/".intercalate chosen⟩ = chosen := by
  have hfree : ∀ cs ∈ chosen.map String.toList, '/' ∉ cs := by
    intro cs hcs
    obtain ⟨part, hpart, rfl⟩ := List.mem_map.mp hcs
    have hmem := h part hpart
    rw [parts_eq] at hmem
    obtain ⟨cs, hcs, rfl⟩ := List.mem_map.mp hmem
    rw [String.toList_ofList]
    exact not_mem_splitOn '/' _ cs ‹_›
  have hslash : "/".toList = ['/'] := rfl
  rw [parts_eq, String.toList_intercalate, hslash,
    List.splitOn_intercalate '/' hfree (by simpa using hne), List.map_map]
  exact (List.map_congr_left fun part _ => String.ofList_toList).trans (List.map_id _)

/-! ## The path around a path -/

theorem trimmed_prefix (parts : List String) : trimmed parts <+: parts := by
  have hsuffix := List.dropWhile_suffix (l := parts.reverse)
    fun part => decide (part = "") || decide (part = ".")
  have hprefix := List.reverse_prefix.mpr hsuffix
  rwa [List.reverse_reverse] at hprefix

/-- What is left of some parts ends in one that leads somewhere. -/
theorem eq_append_of_trimmed {parts before : List String} {last : String}
    (h : (trimmed parts).reverse = last :: before) :
    last ≠ "" ∧ ∃ behind, parts = before.reverse ++ last :: behind := by
  rw [trimmed, List.reverse_reverse] at h
  generalize hblank : (fun part : String => decide (part = "") || decide (part = ".")) = blank at h
  have hlast := List.head?_dropWhile_not blank parts.reverse
  have hsplit : parts.reverse.takeWhile blank ++ parts.reverse.dropWhile blank = parts.reverse :=
    List.takeWhile_append_dropWhile
  rw [h] at hlast hsplit
  refine ⟨?_, (parts.reverse.takeWhile blank).reverse, ?_⟩
  · rintro rfl
    rw [← hblank] at hlast
    cases hlast
  · have hparts := congrArg List.reverse hsplit
    rw [List.reverse_reverse, List.reverse_append, List.reverse_cons, List.append_assoc] at hparts
    exact hparts.symm

/-- What a path with a directory around it consists of: the parts of the directory, and behind them
others, of which one at least is not empty. -/
theorem parent?_eq_some {p around : Path} (h : p.parent? = some around) :
    around = ⟨""⟩ ∨ around = ⟨"/"⟩ ∨
      around.text ≠ "" ∧
        ∃ behind, p.parts = around.parts ++ behind ∧ ∃ part ∈ behind, part ≠ "" := by
  unfold parent? at h
  cases hparts : p.parts with
  | nil =>
    rw [hparts] at h
    cases h
  | cons first rest =>
    rw [hparts] at h
    dsimp only at h
    cases htrimmed : (trimmed rest).reverse with
    | nil =>
      rw [htrimmed] at h
      dsimp only at h
      split at h
      · cases h
      · cases h
        exact Or.inl rfl
    | cons last before =>
      rw [htrimmed] at h
      dsimp only at h
      generalize htext : "/".intercalate (first :: trimmed before.reverse) = text at h
      by_cases hempty : text = ""
      · rw [if_pos hempty] at h
        cases h
        exact Or.inr (Or.inl rfl)
      · rw [if_neg hempty] at h
        cases h
        obtain ⟨hlast, tail, hrest⟩ := eq_append_of_trimmed htrimmed
        obtain ⟨extra, hextra⟩ := trimmed_prefix before.reverse
        have hall : first :: rest =
            (first :: trimmed before.reverse) ++ (extra ++ last :: tail) := by
          rw [List.cons_append, ← List.append_assoc, hextra, ← hrest]
        have haround : parts ⟨text⟩ = first :: trimmed before.reverse := by
          rw [← htext]
          refine @parts_intercalate p _ (List.cons_ne_nil _ _) fun part hpart => ?_
          rw [hparts, hall]
          exact List.mem_append_left _ hpart
        refine Or.inr (Or.inr ⟨hempty, extra ++ last :: tail, ?_, last, ?_, hlast⟩)
        · rw [haround, hall]
        · exact List.mem_append_right _ (List.mem_cons_self ..)

theorem intercalate_append {chosen behind : List (List Char)} (hne : chosen ≠ []) :
    ∃ rest, ['/'].intercalate (chosen ++ behind) = ['/'].intercalate chosen ++ rest := by
  induction chosen with
  | nil => contradiction
  | cons part chosen ih =>
    by_cases hlast : chosen = []
    · subst hlast
      cases behind with
      | nil => exact ⟨[], by simp⟩
      | cons next behind => exact ⟨'/' :: ['/'].intercalate (next :: behind), by simp⟩
    · obtain ⟨rest, hrest⟩ := ih hlast
      have hmore : chosen ++ behind ≠ [] := List.append_ne_nil_of_left_ne_nil hlast _
      refine ⟨rest, ?_⟩
      rw [List.cons_append, List.intercalate_cons_of_ne_nil hmore, hrest,
        List.intercalate_cons_of_ne_nil hlast]
      simp only [List.append_assoc]

theorem parts_ne_nil (p : Path) : p.parts ≠ [] := by
  rw [parts_eq]
  simp

/-- A path starts with the text of the directory around it. -/
theorem text_eq_append {p around : Path} {behind : List String}
    (h : p.parts = around.parts ++ behind) : ∃ rest, p.text = around.text ++ rest := by
  have hne : around.parts.map String.toList ≠ [] := by simpa using around.parts_ne_nil
  obtain ⟨rest, hrest⟩ := @intercalate_append _ (behind.map String.toList) hne
  refine ⟨String.ofList rest, ?_⟩
  rw [← String.toList_inj, String.toList_append, String.toList_ofList, ← p.intercalate_parts,
    ← around.intercalate_parts, String.toList_intercalate, String.toList_intercalate, h,
    List.map_append]
  exact hrest

end Path

namespace Files

variable {t : Files} {p around : Path} {trail last : Trail} {steps : List String}

/-! ## Directories that are there -/

theorem node?_of_step {name : String} {next : Trail} (h : t.step trail name = .ok next) :
    t.node? trail.here = some .directory := by
  unfold step at h
  split at h
  · assumption
  · cases h
  · cases h

/-- A walk that ends in a directory was in directories all the way. -/
theorem makeAlong_of_walk (h : steps.foldlM t.step trail = .ok last)
    (hlast : t.node? last.here = some .directory) (wasMissing : Bool) :
    t.node? trail.here = some .directory ∧
      t.makeAlong trail wasMissing (steps.filter fun part => part ≠ ".") = .ok t := by
  induction steps generalizing trail with
  | nil =>
    cases h
    exact ⟨hlast, rfl⟩
  | cons name steps ih =>
    obtain ⟨next, hstep, hwalk⟩ := Operation.bind_eq_ok_iff.mp h
    obtain ⟨hnext, hrest⟩ := ih hwalk
    have hhere := node?_of_step hstep
    refine ⟨hhere, ?_⟩
    unfold step at hstep
    rw [hhere] at hstep
    dsimp only at hstep
    by_cases hdot : name = "."
    · rw [if_pos hdot] at hstep
      cases hstep
      rw [List.filter_cons_of_neg (by simpa using hdot)]
      exact hrest
    rw [if_neg hdot] at hstep
    rw [List.filter_cons_of_pos (by simpa using hdot), makeAlong]
    by_cases hup : name = ".."
    · rw [if_pos hup] at hstep ⊢
      cases hstep
      exact hrest
    rw [if_neg hup] at hstep ⊢
    by_cases hlong : maxName < name.utf8ByteSize
    · rw [if_pos hlong] at hstep
      cases hstep
    · rw [if_neg hlong] at hstep ⊢
      cases hstep
      dsimp only
      rw [hnext]
      exact hrest

theorem checkPath_eq_ok_iff : checkPath p = .ok () ↔
    '\x00' ∉ p.text.toList ∧ p.text ≠ "" ∧ p.text.utf8ByteSize < pathLimit := by
  unfold checkPath
  split
  · next hzero => simp_all
  · next hzero =>
    split
    · next hempty => simp [hempty]
    · next hempty =>
      split
      · next hlong => simp [hlong]
      · next hlong => simp_all

/-- What a path can start with can be a path, unless it is empty. -/
theorem checkPath_of_append {rest : String} (hne : around.text ≠ "")
    (h : p.text = around.text ++ rest) (hp : checkPath p = .ok ()) : checkPath around = .ok () := by
  obtain ⟨hzero, -, hsize⟩ := checkPath_eq_ok_iff.mp hp
  rw [h] at hzero hsize
  rw [String.toList_append] at hzero
  rw [String.utf8ByteSize_append] at hsize
  refine checkPath_eq_ok_iff.mpr ⟨fun hmem => hzero (List.mem_append_left _ hmem), hne, ?_⟩
  omega

/-- What can be reached has all directories around it, so that nothing has to be made. -/
theorem makeDirectories_of_locate {place : Location} (h : t.locate p = .ok place)
    (haround : p.parent? = some around) : t.makeDirectories around = .ok t := by
  obtain ⟨checked, hchecked, h⟩ := Operation.bind_eq_ok_iff.mp h
  obtain ⟨last, hwalk, -⟩ := Operation.bind_eq_ok_iff.mp h
  rcases Path.parent?_eq_some haround with rfl | rfl | ⟨hne, behind, hparts, part, hpart, hfull⟩
  · rfl
  · rfl
  · obtain ⟨rest, htext⟩ := Path.text_eq_append hparts
    have hcheck : checkPath around = .ok () := checkPath_of_append hne htext hchecked
    have hstart : t.start p = t.start around := by
      have hhead : p.text.toList.head? = around.text.toList.head? := by
        have hchars : around.text.toList ≠ [] := by simpa using hne
        rw [htext, String.toList_append, List.head?_append, List.head?_eq_some_head hchars]
        rfl
      rw [start, start, Path.isAbsolute, Path.isAbsolute, hhead]
    have hsteps : p.steps = around.steps ++ behind.filter fun part => part ≠ "" := by
      rw [Path.steps, hparts, List.filter_append]
      rfl
    -- The step behind those around it starts in a directory.
    obtain ⟨next, more, hmore⟩ :
        ∃ next more, (behind.filter fun part => part ≠ "") = next :: more :=
      List.exists_cons_of_ne_nil
        (List.ne_nil_of_mem (List.mem_filter.mpr ⟨hpart, by simpa using hfull⟩))
    rw [hsteps, hmore, List.foldlM_append, hstart] at hwalk
    obtain ⟨inside, hinside, hbehind⟩ := Operation.bind_eq_ok_iff.mp hwalk
    obtain ⟨_, hstep, -⟩ := Operation.bind_eq_ok_iff.mp hbehind
    have hmade := (makeAlong_of_walk hinside (node?_of_step hstep) false).2
    rw [makeDirectories, if_neg hne]
    exact Operation.bind_eq_ok_iff.mpr ⟨(), hcheck, hmade⟩

/-! ## Files with the directories around them -/

/-- A file is put somewhere by making the directories around it and writing it. -/
theorem install_file (t : Files) (p : Path) (content : List UInt8) :
    t.install p (.file content) =
      (p.parent?.elim (.ok t) t.makeDirectories >>= fun made => made.write p content) := by
  unfold install
  cases p.parent? <;> rfl

/-- Where a file can be written already, nothing else is made. -/
theorem Writable.install {place : Location} (h : Writable t p place) (content : List UInt8) :
    t.install p (.file content) = t.write p content := by
  rw [install_file]
  cases haround : p.parent? with
  | none => rfl
  | some around =>
    rw [Option.elim_some, makeDirectories_of_locate h.located haround]
    rfl

variable {content : List UInt8} {text : String} {t' : Files}

/-- Whether a file can be put somewhere does not depend on what is in it. -/
theorem exists_install (h : t.install p (.file content) = .ok t') (other : List UInt8) :
    ∃ t'', t.install p (.file other) = .ok t'' := by
  rw [install_file] at h ⊢
  obtain ⟨made, hmade, hwrite⟩ := Operation.bind_eq_ok_iff.mp h
  obtain ⟨t'', hother⟩ := exists_write hwrite other
  exact ⟨t'', Operation.bind_eq_ok_iff.mpr ⟨made, hmade, hother⟩⟩

theorem readText_install (h : t.install p (.file (Utf8.encode text)) = .ok t') :
    t'.readText p = .ok text := by
  rw [install_file] at h
  obtain ⟨made, -, hwrite⟩ := Operation.bind_eq_ok_iff.mp h
  exact readText_write hwrite

end Files

end PocketLink
