import PocketLink.Files
import PocketLink.Operation

/-!
# Writing files

A file that can be written can be written again, whatever its bytes are, and then it holds the new
ones: writing puts something in a place where no directory is, so that it is in nobody's way.
-/

namespace PocketLink.Files

variable {t t' : Files} {p : Path} {place : Location} {node : Node}

/-! ## Trees that differ in one place -/

theorem step_put (hplace : t.node? place ≠ some .directory) {trail next : Trail} {name : String}
    (h : t.step trail name = .ok next) : (t.put place node).step trail name = .ok next := by
  unfold step at h ⊢
  split at h
  · next hdir =>
    -- A step starts in a directory, so not where something was put.
    have hne : trail.here ≠ place := by
      intro heq
      rw [heq] at hdir
      exact hplace hdir
    rw [node?_put_of_ne t node hne, hdir]
    exact h
  · cases h
  · cases h

theorem walk_put (hplace : t.node? place ≠ some .directory) {names : List String}
    {trail last : Trail} (h : names.foldlM t.step trail = .ok last) :
    names.foldlM (t.put place node).step trail = .ok last := by
  induction names generalizing trail with
  | nil => exact h
  | cons name names ih =>
    rw [List.foldlM_cons, Operation.bind_eq_ok_iff] at h ⊢
    obtain ⟨next, hstep, hwalk⟩ := h
    exact ⟨next, step_put hplace hstep, ih hwalk⟩

theorem locate_put (hplace : t.node? place ≠ some .directory) {spot : Location}
    (h : t.locate p = .ok spot) : (t.put place node).locate p = .ok spot := by
  unfold locate at h ⊢
  rw [Operation.bind_eq_ok_iff] at h ⊢
  obtain ⟨checked, hpath, h⟩ := h
  rw [Operation.bind_eq_ok_iff] at h
  obtain ⟨last, hwalk, hspot⟩ := h
  refine ⟨checked, hpath, ?_⟩
  rw [Operation.bind_eq_ok_iff]
  exact ⟨last, walk_put hplace hwalk, hspot⟩

/-! ## Writing and reading -/

/-- A path at which a file can be written: what is there, if anything, is a file. -/
structure Writable (t : Files) (p : Path) (place : Location) : Prop where
  noSlash : p.endsInSlash = false
  located : t.locate p = .ok place
  noDirectory : t.node? place ≠ some .directory
  noSocket : t.node? place ≠ some .socket

/-- What is written stands at the place that the path leads to, and nothing else changes. -/
theorem write_eq_ok_iff {content : List UInt8} :
    t.write p content = .ok t' ↔
      ∃ place, Writable t p place ∧ t' = t.put place (.file content) := by
  unfold write
  by_cases hslash : p.endsInSlash = true
  · rw [if_pos hslash]
    constructor
    · intro h
      obtain ⟨checked, -, h⟩ := Operation.bind_eq_ok_iff.mp h
      obtain ⟨last, -, h⟩ := Operation.bind_eq_ok_iff.mp h
      cases h
    · rintro ⟨place, h, -⟩
      rw [h.noSlash] at hslash
      cases hslash
  · rw [if_neg hslash]
    rw [Bool.not_eq_true] at hslash
    constructor
    · intro h
      obtain ⟨place, hlocated, h⟩ := Operation.bind_eq_ok_iff.mp h
      refine ⟨place, ?_⟩
      cases hnode : t.node? place with
      | none =>
        rw [hnode] at h
        cases h
        exact ⟨⟨hslash, hlocated, by simp [hnode], by simp [hnode]⟩, rfl⟩
      | some node =>
        rw [hnode] at h
        cases node with
        | file old =>
          cases h
          exact ⟨⟨hslash, hlocated, by simp [hnode], by simp [hnode]⟩, rfl⟩
        | directory => cases h
        | socket => cases h
    · rintro ⟨place, h, rfl⟩
      refine Operation.bind_eq_ok_iff.mpr ⟨place, h.located, ?_⟩
      cases hnode : t.node? place with
      | none => rfl
      | some node =>
        cases node with
        | file old => rfl
        | directory => exact absurd hnode h.noDirectory
        | socket => exact absurd hnode h.noSocket

theorem Writable.write (h : Writable t p place) (content : List UInt8) :
    t.write p content = .ok (t.put place (.file content)) :=
  write_eq_ok_iff.mpr ⟨place, h, rfl⟩

theorem Writable.ne_root (h : Writable t p place) : place ≠ "" := by
  rintro rfl
  exact h.noDirectory rfl

theorem Writable.put (h : Writable t p place) (content : List UInt8) :
    Writable (t.put place (.file content)) p place := by
  have hnode := node?_put_self t (.file content) h.ne_root
  refine ⟨h.noSlash, locate_put h.noDirectory h.located, ?_, ?_⟩
  · rw [hnode]
    simp
  · rw [hnode]
    simp

theorem exists_write {content : List UInt8} (h : t.write p content = .ok t')
    (other : List UInt8) : ∃ t'', t.write p other = .ok t'' := by
  obtain ⟨place, hplace, -⟩ := write_eq_ok_iff.mp h
  exact ⟨_, hplace.write other⟩

theorem read_write {content : List UInt8} (h : t.write p content = .ok t') :
    t'.read p = .ok content := by
  obtain ⟨place, hplace, rfl⟩ := write_eq_ok_iff.mp h
  have hnode := node?_put_self t (.file content) hplace.ne_root
  have hfind : (t.put place (.file content)).find p = .ok (.file content) := by
    refine Operation.bind_eq_ok_iff.mpr ⟨place, (hplace.put content).located, ?_⟩
    rw [hnode]
    simp only [hplace.noSlash]
    rfl
  exact Operation.bind_eq_ok_iff.mpr ⟨_, hfind, rfl⟩

theorem readText_write {text : String} (h : t.write p (Utf8.encode text) = .ok t') :
    t'.readText p = .ok text := by
  refine Operation.bind_eq_ok_iff.mpr ⟨_, read_write h, ?_⟩
  rw [Utf8.decode?_encode]
  rfl

/-- A file that can be read can be written. -/
theorem writable_of_read {content : List UInt8} (h : t.read p = .ok content) :
    ∃ place, Writable t p place := by
  obtain ⟨node, hfind, hnode⟩ := Operation.bind_eq_ok_iff.mp h
  obtain ⟨place, hlocated, hplace⟩ := Operation.bind_eq_ok_iff.mp hfind
  refine ⟨place, ?_⟩
  cases hthere : t.node? place with
  | none =>
    rw [hthere] at hplace
    cases hplace
  | some there =>
    rw [hthere] at hplace
    cases there with
    | file old =>
      refine ⟨?_, hlocated, by simp [hthere], by simp [hthere]⟩
      rw [Bool.eq_false_iff]
      intro hslash
      dsimp only at hplace
      rw [if_pos hslash] at hplace
      cases hplace
    | directory =>
      cases hplace
      cases hnode
    | socket =>
      dsimp only at hplace
      split at hplace
      · cases hplace
      · cases hplace
        cases hnode

theorem writable_of_readText {text : String} (h : t.readText p = .ok text) :
    ∃ place, Writable t p place := by
  obtain ⟨content, hread, -⟩ := Operation.bind_eq_ok_iff.mp h
  exact writable_of_read hread

end PocketLink.Files
