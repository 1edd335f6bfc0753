import Mathlib.Logic.Function.Iterate
import PocketLink.Desktop.Enumerator
import PocketLink.Proofs.Desktop.Membership

/-!
# Walks through the devices

An enumerator keeps a list and a number. What it does is said here by a place in a list instead: the
devices that were passed, and those that are left. Going forth moves one device from the one to the
other, and everything else that is done with a place is made of that.

An enumerator stands at a place, and each use of it tells what the place tells and leads to the same
place (`StandsAt.use`). Many enumerators and a desktop are used in turns. What happens to one of
them is nobody else's doing, so it is where its own uses have led it (`walks_of_standsAt`).
-/

namespace PocketLink

namespace Enumerator

/-! ## Uses -/

/-- What is done with an enumerator. -/
inductive Use where
  /-- The next device is asked for. -/
  | next
  /-- Some devices are passed. -/
  | skip (count : Nat)
  /-- The walk starts again. -/
  | reset
  /-- Everything that is left is taken. -/
  | rest
  /-- The sizes are asked for. -/
  | sizes

/-- What is told to the one who uses an enumerator. -/
inductive Outcome where
  | device (answer : Except Error DeviceId)
  | skipped (answer : Except Error Unit)
  | rest (devices : List DeviceId)
  | sizes (total length : Nat) (isEmpty : Bool)
  | done

def use (e : Enumerator) : Use → Outcome × Enumerator
  | .next => (.device (next.on e).1, (next.on e).2)
  | .skip count => (.skipped ((skip count).on e).1, ((skip count).on e).2)
  | .reset => (.done, e.reset)
  | .rest => (.rest e.rest, e.finish)
  | .sizes => (.sizes e.total e.length e.isEmpty, e)

/-! ## Places -/

/-- A place in a list of devices: those that were passed, and those that are left. -/
structure Place where
  passed : List DeviceId
  left : List DeviceId

namespace Place

/-- The place before the first of some devices. -/
def before (devices : List DeviceId) : Place := { passed := [], left := devices }

/-- The list in which the place is. -/
def devices (p : Place) : List DeviceId := p.passed ++ p.left

/-- The place behind the next device, or the same if none is left. -/
def forth (p : Place) : Place :=
  match p.left with
  | [] => p
  | id :: left => { passed := p.passed ++ [id], left }

/-- Skipping goes forth one by one, and fails if it is asked to go further than there are
devices. -/
def use (p : Place) : Use → Outcome × Place
  | .next =>
    (.device (match p.left with
      | [] => .error .noMoreDevices
      | id :: _ => .ok id), p.forth)
  | .skip count =>
    (.skipped (if count ≤ p.left.length then .ok () else .error .noMoreDevices), forth^[count] p)
  | .reset => (.done, before p.devices)
  | .rest => (.rest p.left, { passed := p.devices, left := [] })
  | .sizes => (.sizes p.devices.length p.left.length p.devices.isEmpty, p)

/-- The place to which some uses lead. -/
def after (p : Place) (uses : List Use) : Place := uses.foldl (fun p u => (p.use u).2) p

/-- What is told on the way. -/
def outcomes : List Use → Place → List Outcome
  | [], _ => []
  | u :: uses, p => (p.use u).1 :: outcomes uses (p.use u).2

theorem after_append (p : Place) (first second : List Use) :
    p.after (first ++ second) = (p.after first).after second := List.foldl_append

theorem outcomes_append (p : Place) (first second : List Use) :
    outcomes (first ++ second) p = outcomes first p ++ outcomes second (p.after first) := by
  induction first generalizing p with
  | nil => rfl
  | cons u first ih => exact congrArg _ (ih _)

theorem iterate_forth (p : Place) (count : Nat) :
    forth^[count] p =
      { passed := p.passed ++ p.left.take count, left := p.left.drop count } := by
  induction count generalizing p with
  | zero => simp
  | succ count ih =>
    rw [Function.iterate_succ_apply, ih]
    unfold forth
    cases hleft : p.left with
    | nil => simp [hleft]
    | cons id left => simp

end Place

/-! ## Where an enumerator stands -/

/-- The cursor of an enumerator is at a place. -/
structure StandsAt (e : Enumerator) (p : Place) : Prop where
  devices : e.devices = p.devices
  cursor : e.cursor = p.passed.length

variable {e e' : Enumerator} {p : Place}

theorem StandsAt.unique (h : e.StandsAt p) (h' : e'.StandsAt p) : e = e' := by
  obtain ⟨devices, cursor⟩ := e
  obtain ⟨devices', cursor'⟩ := e'
  have hd : devices = devices' := h.devices.trans h'.devices.symm
  have hc : cursor = cursor' := h.cursor.trans h'.cursor.symm
  rw [hd, hc]

theorem StandsAt.total (h : e.StandsAt p) : e.total = p.passed.length + p.left.length := by
  unfold Enumerator.total
  rw [h.devices, Place.devices, List.length_append]

theorem StandsAt.length (h : e.StandsAt p) : e.length = p.left.length := by
  have htotal := h.total
  have hcursor := h.cursor
  unfold Enumerator.total at htotal
  unfold Enumerator.length
  omega

theorem StandsAt.rest (h : e.StandsAt p) : e.rest = p.left := by
  unfold Enumerator.rest
  rw [h.devices, h.cursor, Place.devices, List.drop_left]

/-- The cursor is never behind the end, and what is left is what lies between the two. -/
theorem StandsAt.bounds (h : e.StandsAt p) :
    e.cursor ≤ e.total ∧ e.length = e.total - e.cursor := by
  have htotal := h.total
  have hlength := h.length
  have hcursor := h.cursor
  omega

theorem standsAt_before (devices : List DeviceId) :
    Enumerator.StandsAt { devices } (Place.before devices) := ⟨rfl, rfl⟩

theorem next_on (e : Enumerator) :
    Enumerator.next.on e =
      match e.devices[e.cursor]? with
      | some id => (.ok id, { e with cursor := e.cursor + 1 })
      | none => (.error .noMoreDevices, e) := by
  unfold Enumerator.next
  rw [Operation.on_bind, Operation.on_get]
  dsimp only
  cases e.devices[e.cursor]? <;> rfl

/-- Passing devices one by one comes to passing as many as there are. -/
theorem skip_on (count : Nat) (e : Enumerator) :
    (Enumerator.skip count).on e =
      (if count ≤ e.length then .ok () else .error .noMoreDevices,
        { e with cursor := e.cursor + min count e.length }) := by
  induction count generalizing e with
  | zero => simp [Enumerator.skip]
  | succ count ih =>
    rw [Enumerator.skip, Operation.on_bind, next_on]
    cases hnext : e.devices[e.cursor]? with
    | none =>
      have hend : e.length = 0 := Nat.sub_eq_zero_of_le (List.getElem?_eq_none_iff.mp hnext)
      simp [hend]
    | some id =>
      obtain ⟨hlt, -⟩ := List.getElem?_eq_some_iff.mp hnext
      have hless : e.length = Enumerator.length { e with cursor := e.cursor + 1 } + 1 := by
        simp only [Enumerator.length]
        omega
      dsimp only
      rw [ih, hless]
      simp only [Nat.add_le_add_iff_right, Nat.add_min_add_right, Nat.add_assoc, Nat.add_comm 1]

theorem StandsAt.next (h : e.StandsAt p) :
    (e.use .next).1 = (p.use .next).1 ∧ (e.use .next).2.StandsAt (p.use .next).2 := by
  unfold Enumerator.use Place.use Place.forth
  rw [next_on, h.devices, h.cursor, Place.devices]
  cases hleft : p.left with
  | nil =>
    have hend : (p.passed ++ [])[p.passed.length]? = none := by simp
    rw [hend]
    exact ⟨rfl, h⟩
  | cons id left =>
    have hhere : (p.passed ++ id :: left)[p.passed.length]? = some id := by simp
    rw [hhere]
    refine ⟨rfl, ?_, ?_⟩
    · simp [Place.devices]
    · simp

theorem StandsAt.skip (h : e.StandsAt p) (count : Nat) :
    (e.use (.skip count)).1 = (p.use (.skip count)).1 ∧
      (e.use (.skip count)).2.StandsAt (p.use (.skip count)).2 := by
  simp only [Enumerator.use, Place.use]
  rw [skip_on, h.length, Place.iterate_forth]
  refine ⟨rfl, ?_, ?_⟩
  · simp [h.devices, Place.devices]
  · simp [h.cursor]

/-- Each use of an enumerator tells what its place tells, and leads to the same place. -/
theorem StandsAt.use (h : e.StandsAt p) (u : Use) :
    (e.use u).1 = (p.use u).1 ∧ (e.use u).2.StandsAt (p.use u).2 := by
  cases u with
  | next => exact h.next
  | skip count => exact h.skip count
  | reset => exact ⟨rfl, h.devices, rfl⟩
  | rest =>
    unfold Enumerator.use Place.use
    refine ⟨congrArg Outcome.rest h.rest, ?_, ?_⟩
    · simp [finish, h.devices, Place.devices]
    · simp [finish, h.cursor, h.length, Place.devices]
  | sizes =>
    unfold Enumerator.use Place.use
    refine ⟨?_, h⟩
    rw [h.total, h.length, isEmpty, h.devices, Place.devices, List.length_append]

/-- Skipping is nothing but asking for one device after another and letting them go. -/
theorem StandsAt.skip_eq_iterate (h : e.StandsAt p) (count : Nat) :
    ((Enumerator.skip count).on e).2 = (fun e => (Enumerator.next.on e).2)^[count] e := by
  have hsteps :
      ((fun e => (Enumerator.next.on e).2)^[count] e).StandsAt (Place.forth^[count] p) := by
    induction count generalizing e p with
    | zero => exact h
    | succ count ih => exact ih h.next.2
  exact (h.skip count).2.unique hsteps

/-- Skipping succeeds as long as there are devices, and stops behind the last one. -/
theorem skip_result (count : Nat) (e : Enumerator) :
    (((Enumerator.skip count).on e).1 = .ok () ↔ count ≤ e.length) ∧
      (e.length < count → ((Enumerator.skip count).on e).1 = .error .noMoreDevices ∧
        ((Enumerator.skip count).on e).2 = e.finish) := by
  rw [skip_on]
  constructor
  · by_cases h : count ≤ e.length <;> simp [h]
  · intro h
    rw [if_neg (Nat.not_le.mpr h), Nat.min_eq_right (Nat.le_of_lt h)]
    exact ⟨rfl, rfl⟩

end Enumerator

namespace Desktop

open Enumerator

/-! ## Desktops and their enumerators -/

/-- A desktop, and the enumerators that are in use, in the order in which they were made. -/
structure Scene (σ : Type) where
  desktop : Desktop σ
  enumerators : List Enumerator := []

variable {σ : Type}

/-- What happens next: to the desktop, or with an enumerator. -/
inductive Move (σ : Type) where
  /-- The desktop takes a step. -/
  | desktop (step : Step σ)
  /-- An enumerator is taken from the desktop. -/
  | enumerate
  /-- An enumerator is copied. -/
  | clone (which : Nat)
  /-- An enumerator is used. -/
  | use (which : Nat) (u : Use)

namespace Move

def after (s : Scene σ) : Move σ → Scene σ
  | desktop step => { s with desktop := step.after s.desktop }
  | enumerate => { s with enumerators := s.enumerators ++ [s.desktop.enumerate] }
  | clone which =>
    { s with enumerators := s.enumerators ++ (s.enumerators[which]?.map Enumerator.clone).toList }
  | use which u => { s with enumerators := s.enumerators.modify which fun e => (e.use u).2 }

/-- The use of one enumerator that a move is, if it is one. -/
def useOf (which : Nat) : Move σ → Option Use
  | use other u => if other = which then some u else none
  | _ => none

/-- What the users of one enumerator are told. -/
def outcomes (which : Nat) (s : Scene σ) (move : Move σ) : List Outcome :=
  match move.useOf which, s.enumerators[which]? with
  | some u, some e => [(e.use u).1]
  | _, _ => []

end Move

namespace Scene

def run (moves : List (Move σ)) (s : Scene σ) : Scene σ := moves.foldl Move.after s

/-- What the users of one enumerator are told in the course of some moves. -/
def outcomes (s : Scene σ) (which : Nat) : List (Move σ) → List Outcome
  | [] => []
  | move :: moves => move.outcomes which s ++ (move.after s).outcomes which moves

end Scene

/-- The uses of one enumerator among some moves. -/
def usesOf (which : Nat) (moves : List (Move σ)) : List Use := moves.filterMap (Move.useOf which)

/-- Whatever happens, an enumerator goes its way from a place: it stands where its own uses lead,
and its users are told what is told on that way. -/
def Walks (which : Nat) (p : Place) (s : Scene σ) : Prop :=
  ∀ moves : List (Move σ),
    (∃ e, (s.run moves).enumerators[which]? = some e ∧ e.StandsAt (p.after (usesOf which moves))) ∧
      s.outcomes which moves = p.outcomes (usesOf which moves)

variable {s : Scene σ} {which : Nat} {e : Enumerator} {p : Place}

/-- One move: an enumerator is where it was, unless the move is a use of it. -/
theorem standsAt_after (he : s.enumerators[which]? = some e) (h : e.StandsAt p) (move : Move σ) :
    (∃ e', (move.after s).enumerators[which]? = some e' ∧
        e'.StandsAt (p.after (usesOf which [move]))) ∧
      move.outcomes which s = p.outcomes (usesOf which [move]) := by
  obtain ⟨hlt, -⟩ := List.getElem?_eq_some_iff.mp he
  cases move with
  | desktop step => exact ⟨⟨e, he, h⟩, rfl⟩
  | enumerate =>
    refine ⟨⟨e, ?_, h⟩, rfl⟩
    show (s.enumerators ++ _)[which]? = some e
    rw [List.getElem?_append_left hlt, he]
  | clone original =>
    refine ⟨⟨e, ?_, h⟩, rfl⟩
    show (s.enumerators ++ _)[which]? = some e
    rw [List.getElem?_append_left hlt, he]
  | use other u =>
    by_cases hsame : other = which
    · subst hsame
      obtain ⟨htold, hstands⟩ := h.use u
      have huses : usesOf other [Move.use (σ := σ) other u] = [u] := by simp [usesOf, Move.useOf]
      rw [huses]
      refine ⟨⟨(e.use u).2, ?_, hstands⟩, ?_⟩
      · show (s.enumerators.modify other _)[other]? = _
        simp [he]
      · simp only [Move.outcomes, Move.useOf, if_true, he, htold]
        rfl
    · have huses : usesOf which [Move.use (σ := σ) other u] = [] := by
        simp [usesOf, Move.useOf, hsame]
      rw [huses]
      refine ⟨⟨e, ?_, h⟩, ?_⟩
      · show (s.enumerators.modify other _)[which]? = _
        simp [hsame, he]
      · simp [Move.outcomes, Move.useOf, hsame]
        rfl

theorem walks_of_standsAt (he : s.enumerators[which]? = some e) (h : e.StandsAt p) :
    Walks which p s := by
  intro moves
  induction moves generalizing s e p with
  | nil => exact ⟨⟨e, he, h⟩, rfl⟩
  | cons move moves ih =>
    obtain ⟨⟨e', he', h'⟩, htold⟩ := standsAt_after he h move
    obtain ⟨hend, hrest⟩ := ih he' h'
    have huses : usesOf which (move :: moves) = usesOf which [move] ++ usesOf which moves :=
      List.filterMap_append (l := [move])
    rw [huses, Place.after_append, Place.outcomes_append]
    refine ⟨hend, ?_⟩
    rw [Scene.outcomes, htold, hrest]

/-! ## Scenes that moves lead to -/

/-- The list of the desktop is in the order of arrival, and no cursor is behind its end. -/
structure Scene.Sound (s : Scene σ) : Prop where
  agrees : s.desktop.Agrees
  stands : ∀ e ∈ s.enumerators, ∃ p, e.StandsAt p

theorem Scene.Sound.after (h : s.Sound) (move : Move σ) : (move.after s).Sound := by
  cases move with
  | desktop step => exact ⟨h.agrees.after step, h.stands⟩
  | enumerate =>
    refine ⟨h.agrees, fun e he => ?_⟩
    rcases List.mem_append.mp he with he | he
    · exact h.stands e he
    · rw [List.mem_singleton.mp he]
      exact ⟨_, Enumerator.standsAt_before _⟩
  | clone which =>
    refine ⟨h.agrees, fun e he => ?_⟩
    rcases List.mem_append.mp he with he | he
    · exact h.stands e he
    · obtain ⟨original, -, rfl⟩ := Option.map_eq_some_iff.mp (Option.mem_toList.mp he)
      exact ⟨_, Enumerator.standsAt_before _⟩
  | use which u =>
    refine ⟨h.agrees, fun e he => ?_⟩
    obtain ⟨other, hother⟩ := List.mem_iff_getElem?.mp he
    have hmodified : (s.enumerators.modify which fun e => (e.use u).2)[other]? = some e := hother
    rw [List.getElem?_modify] at hmodified
    obtain ⟨old, hold, rfl⟩ := Option.map_eq_some_iff.mp hmodified
    obtain ⟨p, hp⟩ := h.stands old (List.mem_of_getElem? hold)
    split
    · exact ⟨_, (hp.use u).2⟩
    · exact ⟨p, hp⟩

theorem Scene.Sound.run (h : s.Sound) (moves : List (Move σ)) : (s.run moves).Sound := by
  induction moves generalizing s with
  | nil => exact h
  | cons move moves ih => exact ih (h.after move)

/-- However a desktop and enumerators of it are used in turns: an enumerator that is taken walks
through the devices that are listed at that time, which is in the order of arrival, and a copy of
one walks through the same devices from the first one. Each enumerator goes on from where it stands
by its own uses alone, as a place in a fixed list does, and its cursor lies within the list. To skip
some devices is to ask for as many; it succeeds if so many are left, and goes to the end if not. -/
theorem enumerators_are_isolated_cursors (settings : Settings) (resolver : Resolver)
    (before : List (Move σ)) :
    let s : Scene σ := Scene.run before { desktop := fresh settings resolver }
    (Walks s.enumerators.length (Place.before s.desktop.listed) (Move.enumerate.after s) ∧
      s.desktop.listed.Pairwise (· < ·)) ∧
    ∀ which e, s.enumerators[which]? = some e →
      Walks s.enumerators.length (Place.before e.devices) ((Move.clone which).after s) ∧
      (∃ p, e.StandsAt p ∧ Walks which p s) ∧
      (e.cursor ≤ e.total ∧ e.length = e.total - e.cursor) ∧
      ∀ count, ((Enumerator.skip count).on e).2 = (fun e => (Enumerator.next.on e).2)^[count] e ∧
        (((Enumerator.skip count).on e).1 = .ok () ↔ count ≤ e.length) ∧
        (e.length < count → ((Enumerator.skip count).on e).1 = .error .noMoreDevices ∧
          ((Enumerator.skip count).on e).2 = e.finish) := by
  intro s
  have sound : s.Sound := Scene.Sound.run ⟨agrees_fresh settings resolver, by simp⟩ before
  refine ⟨⟨?_, sound.agrees.sorted⟩, ?_⟩
  · refine walks_of_standsAt ?_ (Enumerator.standsAt_before _)
    exact List.getElem?_concat_length
  · intro which e he
    obtain ⟨p, hp⟩ := sound.stands e (List.mem_of_getElem? he)
    refine ⟨?_, ⟨p, hp, walks_of_standsAt he hp⟩, hp.bounds, ?_⟩
    · refine walks_of_standsAt ?_ (Enumerator.standsAt_before _)
      show (s.enumerators ++ (s.enumerators[which]?.map Enumerator.clone).toList)[_]? = _
      rw [he]
      exact List.getElem?_concat_length
    · intro count
      exact ⟨hp.skip_eq_iterate count, Enumerator.skip_result count e⟩

/-- A desktop with three devices, and an enumerator that has passed one of them. -/
def walkedScene : Scene Nat :=
  Scene.run [.desktop .discover, .enumerate, .use 0 .next]
    { desktop := fresh idleSettings (.fixed [{ name := "a" }, { name := "b" }, { name := "c" }]) }

/-- A copy of the enumerator starts again, while the desktop is shut down and the original goes
on. -/
theorem enumerators_are_isolated_cursors_copied :
    walkedScene.enumerators[0]? = some { devices := [0, 1, 2], cursor := 1 } ∧
      ((Move.clone 0).after walkedScene).outcomes 1
          [.desktop .shutdown, .use 1 (.skip 2), .use 0 (.skip 9), .use 1 .next, .use 1 .next,
            .use 1 .sizes] =
        [.skipped (.ok ()), .device (.ok 2), .device (.error .noMoreDevices),
          .sizes 3 0 false] := by
  have he : walkedScene.enumerators[0]? = some { devices := [0, 1, 2], cursor := 1 } := by
    decide +kernel
  have hcopy := ((enumerators_are_isolated_cursors idleSettings
    (.fixed [{ name := "a" }, { name := "b" }, { name := "c" }])
    [Move.desktop .discover, .enumerate, .use 0 .next]).2 0 _ he).1
  have hnumber : walkedScene.enumerators.length = 1 := by decide +kernel
  rw [show Scene.run _ _ = walkedScene from rfl, hnumber] at hcopy
  exact ⟨he, (hcopy _).2⟩

end Desktop

end PocketLink
