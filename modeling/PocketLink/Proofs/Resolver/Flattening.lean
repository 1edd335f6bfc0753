import Mathlib.Logic.Relation
import PocketLink.Proofs.Resolver.Lookup

/-!
# Nested chains

A chain that is a member of another chain may as well be written out in its place. Looking a device
up goes through the sources in the same order either way, and a chain keeps the failures of its
members to itself. Listing goes by what the sources offer, each name once: a nested chain leaves out
what it offers a second time itself, and the outer chain would have left that out as well, since
what is left out has the name of something that stays.

Both are therefore settled by the leaves of the tree of sources, in their order. Writing a chain out
leaves these as they are.
-/

namespace PocketLink.Resolver

open Relation

/-- A source as it was put together: one that is no chain, or a chain of sources. -/
inductive Tree where
  | leaf (source : Resolver)
  | chain (members : List Tree)

namespace Tree

mutual

/-- The source that a tree stands for. -/
def source : Tree → Resolver
  | leaf source => source
  | chain members => Resolver.chain (sources members)

def sources : List Tree → List Resolver
  | [] => []
  | member :: members => member.source :: sources members

end

mutual

/-- The sources of a tree that are no chains, in their order. -/
def leaves : Tree → List Resolver
  | leaf source => [source]
  | chain members => leavesOf members

def leavesOf : List Tree → List Resolver
  | [] => []
  | member :: members => member.leaves ++ leavesOf members

end

/-- Some members of a chain become others when one chain among them, or among the members of such a
chain at any depth, is replaced by its own members. -/
inductive Unnests : List Tree → List Tree → Prop
  | here (before inner after : List Tree) :
      Unnests (before ++ chain inner :: after) (before ++ inner ++ after)
  | inside (before after : List Tree) {inner inner' : List Tree} (h : Unnests inner inner') :
      Unnests (before ++ chain inner :: after) (before ++ chain inner' :: after)

variable {members members' : List Tree} {selector : Selector}

theorem leavesOf_append (first second : List Tree) :
    leavesOf (first ++ second) = leavesOf first ++ leavesOf second := by
  induction first with
  | nil => rfl
  | cons member first ih => rw [List.cons_append, leavesOf, leavesOf, ih, List.append_assoc]

theorem Unnests.leavesOf (h : Unnests members members') :
    Tree.leavesOf members' = Tree.leavesOf members := by
  induction h with
  | here before inner after =>
    simp only [leavesOf_append, Tree.leavesOf, leaves, List.append_assoc]
  | inside before after h ih => simp only [leavesOf_append, Tree.leavesOf, leaves, ih]

theorem leavesOf_of_unnested (h : ReflTransGen Unnests members members') :
    leavesOf members' = leavesOf members := by
  induction h with
  | refl => rfl
  | tail _ step ih => exact step.leavesOf.trans ih

end Tree

/-! ## Looking up -/

/-- What a source knows about the device that is meant: nothing if it fails, for whatever reason. -/
def known (selector : Selector) (source : Resolver) : Option DeviceInfo :=
  (source.resolve selector).toOption

theorem resolveFirst_eq (selector : Selector) (sources : List Resolver) :
    resolveFirst selector sources =
      match sources.findSome? (known selector) with
      | some info => .ok info
      | none => .error (.resolution (.noSource selector)) := by
  induction sources with
  | nil => rfl
  | cons source sources ih =>
    rw [resolveFirst, List.findSome?_cons, known]
    cases source.resolve selector with
    | ok info => rfl
    | error e => exact ih

/-- A chain keeps the failures of its sources to itself. -/
theorem resolveFirst_error {sources : List Resolver} {selector : Selector} {e : Error}
    (h : resolveFirst selector sources = .error e) : e = .resolution (.noSource selector) := by
  rw [resolveFirst_eq] at h
  split at h
  · cases h
  · cases h
    rfl

theorem known_chain (selector : Selector) (sources : List Resolver) :
    known selector (chain sources) = sources.findSome? (known selector) := by
  have hresolve : (chain sources).resolve selector = resolveFirst selector sources := rfl
  rw [known, hresolve, resolveFirst_eq]
  cases sources.findSome? (known selector) <;> rfl

namespace Tree

mutual

theorem known_source (selector : Selector) :
    (tree : Tree) → known selector tree.source = tree.leaves.findSome? (known selector)
  | leaf source => by
    rw [Tree.source, leaves, List.findSome?_cons]
    cases known selector source <;> rfl
  | chain members => by
    rw [Tree.source, leaves, known_chain]
    exact findSome?_sources selector members

theorem findSome?_sources (selector : Selector) : (members : List Tree) →
    (sources members).findSome? (known selector) = (leavesOf members).findSome? (known selector)
  | [] => rfl
  | member :: members => by
    rw [sources, leavesOf, List.findSome?_cons, List.findSome?_append, known_source selector member,
      findSome?_sources selector members]
    cases member.leaves.findSome? (known selector) <;> rfl

end

end Tree

/-! ## Listing -/

theorem addNew_append (known first second : List DeviceInfo) :
    addNew known (first ++ second) = addNew (addNew known first) second := List.foldl_append

theorem hasName_eq (devices : List DeviceInfo) (info : DeviceInfo) :
    hasName devices info = (devices.find? (isNamed info.name)).isSome :=
  List.isSome_find?.symm

/-- A name is known afterwards if it was known before or is found, also if the device with it is
passed over. -/
theorem hasName_addNew (known found : List DeviceInfo) (info : DeviceInfo) :
    hasName (addNew known found) info = (hasName known info || hasName found info) := by
  rw [hasName_eq, hasName_eq, hasName_eq, find?_addNew, Option.isSome_or]

/-- What was put together without repeating a name may be added in place of all that it was put
together from. -/
theorem addNew_addNew (known middle found : List DeviceInfo) :
    addNew known (addNew middle found) = addNew (addNew known middle) found := by
  induction found generalizing middle with
  | nil => rfl
  | cons info found ih =>
    have hstep (all : List DeviceInfo) : addNew all (info :: found) =
        addNew (if hasName all info then all else all ++ [info]) found := rfl
    rw [hstep, ih, hstep]
    congr 1
    by_cases hknown : hasName middle info = true
    -- The device is passed over in the middle, and behind it as well.
    · have hlater : hasName (addNew known middle) info = true := by
        rw [hasName_addNew, hknown, Bool.or_true]
      rw [if_pos hknown, if_pos hlater]
    · rw [if_neg hknown, addNew_append]
      rfl

theorem devicesOf_eq_addNew (sources : List Resolver) :
    devicesOf sources = addNew [] (sources.flatMap offered) := by
  rw [devicesOf_eq_foldl]
  exact List.foldl_flatMap.symm

namespace Tree

mutual

/-- It makes no difference to what is known already whether a tree adds its listing or its leaves
add theirs. -/
theorem addNew_source (known : List DeviceInfo) :
    (tree : Tree) → addNew known tree.source.offered = addNew known (tree.leaves.flatMap offered)
  | leaf source => by rw [Tree.source, leaves, List.flatMap_singleton]
  | chain members => by
    rw [Tree.source, leaves, offered_chain, devicesOf_eq_addNew, addNew_addNew]
    exact addNew_sources known members

theorem addNew_sources (known : List DeviceInfo) : (members : List Tree) →
    addNew known ((sources members).flatMap offered) =
      addNew known ((leavesOf members).flatMap offered)
  | [] => rfl
  | member :: members => by
    rw [sources, leavesOf, List.flatMap_cons, List.flatMap_append, addNew_append, addNew_append,
      addNew_source known member, addNew_sources _ members]

end

/-! ## Writing chains out -/

theorem Unnests.append_left (front : List Tree) (h : Unnests members members') :
    Unnests (front ++ members) (front ++ members') := by
  cases h with
  | here before inner after =>
    have step := Unnests.here (front ++ before) inner after
    simpa only [List.append_assoc] using step
  | inside before after h =>
    have step := Unnests.inside (front ++ before) after h
    simpa only [List.append_assoc] using step

theorem Unnests.append_right (behind : List Tree) (h : Unnests members members') :
    Unnests (members ++ behind) (members' ++ behind) := by
  cases h with
  | here before inner after =>
    have step := Unnests.here before inner (after ++ behind)
    simpa only [List.append_assoc, List.cons_append] using step
  | inside before after h =>
    have step := Unnests.inside before (after ++ behind) h
    simpa only [List.append_assoc, List.cons_append] using step

/-- All chains among some members can be written out, until only leaves are left. -/
theorem unnested_leaves : (members : List Tree) →
    ReflTransGen Unnests members ((leavesOf members).map leaf)
  | [] => .refl
  | leaf source :: members =>
    (unnested_leaves members).lift (leaf source :: ·) fun _ _ step => step.append_left [leaf source]
  | chain inner :: members => by
    have hfirst : ReflTransGen Unnests (chain inner :: members) (inner ++ members) :=
      .single (.here [] inner members)
    have hinner : ReflTransGen Unnests (inner ++ members) ((leavesOf inner).map leaf ++ members) :=
      (unnested_leaves inner).lift (· ++ members) fun _ _ step => step.append_right members
    have hrest : ReflTransGen Unnests ((leavesOf inner).map leaf ++ members)
        ((leavesOf inner).map leaf ++ (leavesOf members).map leaf) :=
      (unnested_leaves members).lift (_ ++ ·) fun _ _ step => step.append_left _
    rw [leavesOf, leaves, List.map_append]
    exact (hfirst.trans hinner).trans hrest

end Tree

/-- Writing out chains within a chain, one after another and at any depth, changes neither what is
looked up, be it a device or a failure, nor the listing. It does not matter in which order they are
written out: each way leads to the leaves in the end, in the same order. -/
theorem nested_chains_flatten {members members' : List Tree}
    (h : ReflTransGen Tree.Unnests members members') :
    (∀ selector,
      (Tree.chain members').source.resolve selector =
          (Tree.chain members).source.resolve selector ∧
        ∀ e, (Tree.chain members).source.resolve selector = .error e →
          e = .resolution (.noSource selector)) ∧
      (Tree.chain members').source.devices = (Tree.chain members).source.devices ∧
      ReflTransGen Tree.Unnests members' ((Tree.leavesOf members).map .leaf) := by
  have hleaves := Tree.leavesOf_of_unnested h
  refine ⟨fun selector => ⟨?_, fun e he => resolveFirst_error he⟩, ?_, ?_⟩
  · show resolveFirst selector (Tree.sources members') =
      resolveFirst selector (Tree.sources members)
    rw [resolveFirst_eq, resolveFirst_eq, Tree.findSome?_sources, Tree.findSome?_sources, hleaves]
  · show Except.ok (devicesOf (Tree.sources members')) = .ok (devicesOf (Tree.sources members))
    rw [devicesOf_eq_addNew, devicesOf_eq_addNew, Tree.addNew_sources, Tree.addNew_sources, hleaves]
  · rw [← hleaves]
    exact Tree.unnested_leaves members'

/-- A chain within a chain within a chain, over a source that fails, one that lists a name twice,
and one that repeats it in other letters. -/
theorem nested_chains_flatten_twice :
    let failing : Resolver := { resolve := fun _ => .error .parse, devices := .error .parse }
    let twice := fixed [{ name := "Pda", osMajor := 4 }, { name := "Pda", osMajor := 5 }]
    let other := fixed [{ name := "PDA", osMajor := 6 }, { name := "Phone" }]
    let nested : List Tree :=
      [.chain [.leaf failing, .chain [.leaf twice]], .leaf other]
    let flat : List Tree := [.leaf failing, .leaf twice, .leaf other]
    ReflTransGen Tree.Unnests nested flat ∧
      (chain [failing, twice, other]).devices =
        .ok [{ name := "Pda", osMajor := 4 }, { name := "Phone" }] ∧
      (Tree.chain nested).source.devices =
        .ok [{ name := "Pda", osMajor := 4 }, { name := "Phone" }] ∧
      (Tree.chain nested).source.resolve (.name "pda") =
        .ok { name := "Pda", osMajor := 4 } ∧
      (Tree.chain nested).source.resolve (.name "tablet") =
        .error (.resolution (.noSource (.name "tablet"))) := by
  intro failing twice other nested flat
  have hinner : Tree.Unnests nested [.chain [.leaf failing, .leaf twice], .leaf other] :=
    .inside [] [.leaf other] (.here [.leaf failing] [.leaf twice] [])
  have houter : Tree.Unnests [.chain [.leaf failing, .leaf twice], .leaf other] flat :=
    .here [] [.leaf failing, .leaf twice] [.leaf other]
  have hflat : ReflTransGen Tree.Unnests nested flat := (ReflTransGen.single hinner).tail houter
  obtain ⟨hresolve, hdevices, -⟩ := nested_chains_flatten hflat
  have hlisted : (chain [failing, twice, other]).devices =
      .ok [{ name := "Pda", osMajor := 4 }, { name := "Phone" }] := by rfl
  refine ⟨hflat, hlisted, hdevices.symm.trans hlisted, ?_, ?_⟩
  · rw [← (hresolve (.name "pda")).1]
    rfl
  · rw [← (hresolve (.name "tablet")).1]
    rfl

end PocketLink.Resolver
