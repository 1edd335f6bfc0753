import PocketLink.Desktop.Events

/-!
# Runs of a desktop

A desktop is driven step by step: devices are discovered and announced, sinks come and go, and the
resolver answers otherwise when the files behind it change. A sink that uses the desktop while it is
told something takes steps of its own, which come before the next one of the caller; so a run is a
plain list of steps.

Two things happen to the list of devices. A device is added at its end, or some of its devices are
removed. What is known about the devices that stay is not touched by either.
-/

namespace PocketLink.Desktop

variable {σ : Type}

/-! ## Steps -/

/-- One step of a desktop and what is around it. -/
inductive Step (σ : Type) where
  /-- The devices that the resolver lists are added. -/
  | discover
  /-- Discovery announces something. -/
  | event (e : DiscoveryEvent)
  /-- A sink is added. -/
  | advise (sink : σ)
  /-- The sink under a cookie is removed. -/
  | unadvise (cookie : UInt32)
  /-- The desktop is shut down. -/
  | shutdown
  /-- The resolver answers otherwise from now on. -/
  | sourceChanges (resolver : Resolver)

/-- The desktop after a step, whether it succeeded or failed. -/
def Step.after (d : Desktop σ) : Step σ → Desktop σ
  | discover => d.discover.2
  | event e => (d.handle e).1
  | advise sink => (d.advise sink).2
  | unadvise cookie => d.unadvise cookie
  | shutdown => d.shutdown
  | sourceChanges resolver => { d with resolver }

/-- The desktop after some steps, one after another. -/
def run (steps : List (Step σ)) (d : Desktop σ) : Desktop σ := steps.foldl Step.after d

/-- The desktop that was just made. -/
def fresh (settings : Settings) (resolver : Resolver) : Desktop σ := { settings, resolver }

/-- The settings of a desktop on whose devices no sessions are opened. -/
def idleSettings : Settings :=
  { port := devicePort, proxyDir := ⟨"/run/synce"⟩, infoDir := ⟨"/etc/synce"⟩ }

/-! ## Numbers of devices -/

variable {d : Desktop σ} {id : DeviceId}

/-- Every listed device was made by the desktop. -/
def Numbered (d : Desktop σ) : Prop := ∀ id ∈ d.listed, id < d.created.length

@[simp] theorem length_created_markGone (d : Desktop σ) (id : DeviceId) :
    (d.markGone id).created.length = d.created.length := by
  rw [markGone, List.length_modify]

/-- What is known about a device does not change when it is gone. -/
@[simp] theorem info_markGone (d : Desktop σ) (gone id : DeviceId) :
    (d.markGone gone).info id = d.info id := by
  simp only [info, device?, markGone, List.getElem?_modify]
  cases d.created[id]? with
  | none => rfl
  | some device => by_cases h : gone = id <;> simp [h]

theorem length_created_foldl_markGone (ids : List DeviceId) (d : Desktop σ) :
    (ids.foldl markGone d).created.length = d.created.length := by
  induction ids generalizing d with
  | nil => rfl
  | cons gone ids ih => rw [List.foldl_cons, ih, length_created_markGone]

theorem info_foldl_markGone (ids : List DeviceId) (d : Desktop σ) (id : DeviceId) :
    (ids.foldl markGone d).info id = d.info id := by
  induction ids generalizing d with
  | nil => rfl
  | cons gone ids ih => rw [List.foldl_cons, ih, info_markGone]

@[simp] theorem length_created_removeWhere (d : Desktop σ) (gone : DeviceId → Bool) :
    (d.removeWhere gone).created.length = d.created.length :=
  length_created_foldl_markGone _ d

@[simp] theorem info_removeWhere (d : Desktop σ) (gone : DeviceId → Bool) (id : DeviceId) :
    (d.removeWhere gone).info id = d.info id :=
  info_foldl_markGone _ d id

theorem info_addDevice_of_lt (h : id < d.created.length) (info : DeviceInfo) :
    (d.addDevice info).info id = d.info id := by
  simp only [Desktop.info, device?, created_addDevice, List.getElem?_append_left h]

@[simp] theorem info_addDevice_self (d : Desktop σ) (info : DeviceInfo) :
    (d.addDevice info).info d.created.length = info := by
  simp [Desktop.info, device?]

theorem Numbered.addDevice (h : d.Numbered) (info : DeviceInfo) : (d.addDevice info).Numbered := by
  intro id hid
  rw [listed_addDevice, List.mem_append, List.mem_singleton] at hid
  rw [created_addDevice, List.length_append, List.length_singleton]
  rcases hid with hid | rfl
  · exact Nat.lt_succ_of_lt (h id hid)
  · exact Nat.lt_succ_self _

theorem Numbered.removeWhere (h : d.Numbered) (gone : DeviceId → Bool) :
    (d.removeWhere gone).Numbered := by
  intro id hid
  rw [listed_removeWhere] at hid
  rw [length_created_removeWhere]
  exact h id (List.mem_filter.mp hid).1

/-! ## Adding several devices -/

/-- The desktop with one device more, unless that is known by some measure. -/
def addUnless (known : Desktop σ → DeviceInfo → Bool) (d : Desktop σ) (info : DeviceInfo) :
    Desktop σ :=
  if known d info then d else d.addDevice info

/-- What adding one unknown device keeps, adding several of them keeps. -/
theorem foldl_addUnless {P : Desktop σ → Prop} {known : Desktop σ → DeviceInfo → Bool}
    (add : ∀ d info, P d → known d info = false → P (d.addDevice info)) (h : P d)
    (found : List DeviceInfo) : P (found.foldl (addUnless known) d) := by
  induction found generalizing d with
  | nil => exact h
  | cons info found ih =>
    rw [List.foldl_cons]
    refine ih ?_
    unfold addUnless
    cases hk : known d info with
    | true => exact h
    | false => exact add d info h hk

/-- What is added of a listing, without the number of it. -/
theorem fst_addUnknown (d : Desktop σ) (found : List DeviceInfo) :
    (d.addUnknown found).1 = found.foldl (addUnless knows) d := by
  refine (List.foldl_hom Prod.fst ?_).symm
  rintro ⟨d, added⟩ info
  simp only [addUnless]
  split <;> rfl

theorem brokerOnline_eq (d : Desktop σ) (paths : List String) :
    d.brokerOnline paths =
      if d.isClosed then d
      else (paths.filterMap d.lookUp).foldl
        (addUnless fun d info => (d.withPath? (info.objectPath.getD "")).isSome) d := rfl

/-! ## What the steps of discovery keep -/

/-- Nothing but the devices is changed when some of them are removed. -/
theorem removeWhere_eq (d : Desktop σ) (gone : DeviceId → Bool) :
    ∃ created,
      d.removeWhere gone = { d with created, listed := d.listed.filter fun id => !gone id } := by
  have key : ∀ (ids : List DeviceId) (d : Desktop σ),
      ∃ created, ids.foldl markGone d = { d with created } := by
    intro ids
    induction ids with
    | nil => exact fun d => ⟨d.created, rfl⟩
    | cons id ids ih => exact fun d => ih (d.markGone id)
  obtain ⟨created, h⟩ := key (d.listed.filter gone) d
  refine ⟨created, ?_⟩
  unfold removeWhere
  rw [h]

/-- What adding a device keeps, discovering devices keeps. -/
theorem discover_keeps {P : Desktop σ → Prop} (add : ∀ d info, P d → P (d.addDevice info))
    (h : P d) : P d.discover.2 := by
  unfold discover
  split
  · exact h
  · next found _ =>
    split
    · exact h
    · have hadded : P (found.foldl (addUnless knows) d) :=
        foldl_addUnless (fun d info h _ => add d info h) h found
      rwa [← fst_addUnknown] at hadded

/-- What adding a device and removing devices keep, every event keeps. -/
theorem handle_keeps {P : Desktop σ → Prop} (add : ∀ d info, P d → P (d.addDevice info))
    (remove : ∀ d gone, P d → P (d.removeWhere gone)) (h : P d) (e : DiscoveryEvent) :
    P (d.handle e).1 := by
  cases e with
  | deviceConnected path =>
    simp only [handle, deviceConnected]
    split
    · exact h
    · next info _ =>
      split
      · exact h
      · exact add d info h
  | deviceDisconnected path =>
    simp only [handle, deviceDisconnected]
    split
    · exact h
    · exact remove d _ h
  | brokerOnline paths =>
    simp only [handle, brokerOnline_eq]
    split
    · exact h
    · exact foldl_addUnless (fun d info h _ => add d info h) h _
  | brokerOffline => exact remove d _ h

/-! ## The source of a desktop -/

theorem resolver_removeWhere (d : Desktop σ) (gone : DeviceId → Bool) :
    (d.removeWhere gone).resolver = d.resolver := by
  obtain ⟨created, h⟩ := removeWhere_eq d gone
  rw [h]

/-- Nothing changes the source of a desktop but a change of the source. -/
theorem resolver_after (d : Desktop σ) (step : Step σ) :
    (step.after d).resolver =
      match step with
      | .sourceChanges resolver => resolver
      | _ => d.resolver := by
  let P (d' : Desktop σ) := d'.resolver = d.resolver
  have add : ∀ d' info, P d' → P (d'.addDevice info) := fun _ _ h => h
  have remove : ∀ d' gone, P d' → P (d'.removeWhere gone) := fun d' gone h =>
    (resolver_removeWhere d' gone).trans h
  cases step with
  | discover => exact discover_keeps (P := P) add rfl
  | event e => exact handle_keeps (P := P) add remove rfl e
  | advise sink => rfl
  | unadvise cookie => rfl
  | shutdown => exact resolver_removeWhere d _
  | sourceChanges resolver => rfl

/-! ## What is known about the listed devices -/

/-- What is known about the listed devices, in their order. -/
def infos (d : Desktop σ) : List DeviceInfo := d.listed.map d.info

theorem infos_addDevice (h : d.Numbered) (info : DeviceInfo) :
    (d.addDevice info).infos = d.infos ++ [info] := by
  have hold : ∀ id ∈ d.listed, (d.addDevice info).info id = d.info id := fun id hid =>
    info_addDevice_of_lt (h id hid) info
  rw [infos, listed_addDevice, List.map_append, List.map_congr_left hold, List.map_singleton,
    info_addDevice_self, infos]

/-- Removing devices keeps the order of the others and what is known about them. -/
theorem infos_removeWhere (d : Desktop σ) (gone : DeviceId → Bool) :
    (d.removeWhere gone).infos.Sublist d.infos := by
  have hsame : (d.removeWhere gone).infos = (d.listed.filter fun id => !gone id).map d.info := by
    rw [infos, listed_removeWhere]
    exact List.map_congr_left fun id _ => info_removeWhere d gone id
  rw [hsame]
  exact List.filter_sublist.map d.info

end PocketLink.Desktop
