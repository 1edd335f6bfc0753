import PocketLink.Proofs.Desktop.Run

/-!
# Paths of the listed devices

Devices are told apart by the paths under which discovery announces them. What the resolver lists
and what the broker has is looked for under the path of its own before it is added. A single
announcement is looked for under the path that was announced, while the resolver finds a device
under every spelling of its path. So a device that is announced twice in another spelling is added
twice.

The main statement says exactly when this cannot happen: when each announced path is answered with a
device of that very path, or with one that has no path at all.
-/

namespace PocketLink

/-- Whether a source answers a path with no device of another path. -/
def Resolver.FindsExactly (resolver : Resolver) (path : String) : Prop :=
  ∀ info, resolver.resolve (.objectPath path) = .ok info → ∀ own ∈ info.objectPath, own = path

namespace Desktop

variable {σ : Type} {d : Desktop σ} {info : DeviceInfo} {path : String}

/-- The paths of the listed devices, as far as they have one, in their order. -/
def paths (d : Desktop σ) : List String := d.infos.filterMap DeviceInfo.objectPath

/-- A desktop whose listed devices have different paths. -/
structure Distinct (d : Desktop σ) : Prop where
  numbered : d.Numbered
  nodup : d.paths.Nodup

theorem isSome_withPath?_iff : (d.withPath? path).isSome = true ↔ path ∈ d.paths := by
  simp [withPath?, List.find?_isSome, paths, infos]

/-- A path under which no listed device is found is the path of none. -/
theorem not_mem_paths (h : (d.withPath? path).isSome = false) : path ∉ d.paths := by
  intro hmem
  rw [← isSome_withPath?_iff, h] at hmem
  cases hmem

/-! ## Adding and removing devices -/

theorem paths_addDevice (h : d.Numbered) (info : DeviceInfo) :
    (d.addDevice info).paths = d.paths ++ info.objectPath.toList := by
  rw [paths, infos_addDevice h, List.filterMap_append, paths]
  cases hp : info.objectPath <;> simp [hp]

theorem Distinct.addDevice (h : d.Distinct) (new : ∀ own ∈ info.objectPath, own ∉ d.paths) :
    (d.addDevice info).Distinct := by
  refine ⟨h.numbered.addDevice info, ?_⟩
  rw [paths_addDevice h.numbered, List.nodup_append]
  refine ⟨h.nodup, ?_, ?_⟩
  · cases info.objectPath <;> simp
  · intro known hknown own hown heq
    rw [Option.mem_toList] at hown
    rw [heq] at hknown
    exact new own hown hknown

theorem Distinct.removeWhere (h : d.Distinct) (gone : DeviceId → Bool) :
    (d.removeWhere gone).Distinct := by
  refine ⟨h.numbered.removeWhere gone, ?_⟩
  have hsub : (d.removeWhere gone).paths.Sublist d.paths :=
    (infos_removeWhere d gone).filterMap DeviceInfo.objectPath
  exact hsub.nodup h.nodup

/-! ## Steps -/

theorem Distinct.discover (h : d.Distinct) : d.discover.2.Distinct := by
  unfold Desktop.discover
  split
  · exact h
  · next found _ =>
    split
    · exact h
    · have hadd : (found.foldl (addUnless knows) d).Distinct := by
        refine foldl_addUnless (fun d info h hk => h.addDevice fun own hown => ?_) h found
        rw [Option.mem_def] at hown
        rw [knows, hown] at hk
        exact not_mem_paths hk
      rwa [← fst_addUnknown] at hadd

theorem Distinct.brokerOnline (h : d.Distinct) (announced : List String) :
    (d.brokerOnline announced).Distinct := by
  rw [brokerOnline_eq]
  split
  · exact h
  · refine foldl_addUnless (fun d info h hk => h.addDevice fun own hown => ?_) h _
    rw [Option.mem_def] at hown
    rw [hown, Option.getD_some] at hk
    exact not_mem_paths hk

theorem lookUp_eq_some_iff :
    d.lookUp path = some info ↔ d.resolver.resolve (.objectPath path) = .ok info := by
  rw [lookUp]
  cases d.resolver.resolve (.objectPath path) <;> simp [Except.toOption]

/-- A single announcement keeps the paths different if it is answered with a device of the announced
path: that is the path under which the listed devices are looked through. -/
theorem Distinct.deviceConnected (h : d.Distinct) (exact : d.resolver.FindsExactly path) :
    (d.deviceConnected path).1.Distinct := by
  unfold Desktop.deviceConnected
  split
  · exact h
  · next info hinfo =>
    split
    · exact h
    · next hk =>
      rw [Bool.or_eq_true, not_or, Bool.not_eq_true, Bool.not_eq_true] at hk
      refine h.addDevice fun own hown => ?_
      rw [exact info (lookUp_eq_some_iff.mp hinfo) own hown]
      exact not_mem_paths hk.2

theorem Distinct.deviceDisconnected (h : d.Distinct) (path : String) :
    (d.deviceDisconnected path).1.Distinct := by
  unfold Desktop.deviceDisconnected
  split
  · exact h
  · exact h.removeWhere _

/-- Every step keeps the paths different, but for an announcement that is answered with a device of
another path. -/
theorem Distinct.after (h : d.Distinct) (step : Step σ)
    (exact : ∀ path, step = .event (.deviceConnected path) → d.resolver.FindsExactly path) :
    (step.after d).Distinct := by
  cases step with
  | discover => exact h.discover
  | event e =>
    cases e with
    | deviceConnected path => exact h.deviceConnected (exact path rfl)
    | deviceDisconnected path => exact h.deviceDisconnected path
    | brokerOnline announced => exact h.brokerOnline announced
    | brokerOffline => exact h.removeWhere _
  | advise sink => exact ⟨h.numbered, h.nodup⟩
  | unadvise cookie => exact ⟨h.numbered, h.nodup⟩
  | shutdown =>
    have hgone := h.removeWhere fun _ => true
    exact ⟨hgone.numbered, hgone.nodup⟩
  | sourceChanges resolver => exact ⟨h.numbered, h.nodup⟩

/-! ## Runs -/

/-- Whether a step brings no sources but some, and announces no single devices but those of some
paths. -/
def Step.Within (sources : Resolver → Prop) (announced : String → Prop) : Step σ → Prop
  | sourceChanges resolver => sources resolver
  | event (.deviceConnected path) => announced path
  | _ => True

variable {sources : Resolver → Prop} {announced : String → Prop}

theorem Step.Within.resolver {step : Step σ} (within : step.Within sources announced)
    (hd : sources d.resolver) : sources (step.after d).resolver := by
  rw [resolver_after]
  cases step with
  | sourceChanges resolver => exact within
  | _ => exact hd

theorem Distinct.run (h : d.Distinct) (hd : sources d.resolver)
    (exact : ∀ resolver path, sources resolver → announced path → resolver.FindsExactly path)
    (steps : List (Step σ)) (within : ∀ step ∈ steps, step.Within sources announced) :
    (Desktop.run steps d).Distinct := by
  induction steps generalizing d with
  | nil => exact h
  | cons step steps ih =>
    have hstep : step.Within sources announced := within step (List.mem_cons_self ..)
    have hafter : (step.after d).Distinct := by
      refine h.after step fun path hpath => ?_
      rw [hpath] at hstep
      exact exact d.resolver path hd hstep
    exact ih hafter (hstep.resolver hd) fun other ho => within other (List.mem_cons_of_mem _ ho)

theorem distinct_fresh (settings : Settings) (resolver : Resolver) :
    (fresh settings resolver : Desktop σ).Distinct := by
  refine ⟨?_, List.nodup_nil⟩
  intro id hid
  cases hid

/-- An announced device is added if its own path is not looked at and the announced one is new. -/
theorem deviceConnected_of_found (hfound : d.resolver.resolve (.objectPath path) = .ok info)
    (hopen : d.isClosed = false) (hnew : path ∉ d.paths) :
    (d.deviceConnected path).1 = d.addDevice info := by
  have hk : (d.withPath? path).isSome = false := by
    rw [← isSome_withPath?_iff, Bool.not_eq_true] at hnew
    exact hnew
  simp [deviceConnected, lookUp_eq_some_iff.mpr hfound, hopen, hk]

/-- A device that is announced twice under another path than its own is listed twice. -/
theorem paths_announced_twice (settings : Settings) {resolver : Resolver} {own : String}
    (hfound : resolver.resolve (.objectPath path) = .ok info) (hown : info.objectPath = some own)
    (hne : own ≠ path) :
    let announce : Step σ := .event (.deviceConnected path)
    (run [announce, announce] (fresh settings resolver)).paths = [own, own] := by
  intro announce
  let d₀ : Desktop σ := fresh settings resolver
  have hd₀ : d₀.Numbered := (distinct_fresh settings resolver).numbered
  have hfirst : announce.after d₀ = d₀.addDevice info :=
    deviceConnected_of_found hfound rfl (by intro hmem; cases hmem)
  have hpaths : (d₀.addDevice info).paths = [own] := by
    rw [paths_addDevice hd₀, hown]
    rfl
  -- The device is there by now, but it is looked for under the announced path.
  have hsecond : announce.after (d₀.addDevice info) = (d₀.addDevice info).addDevice info := by
    refine deviceConnected_of_found hfound rfl ?_
    rw [hpaths, List.mem_singleton]
    exact hne.symm
  have hrun : run [announce, announce] d₀ = announce.after (announce.after d₀) := rfl
  rw [hrun, hfirst, hsecond, paths_addDevice (hd₀.addDevice info), hpaths, hown]
  rfl

/-- The devices that are listed after any steps have different paths, whatever was listed, announced
and removed in between, exactly if no single announcement can be answered with a device of another
path: if there is such an answer, announcing the path twice lists the device twice. -/
theorem paths_distinct_iff (sources : Resolver → Prop) (announced : String → Prop)
    (settings : Settings) :
    (∀ (resolver : Resolver) (steps : List (Step σ)), sources resolver →
        (∀ step ∈ steps, step.Within sources announced) →
        (run steps (fresh settings resolver)).paths.Nodup) ↔
      ∀ resolver path, sources resolver → announced path → resolver.FindsExactly path := by
  constructor
  · -- The run that announces the same path twice is enough to rule out every other answer.
    intro distinct resolver path hresolver hpath info hfound own hown
    refine Decidable.byContradiction fun hne => ?_
    let announce : Step σ := .event (.deviceConnected path)
    have within : ∀ step ∈ [announce, announce], step.Within sources announced := by
      simp [announce, Step.Within, hpath]
    have hnodup := distinct resolver [announce, announce] hresolver within
    rw [paths_announced_twice settings hfound hown hne] at hnodup
    simp at hnodup
  · intro exact resolver steps hresolver within
    exact ((distinct_fresh settings resolver).run hresolver exact steps within).nodup

/-- A device whose path has a capital letter. -/
def capitalDevice : DeviceInfo := { name := "pda", objectPath := some "/org/synce/dccm/Device/1" }

/-- It is not so that no two listed devices ever have the same path: the resolver knows a device
that is announced in small letters, and announced so twice it is listed twice. -/
theorem not_paths_distinct :
    ¬ ∀ (settings : Settings) (resolver : Resolver) (steps : List (Step Unit)),
      (run steps (fresh settings resolver)).paths.Nodup := by
  intro claim
  let path : String := "/org/synce/dccm/device/1"
  let announce : Step Unit := .event (.deviceConnected path)
  let settings : Settings :=
    { port := devicePort, proxyDir := ⟨"/run/synce"⟩, infoDir := ⟨"/etc/synce"⟩ }
  have hselects : (Selector.objectPath path).selects capitalDevice = true := by decide
  have hfound :
      (Resolver.fixed [capitalDevice]).resolve (.objectPath path) = .ok capitalDevice := by
    simp [Resolver.fixed, Resolver.pick, hselects]
  have hnodup := claim settings (.fixed [capitalDevice]) [announce, announce]
  rw [paths_announced_twice settings hfound rfl (by decide)] at hnodup
  simp at hnodup

end Desktop

end PocketLink
