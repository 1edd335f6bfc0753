import PocketLink.Proofs.Desktop.Membership
import PocketLink.Proofs.Desktop.Paths

/-!
# Announcements of a single device

A device that is announced under a path is registered under the path of its own, which the resolver
answers, and a device that is announced to be gone is looked for under exactly the announced path.
So an announcement is undone by the one with the same path if the two paths are the same, whatever
happened in between, and only then (`departure_undoes_arrival`).
-/

namespace PocketLink.Desktop

variable {σ : Type} {d : Desktop σ} {id : DeviceId} {path : String}

/-! ## What a single announcement can do -/

/-- A device that is announced to be there is added, and all sinks are told, or nothing happens. -/
theorem deviceConnected_cases (d : Desktop σ) (path : String) :
    d.deviceConnected path = (d, []) ∨
      ∃ info, d.resolver.resolve (.objectPath path) = .ok info ∧ d.withPath? path = none ∧
        d.deviceConnected path = (d.addDevice info, d.notices .connected d.created.length) := by
  unfold deviceConnected
  split
  · exact Or.inl rfl
  · next info hinfo =>
    by_cases hidle : (d.isClosed || (d.withPath? path).isSome) = true
    · rw [if_pos hidle]
      exact Or.inl rfl
    · rw [if_neg hidle]
      rw [Bool.or_eq_true, not_or, Option.not_isSome_iff_eq_none] at hidle
      exact Or.inr ⟨info, lookUp_eq_some_iff.mp hinfo, hidle.2, rfl⟩

/-- A device that is announced to be gone is removed, and all sinks are told, or nothing happens
because no listed device has the path. -/
theorem deviceDisconnected_cases (d : Desktop σ) (path : String) :
    (d.withPath? path = none ∧ d.deviceDisconnected path = (d, [])) ∨
      ∃ gone ∈ d.listed, d.withPath? path = some gone ∧ (d.info gone).objectPath = some path ∧
        d.deviceDisconnected path =
          (d.removeWhere (· == gone), d.notices .disconnected gone) := by
  unfold deviceDisconnected
  split
  · next hnone => exact Or.inl ⟨hnone, rfl⟩
  · next gone hsome =>
    have hpath := List.find?_some hsome
    rw [beq_iff_eq] at hpath
    exact Or.inr ⟨gone, List.mem_of_find?_eq_some hsome, hsome, hpath, rfl⟩

theorem listed_removeWhere_beq (d : Desktop σ) (gone : DeviceId) :
    (d.removeWhere (· == gone)).listed = d.listed.filter (· ≠ gone) := by
  rw [listed_removeWhere]
  congr 1
  funext id
  by_cases h : id = gone <;> simp [h]

/-! ## The first device with a path -/

/-- A device is known by some information, and none of the devices that are listed before it has a
path. -/
structure Leads (path : String) (id : DeviceId) (info : DeviceInfo) (d : Desktop σ) : Prop where
  made : id < d.created.length
  known : d.info id = info
  first : ∀ other ∈ d.listed, other < id → (d.info other).objectPath ≠ some path

variable {info : DeviceInfo}

theorem info_congr {d' : Desktop σ} (h : d'.created = d.created) (id : DeviceId) :
    d'.info id = d.info id := by
  unfold Desktop.info device?
  rw [h]

theorem Leads.addDevice (h : d.Leads path id info) (new : DeviceInfo) :
    (d.addDevice new).Leads path id info := by
  -- What is added comes behind the device.
  refine ⟨?_, (info_addDevice_of_lt h.made new).trans h.known, ?_⟩
  · rw [created_addDevice, List.length_append]
    exact Nat.lt_add_right _ h.made
  · intro other hother hlt
    have hmade : other < d.created.length := Nat.lt_trans hlt h.made
    rw [listed_addDevice, List.mem_append, List.mem_singleton] at hother
    rw [info_addDevice_of_lt hmade]
    rcases hother with hold | hnew
    · exact h.first other hold hlt
    · exact absurd hnew (Nat.ne_of_lt hmade)

theorem Leads.removeWhere (h : d.Leads path id info) (gone : DeviceId → Bool) :
    (d.removeWhere gone).Leads path id info := by
  refine ⟨?_, (info_removeWhere d gone id).trans h.known, ?_⟩
  · rw [length_created_removeWhere]
    exact h.made
  · intro other hother hlt
    rw [listed_removeWhere, List.mem_filter] at hother
    rw [info_removeWhere]
    exact h.first other hother.1 hlt

theorem Leads.after (h : d.Leads path id info) (step : Step σ) :
    (step.after d).Leads path id info := by
  refine step.keeps ?_ (fun _ new h => h.addDevice new) (fun _ gone h => h.removeWhere gone) h
  intro d d' hc hl h
  refine ⟨?_, (info_congr hc id).trans h.known, ?_⟩
  · rw [hc]
    exact h.made
  · intro other hother hlt
    rw [hl] at hother
    rw [info_congr hc]
    exact h.first other hother hlt

theorem Leads.run (h : d.Leads path id info) (steps : List (Step σ)) :
    (Desktop.run steps d).Leads path id info :=
  run_keeps (fun _ step h => h.after step) h steps

/-- The first device with a path is the one that is found under it. -/
theorem Leads.withPath? (h : d.Leads path id info) (agrees : d.Agrees) (hid : id ∈ d.listed)
    (hown : info.objectPath = some path) : d.withPath? path = some id := by
  have hpath : (d.info id).objectPath = some path := by rw [h.known, hown]
  cases hfound : d.withPath? path with
  | none =>
    have hno := List.find?_eq_none.mp hfound id hid
    simp [hpath] at hno
  | some other =>
    obtain ⟨hother, before, behind, hlisted, hnot⟩ := List.find?_eq_some_iff_append.mp hfound
    rw [beq_iff_eq] at hother
    have hmem : other ∈ d.listed := by simp [hlisted]
    have hge : ¬ other < id := fun hlt => h.first other hmem hlt hother
    rw [hlisted, List.mem_append, List.mem_cons] at hid
    have hsorted := agrees.sorted
    rw [hlisted, List.pairwise_append, List.pairwise_cons] at hsorted
    -- The device stands before the one that was found, or is that one, or stands behind it.
    rcases hid with hbefore | rfl | hbehind
    · have hno := hnot id hbefore
      simp [hpath] at hno
    · rfl
    · exact absurd (hsorted.2.1.1 id hbehind) hge

/-! ## Arrivals and departures -/

/-- Only the device that was made last can be new in the list after it was announced, and then no
other listed one has the path. -/
theorem leads_of_registered (agrees : d.Agrees) (hnew : id ∉ d.listed)
    (hid : id ∈ (d.deviceConnected path).1.listed) :
    ∃ info, d.resolver.resolve (.objectPath path) = .ok info ∧
      (d.deviceConnected path).1.Leads path id info := by
  rcases deviceConnected_cases d path with hidle | ⟨info, hfound, hfree, hadded⟩
  · rw [hidle] at hid
    exact absurd hid hnew
  · rw [hadded, listed_addDevice, List.mem_append, List.mem_singleton] at hid
    rcases hid with hold | rfl
    · exact absurd hold hnew
    · refine ⟨info, hfound, ?_⟩
      rw [hadded]
      refine ⟨by simp, info_addDevice_self d info, ?_⟩
      intro other hother hlt
      rw [listed_addDevice, List.mem_append, List.mem_singleton] at hother
      rcases hother with hold | hnew
      · rw [info_addDevice_of_lt (agrees.numbered other hold)]
        have hno := List.find?_eq_none.mp hfree other hold
        simpa using hno
      · exact absurd hnew (Nat.ne_of_lt hlt)

/-- A listed device that is found under a path goes when the path is announced to be gone: the
others stay, it is disconnected, and every sink is told of it. -/
theorem deviceDisconnected_of_found (hfound : d.withPath? path = some id) :
    (d.deviceDisconnected path).1.listed = d.listed.filter (· ≠ id) ∧
      (d.deviceDisconnected path).1.status id = .disconnected ∧
      (d.deviceDisconnected path).2 = d.notices .disconnected id := by
  rcases deviceDisconnected_cases d path with ⟨hnone, -⟩ | ⟨gone, hgone, hsome, -, hremoved⟩
  · rw [hfound] at hnone
    cases hnone
  · obtain rfl : id = gone := Option.some.inj (hfound.symm.trans hsome)
    rw [hremoved]
    refine ⟨listed_removeWhere_beq d id, ?_, rfl⟩
    rw [status_removeWhere]
    simp [hgone]

/-- A listed device of another path stays as it is when a path is announced to be gone, and no sink
is told of it. -/
theorem deviceDisconnected_of_other (agrees : d.Agrees) (hid : id ∈ d.listed)
    (hother : (d.info id).objectPath ≠ some path) :
    id ∈ (d.deviceDisconnected path).1.listed ∧
      (d.deviceDisconnected path).1.status id = .connected ∧
      ∀ notice ∈ (d.deviceDisconnected path).2, notice.device ≠ id := by
  rcases deviceDisconnected_cases d path with ⟨-, hidle⟩ | ⟨gone, -, -, hpath, hremoved⟩
  · rw [hidle]
    exact ⟨hid, (agrees.connected id).mpr hid, by simp⟩
  · have hne : id ≠ gone := by
      rintro rfl
      exact hother hpath
    have hstays : id ∈ (d.removeWhere (· == gone)).listed := by
      rw [listed_removeWhere_beq]
      simp [hid, hne]
    rw [hremoved]
    refine ⟨hstays, ((agrees.removeWhere _).connected id).mpr hstays, ?_⟩
    intro notice hnotice
    obtain ⟨entry, -, rfl⟩ := List.mem_map.mp hnotice
    exact hne.symm

/-- A device that an announcement registered, and that is still listed after any further steps, goes
when the same path is announced to be gone exactly if the path is its own: then it is removed, it is
disconnected, and the sinks that are registered then are told. Otherwise it stays connected, and no
sink is told of it. -/
theorem departure_undoes_arrival (settings : Settings) (resolver : Resolver)
    (before between : List (Step σ)) (path : String) (id : DeviceId) :
    let d : Desktop σ := run before (fresh settings resolver)
    let d₁ := (d.handle (.deviceConnected path)).1
    let d₂ := run between d₁
    let d₃ := (d₂.handle (.deviceDisconnected path)).1
    let notices := (d₂.handle (.deviceDisconnected path)).2
    id ∉ d.listed → id ∈ d₁.listed → id ∈ d₂.listed →
      ∃ info, d.resolver.resolve (.objectPath path) = .ok info ∧
        if info.objectPath = some path then
          d₃.listed = d₂.listed.filter (· ≠ id) ∧ d₃.status id = .disconnected ∧
            notices = d₂.sinks.map fun (cookie, sink) =>
              { cookie, sink, change := .disconnected, device := id }
        else
          id ∈ d₃.listed ∧ d₃.status id = .connected ∧ ∀ notice ∈ notices, notice.device ≠ id := by
  intro d d₁ d₂ d₃ notices hnew hid hstays
  have agrees : d.Agrees := (agrees_fresh settings resolver).run before
  have agrees₁ : d₁.Agrees := agrees.after (.event (.deviceConnected path))
  have agrees₂ : d₂.Agrees := agrees₁.run between
  obtain ⟨info, hfound, hleads⟩ := leads_of_registered agrees hnew hid
  have hleads₂ : d₂.Leads path id info := hleads.run between
  refine ⟨info, hfound, ?_⟩
  split
  · next hown => exact deviceDisconnected_of_found (hleads₂.withPath? agrees₂ hstays hown)
  · next hown =>
    rw [← hleads₂.known] at hown
    exact deviceDisconnected_of_other agrees₂ hstays hown

/-- The device goes from between another one that came before it and one that came after it. -/
theorem departure_undoes_arrival_between :
    let resolver : Resolver := .fixed [
      { name := "a", objectPath := some "/1" },
      { name := "b", objectPath := some "/2" },
      { name := "c", objectPath := some "/3" }]
    let d : Desktop Unit :=
      run [.advise (), .event (.deviceConnected "/1")] (fresh idleSettings resolver)
    let d₂ := run [.discover] (d.handle (.deviceConnected "/2")).1
    d₂.listed = [0, 1, 2] ∧ (d₂.handle (.deviceDisconnected "/2")).1.listed = [0, 2] ∧
      (d₂.handle (.deviceDisconnected "/2")).2.length = 1 := by
  intro resolver d d₂
  have hlisted : d₂.listed = [0, 1, 2] := by decide
  have hgone := departure_undoes_arrival idleSettings resolver
    [.advise (), .event (.deviceConnected "/1")] [.discover] "/2" 1
    (by decide) (by decide) (by decide)
  obtain ⟨info, hfound, hgone⟩ := hgone
  have hown : info.objectPath = some "/2" := by
    have hknown : resolver.resolve (.objectPath "/2") =
        .ok { name := "b", objectPath := some "/2" } := rfl
    obtain rfl := Except.ok.inj (hfound.symm.trans hknown)
    rfl
  rw [if_pos hown] at hgone
  obtain ⟨hrest, -, htold⟩ := hgone
  refine ⟨hlisted, ?_, ?_⟩
  · rw [hrest, hlisted]
    rfl
  · rw [htold]
    rfl

/-- It is not so that the announcement of a path always undoes an earlier one: the resolver knows a
device that is announced in small letters, and announced so to be gone it stays. -/
theorem not_departure_undoes_arrival :
    ¬ ∀ (settings : Settings) (resolver : Resolver) (before between : List (Step Unit))
        (path : String) (id : DeviceId),
      let d : Desktop Unit := run before (fresh settings resolver)
      let d₁ := (d.handle (.deviceConnected path)).1
      let d₂ := run between d₁
      id ∉ d.listed → id ∈ d₁.listed → id ∈ d₂.listed →
        id ∉ (d₂.handle (.deviceDisconnected path)).1.listed := by
  intro claim
  have hgone := claim idleSettings (.fixed [capitalDevice]) [] [] "/org/synce/dccm/device/1" 0
    (by decide) (by decide +kernel) (by decide +kernel)
  exact hgone (by decide +kernel)

end PocketLink.Desktop
