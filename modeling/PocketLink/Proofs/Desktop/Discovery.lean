import PocketLink.Proofs.Desktop.Announcements

/-!
# Discovering what is listed

Discovery goes through a listing and adds a device for all that no listed device stands for. What
stands for it is looked for in a list that grows on the way, by the path if the listing gives one
and by the name otherwise, so that one entry of a listing may be added because of the path that it
has, and the next one may be passed over because of the name of the first.

What is added stands for itself, and a device stands for whatever it stood for as long as it is
listed. So after discovery everything listed is stood for, and discovery finds nothing to add until
a device is removed (`discovery_is_complete`).
-/

namespace PocketLink

/-- Whether a known device is one that a listing means: the one with the path that the listing
gives, or, if it gives none, one with the name. -/
def DeviceInfo.StandsFor (known info : DeviceInfo) : Prop :=
  match info.objectPath with
  | some path => known.objectPath = some path
  | none => Ascii.sameName known.name info.name = true

theorem DeviceInfo.standsFor_self (info : DeviceInfo) : info.StandsFor info := by
  unfold StandsFor
  split
  · assumption
  · exact Ascii.sameName_refl info.name

namespace Desktop

variable {σ : Type} {d : Desktop σ} {info : DeviceInfo} {found : List DeviceInfo}

/-- Some listed device is one that a listing means. -/
def Represents (d : Desktop σ) (info : DeviceInfo) : Prop :=
  ∃ known ∈ d.infos, known.StandsFor info

theorem represents_iff : d.Represents info ↔ ∃ id ∈ d.listed, (d.info id).StandsFor info := by
  constructor
  · rintro ⟨known, hknown, hstands⟩
    obtain ⟨id, hid, rfl⟩ := List.mem_map.mp hknown
    exact ⟨id, hid, hstands⟩
  · rintro ⟨id, hid, hstands⟩
    exact ⟨d.info id, List.mem_map_of_mem hid, hstands⟩

theorem knows_iff : d.knows info = true ↔ d.Represents info := by
  rw [represents_iff]
  unfold knows DeviceInfo.StandsFor
  cases info.objectPath with
  | some path => simp [withPath?, List.find?_isSome]
  | none => simp

theorem Represents.of_subset {d' : Desktop σ} (h : d.Represents info)
    (hsub : ∀ known ∈ d.infos, known ∈ d'.infos) : d'.Represents info := by
  obtain ⟨known, hknown, hstands⟩ := h
  exact ⟨known, hsub known hknown, hstands⟩

/-! ## Adding what is unknown -/

/-- The desktop with several devices more, at the end of the list. -/
def addAll (d : Desktop σ) (added : List DeviceInfo) : Desktop σ := added.foldl addDevice d

theorem addAll_eq (d : Desktop σ) (added : List DeviceInfo) :
    d.addAll added = { d with
      created := d.created ++ added.map fun info => { info }
      listed := d.listed ++ List.range' d.created.length added.length } := by
  induction added generalizing d with
  | nil => simp [addAll]
  | cons info added ih =>
    have hstep : d.addAll (info :: added) = (d.addDevice info).addAll added := rfl
    rw [hstep, ih]
    simp [addDevice, List.range'_succ]

theorem infos_addAll (h : d.Numbered) (added : List DeviceInfo) :
    (d.addAll added).infos = d.infos ++ added := by
  induction added generalizing d with
  | nil => exact (List.append_nil _).symm
  | cons info added ih =>
    have hstep : d.addAll (info :: added) = (d.addDevice info).addAll added := rfl
    rw [hstep, ih (h.addDevice info), infos_addDevice h, List.append_assoc, List.singleton_append]

/-- One turn of the loop over a listing, with the number of devices that were added before it. -/
def addCounted (state : Desktop σ × Nat) (info : DeviceInfo) : Desktop σ × Nat :=
  if state.1.knows info then state else (state.1.addDevice info, state.2 + 1)

theorem addUnknown_eq_foldl (d : Desktop σ) (found : List DeviceInfo) :
    d.addUnknown found = found.foldl addCounted (d, 0) := rfl

/-- Some of a listing is added and counted, in its order, and all of it is represented then. -/
theorem foldl_addCounted (h : d.Numbered) (found : List DeviceInfo) (n : Nat) :
    ∃ added : List DeviceInfo, added.Sublist found ∧
      found.foldl addCounted (d, n) = (d.addAll added, n + added.length) ∧
      ∀ info ∈ found, (d.addAll added).Represents info := by
  induction found generalizing d n with
  | nil => exact ⟨[], List.Sublist.refl _, rfl, by simp⟩
  | cons info found ih =>
    rw [List.foldl_cons]
    by_cases hknown : d.knows info = true
    · obtain ⟨added, hsub, hfold, hall⟩ := ih h n
      refine ⟨added, hsub.cons info, ?_, ?_⟩
      · rw [show addCounted (d, n) info = (d, n) from if_pos hknown, hfold]
      · intro other hother
        rcases List.mem_cons.mp hother with rfl | hother
        · -- It was known before, and what is added behind takes nothing away.
          refine (knows_iff.mp hknown).of_subset fun known hmem => ?_
          rw [infos_addAll h]
          exact List.mem_append_left _ hmem
        · exact hall other hother
    · obtain ⟨added, hsub, hfold, hall⟩ := ih (h.addDevice info) (n + 1)
      refine ⟨info :: added, hsub.cons_cons info, ?_, ?_⟩
      · rw [show addCounted (d, n) info = (d.addDevice info, n + 1) from if_neg hknown, hfold,
          List.length_cons, Nat.add_assoc, Nat.add_comm 1]
        rfl
      · intro other hother
        rcases List.mem_cons.mp hother with rfl | hother
        · refine ⟨other, ?_, other.standsFor_self⟩
          rw [infos_addAll h]
          exact List.mem_append_right _ (List.mem_cons_self ..)
        · exact hall other hother

/-- Where everything is known, nothing is added. -/
theorem addUnknown_of_represented (h : ∀ info ∈ found, d.Represents info) :
    d.addUnknown found = (d, 0) := by
  rw [addUnknown_eq_foldl]
  induction found with
  | nil => rfl
  | cons info found ih =>
    have hknown : d.knows info = true := knows_iff.mpr (h info (List.mem_cons_self ..))
    rw [List.foldl_cons, show addCounted (d, 0) info = (d, 0) from if_pos hknown]
    exact ih fun other hother => h other (List.mem_cons_of_mem _ hother)

theorem discover_of_represented (hlisting : d.resolver.devices = .ok found)
    (h : ∀ info ∈ found, d.Represents info) : d.discover = (.ok 0, d) := by
  unfold discover
  rw [hlisting]
  show (if d.isClosed then _ else _) = _
  split
  · rfl
  · rw [addUnknown_of_represented h]

theorem discover_of_open (hopen : d.isClosed = false) (hlisting : d.resolver.devices = .ok found) :
    d.discover = (.ok (d.addUnknown found).2, (d.addUnknown found).1) := by
  unfold discover
  rw [hlisting]
  show (if d.isClosed then _ else _) = _
  rw [if_neg (by simp [hopen])]

/-! ## What is known about a device -/

/-- A device was made, and this is known about it. -/
structure MadeAs (id : DeviceId) (info : DeviceInfo) (d : Desktop σ) : Prop where
  made : id < d.created.length
  known : d.info id = info

variable {id : DeviceId}

theorem MadeAs.after (h : d.MadeAs id info) (step : Step σ) : (step.after d).MadeAs id info := by
  refine step.keeps ?_ ?_ ?_ h
  · intro d d' hc _ h
    exact ⟨hc ▸ h.made, (info_congr hc id).trans h.known⟩
  · intro d new h
    refine ⟨?_, (info_addDevice_of_lt h.made new).trans h.known⟩
    rw [created_addDevice, List.length_append]
    exact Nat.lt_add_right _ h.made
  · intro d gone h
    refine ⟨?_, (info_removeWhere d gone id).trans h.known⟩
    rw [length_created_removeWhere]
    exact h.made

theorem MadeAs.run (h : d.MadeAs id info) (steps : List (Step σ)) :
    (Desktop.run steps d).MadeAs id info :=
  run_keeps (fun _ step h => h.after step) h steps

/-- What was represented still is, as long as all devices stay in the list. -/
theorem Represents.run (h : d.Represents info) (numbered : d.Numbered) {steps : List (Step σ)}
    (stay : ∀ id ∈ d.listed, id ∈ (Desktop.run steps d).listed) :
    (Desktop.run steps d).Represents info := by
  refine h.of_subset fun known hknown => ?_
  obtain ⟨id, hid, hinfo⟩ := List.mem_map.mp hknown
  have hmade : (Desktop.run steps d).MadeAs id known :=
    MadeAs.run ⟨numbered id hid, hinfo⟩ steps
  exact List.mem_map.mpr ⟨id, stay id hid, hmade.known⟩

/-- From every desktop that steps lead to and that was not shut down, discovery of some listing adds
a part of the listing behind the devices that are there, and changes nothing about these or anything
else; its answer is how many devices it added. Then there is a device for all of the listing: one
with the path, where the listing gives one, and one with the name otherwise. And there is nothing to
discover any more, also after further steps, as long as these leave all devices in the list. -/
theorem discovery_is_complete (settings : Settings) (resolver : Resolver) (steps : List (Step σ))
    (found : List DeviceInfo) :
    let d : Desktop σ := run steps (fresh settings resolver)
    let d' : Desktop σ := d.discover.2
    d.isClosed = false → d.resolver.devices = .ok found →
      (∃ arrived, d.discover.1 = .ok arrived.length ∧ d'.listed = d.listed ++ arrived ∧
        (∀ id ∈ d.listed, d'.status id = d.status id ∧ d'.info id = d.info id) ∧
        (∀ id ∈ arrived, d'.status id = .connected) ∧ (arrived.map d'.info).Sublist found ∧
        d' = { d with created := d'.created, listed := d'.listed }) ∧
      (∀ info ∈ found, ∃ id ∈ d'.listed, (d'.info id).StandsFor info) ∧
      ∀ more : List (Step σ), (∀ id ∈ d'.listed, id ∈ (run more d').listed) →
        (run more d').resolver.devices = .ok found →
          (run more d').discover = (.ok 0, run more d') := by
  intro d d' hopen hlisting
  have agrees : d.Agrees := (agrees_fresh settings resolver).run steps
  have agrees' : d'.Agrees := agrees.after .discover
  obtain ⟨added, hsub, hfold, hall⟩ := foldl_addCounted agrees.numbered found 0
  rw [← addUnknown_eq_foldl, Nat.zero_add] at hfold
  have hdiscover : d.discover = (.ok added.length, d.addAll added) := by
    rw [discover_of_open hopen hlisting, hfold]
  have hd' : d' = d.addAll added := congrArg Prod.snd hdiscover
  have hlisted : d'.listed = d.listed ++ List.range' d.created.length added.length := by
    rw [hd', addAll_eq]
  have hrepresented : ∀ info ∈ found, d'.Represents info := hd' ▸ hall
  refine ⟨⟨List.range' d.created.length added.length, ?_, hlisted, ?_, ?_, ?_, ?_⟩, ?_, ?_⟩
  · rw [hdiscover, List.length_range']
  · intro id hid
    have hmade : id < d.created.length := agrees.numbered id hid
    refine ⟨?_, ?_⟩
    · have hold : d.status id = .connected := (agrees.connected id).mpr hid
      rw [hold, agrees'.connected, hlisted]
      exact List.mem_append_left _ hid
    · exact (MadeAs.after ⟨hmade, rfl⟩ .discover).known
  · intro id hid
    rw [agrees'.connected, hlisted]
    exact List.mem_append_right _ hid
  · have hinfos : d'.infos = d.infos ++ added := by rw [hd', infos_addAll agrees.numbered]
    have hold : d.listed.map d'.info = d.infos := List.map_congr_left fun id hid =>
      (MadeAs.after ⟨agrees.numbered id hid, rfl⟩ .discover).known
    rw [infos, hlisted, List.map_append, hold] at hinfos
    rw [List.append_cancel_left hinfos]
    exact hsub
  · rw [hd', addAll_eq]
  · intro info hinfo
    exact represents_iff.mp (hrepresented info hinfo)
  · intro more stay hagain
    refine discover_of_represented hagain fun info hinfo => ?_
    exact (hrepresented info hinfo).run agrees'.numbered stay

/-- Names without paths, one path twice, and one name under two paths. -/
def mixedDevices : List DeviceInfo := [
  { name := "pda" }, { name := "PDA", objectPath := some "/1" },
  { name := "phone", objectPath := some "/2" }, { name := "tab", objectPath := some "/2" },
  { name := "Phone" }, { name := "phone", objectPath := some "/3" }, { name := "tab" }]

/-- A desktop with one of these devices. -/
def mixedDesktop : Desktop Nat :=
  run [.event (.deviceConnected "/1")] (fresh idleSettings (.fixed mixedDevices))

/-- Another device comes between the two discoveries. -/
def mixedSteps : List (Step Nat) :=
  [.sourceChanges (.fixed [{ name := "tab", objectPath := some "/9" }]),
    .event (.deviceConnected "/9"), .sourceChanges (.fixed mixedDevices)]

theorem discovery_is_complete_mixed :
    mixedDesktop.listed = [0] ∧ mixedDesktop.discover.1 = .ok 3 ∧
      mixedDesktop.discover.2.infos.map DeviceInfo.name = ["PDA", "phone", "phone", "tab"] ∧
      (run mixedSteps mixedDesktop.discover.2).listed = [0, 1, 2, 3, 4] ∧
      (run mixedSteps mixedDesktop.discover.2).discover.1 = .ok 0 := by
  have hbefore : mixedDesktop.listed = [0] := by decide +kernel
  have hafter : mixedDesktop.discover.2.listed = [0, 1, 2, 3] := by decide +kernel
  have hlater : (run mixedSteps mixedDesktop.discover.2).listed = [0, 1, 2, 3, 4] := by
    decide +kernel
  have hsource : mixedDesktop.resolver = .fixed mixedDevices :=
    resolver_after _ (.event (.deviceConnected "/1"))
  have key := discovery_is_complete idleSettings (.fixed mixedDevices)
    [Step.event (.deviceConnected "/1")] mixedDevices (by decide +kernel)
    (congrArg Resolver.devices hsource)
  rw [show run _ _ = mixedDesktop from rfl] at key
  obtain ⟨⟨arrived, hcount, hlisted, -⟩, -, hagain⟩ := key
  have harrived : arrived = [1, 2, 3] := by
    rw [hlisted, hbefore] at hafter
    have hfront : [0] ++ arrived = [0] ++ [1, 2, 3] := hafter
    exact List.append_cancel_left hfront
  have hstay : ∀ id ∈ mixedDesktop.discover.2.listed,
      id ∈ (run mixedSteps mixedDesktop.discover.2).listed := by
    intro id hid
    rw [hafter] at hid
    rw [hlater]
    exact List.mem_append_left [4] hid
  refine ⟨hbefore, ?_, by decide +kernel, hlater, ?_⟩
  · rw [hcount, harrived]
    rfl
  · rw [hagain mixedSteps hstay rfl]

end Desktop

end PocketLink
