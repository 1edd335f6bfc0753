import PocketLink.Desktop.Session
import PocketLink.Proofs.Desktop.Run

/-!
# Membership in the list of devices

The status of a device is kept with the device, where enumerators and sessions see it, and the list
of the connected devices is kept by the desktop. The two agree after every step: three kinds of
steps add devices and three remove some, and all six do it by adding one device at the end of the
list or by removing some of the listed ones (`Step.keeps`).

Devices are numbered in the order in which they arrive, so a list in the order of arrival is one of
increasing numbers, and a device that has left it cannot come back: what comes gets a new number.
-/

namespace PocketLink.Desktop

variable {σ : Type} {d : Desktop σ} {id : DeviceId}

/-! ## Whatever the steps do to the devices -/

/-- What adding a device keeps and removing devices keeps, every step keeps, if it is about the
devices alone. -/
theorem Step.keeps {P : Desktop σ → Prop}
    (same : ∀ d d' : Desktop σ, d'.created = d.created → d'.listed = d.listed → P d → P d')
    (add : ∀ d info, P d → P (d.addDevice info))
    (remove : ∀ d gone, P d → P (d.removeWhere gone)) (h : P d) (step : Step σ) :
    P (step.after d) := by
  cases step with
  | discover => exact discover_keeps add h
  | event e => exact handle_keeps add remove h e
  | advise sink => exact same d _ rfl rfl h
  | unadvise cookie => exact same d _ rfl rfl h
  | shutdown => exact same (d.removeWhere fun _ => true) _ rfl rfl (remove d _ h)
  | sourceChanges resolver => exact same d _ rfl rfl h

theorem run_keeps {P : Desktop σ → Prop} (after : ∀ d (step : Step σ), P d → P (step.after d))
    (h : P d) (steps : List (Step σ)) : P (run steps d) := by
  induction steps generalizing d with
  | nil => exact h
  | cons step steps ih => exact ih (after d step h)

theorem status_congr {d' : Desktop σ} (h : d'.created = d.created) (id : DeviceId) :
    d'.status id = d.status id := by
  unfold status device?
  rw [h]

/-! ## The status of a device -/

theorem status_eq_disconnected_iff : d.status id = .disconnected ↔ d.status id ≠ .connected := by
  cases d.status id <;> simp

/-- No device but those that were made is connected. -/
theorem lt_of_status (h : d.status id = .connected) : id < d.created.length := by
  refine Nat.lt_of_not_le fun hge => ?_
  have hnone : d.created[id]? = none := List.getElem?_eq_none hge
  simp [status, device?, hnone] at h

theorem status_addDevice (d : Desktop σ) (info : DeviceInfo) (id : DeviceId) :
    (d.addDevice info).status id =
      if id = d.created.length then .connected else d.status id := by
  unfold status device?
  rw [created_addDevice]
  rcases Nat.lt_trichotomy id d.created.length with hlt | heq | hgt
  · rw [List.getElem?_append_left hlt, if_neg (Nat.ne_of_lt hlt)]
  · simp [heq]
  · rw [if_neg (Nat.ne_of_gt hgt), List.getElem?_eq_none (by simp; omega),
      List.getElem?_eq_none (Nat.le_of_lt hgt)]

theorem status_markGone (d : Desktop σ) (gone id : DeviceId) :
    (d.markGone gone).status id = if gone = id then .disconnected else d.status id := by
  simp only [status, device?, markGone, List.getElem?_modify]
  by_cases h : gone = id
  · cases d.created[id]? <;> simp [h]
  · cases d.created[id]? <;> simp [h]

theorem status_foldl_markGone (ids : List DeviceId) (d : Desktop σ) (id : DeviceId) :
    (ids.foldl markGone d).status id = if id ∈ ids then .disconnected else d.status id := by
  induction ids generalizing d with
  | nil => simp
  | cons gone ids ih =>
    rw [List.foldl_cons, ih, status_markGone]
    by_cases hmem : id ∈ ids
    · simp [hmem]
    · by_cases heq : gone = id
      · simp [heq]
      · simp [hmem, heq, Ne.symm heq]

theorem status_removeWhere (d : Desktop σ) (gone : DeviceId → Bool) (id : DeviceId) :
    (d.removeWhere gone).status id =
      if id ∈ d.listed ∧ gone id = true then .disconnected else d.status id := by
  have h := status_foldl_markGone (d.listed.filter gone) d id
  simp only [List.mem_filter] at h
  exact h

/-! ## Status and list agree -/

/-- The connected devices are the listed ones, and they are listed in the order of their numbers. -/
structure Agrees (d : Desktop σ) : Prop where
  connected : ∀ id, d.status id = .connected ↔ id ∈ d.listed
  sorted : d.listed.Pairwise (· < ·)

theorem Agrees.numbered (h : d.Agrees) : d.Numbered := by
  intro id hid
  exact lt_of_status ((h.connected id).mpr hid)

theorem Agrees.congr {d' : Desktop σ} (hc : d'.created = d.created) (hl : d'.listed = d.listed)
    (h : d.Agrees) : d'.Agrees := by
  constructor
  · intro id
    rw [status_congr hc, hl]
    exact h.connected id
  · rw [hl]
    exact h.sorted

theorem Agrees.addDevice (h : d.Agrees) (info : DeviceInfo) : (d.addDevice info).Agrees := by
  constructor
  · intro id
    rw [status_addDevice, listed_addDevice, List.mem_append, List.mem_singleton]
    by_cases hid : id = d.created.length
    · simp [hid]
    · simp [hid, h.connected id]
  · rw [listed_addDevice, List.pairwise_append]
    refine ⟨h.sorted, List.pairwise_singleton _ _, ?_⟩
    intro old hold new hnew
    rw [List.mem_singleton] at hnew
    rw [hnew]
    exact h.numbered old hold

theorem Agrees.removeWhere (h : d.Agrees) (gone : DeviceId → Bool) :
    (d.removeWhere gone).Agrees := by
  constructor
  · intro id
    rw [status_removeWhere, listed_removeWhere, List.mem_filter]
    by_cases hgone : id ∈ d.listed ∧ gone id = true
    · simp [hgone]
    -- A device that is not removed is listed afterwards exactly if it was before.
    · rw [if_neg hgone, h.connected id]
      constructor
      · intro hid
        have hstays : gone id = false := by
          rw [← Bool.not_eq_true]
          exact fun hg => hgone ⟨hid, hg⟩
        exact ⟨hid, by rw [hstays]; rfl⟩
      · exact And.left
  · rw [listed_removeWhere]
    exact h.sorted.sublist List.filter_sublist

theorem Agrees.after (h : d.Agrees) (step : Step σ) : (step.after d).Agrees :=
  step.keeps (fun _ _ hc hl h => h.congr hc hl) (fun _ info h => h.addDevice info)
    (fun _ gone h => h.removeWhere gone) h

theorem Agrees.run (h : d.Agrees) (steps : List (Step σ)) : (Desktop.run steps d).Agrees :=
  run_keeps (fun _ step h => h.after step) h steps

theorem agrees_fresh (settings : Settings) (resolver : Resolver) :
    (fresh settings resolver : Desktop σ).Agrees := by
  constructor
  · intro id
    simp [status, device?, fresh]
  · exact List.Pairwise.nil

/-! ## Devices that have left -/

/-- The device was made, and it is not in the list. -/
structure HasLeft (id : DeviceId) (d : Desktop σ) : Prop where
  made : id < d.created.length
  unlisted : id ∉ d.listed

theorem HasLeft.addDevice (h : d.HasLeft id) (info : DeviceInfo) :
    (d.addDevice info).HasLeft id := by
  constructor
  · rw [created_addDevice, List.length_append]
    exact Nat.lt_add_right _ h.made
  · rw [listed_addDevice, List.mem_append, List.mem_singleton]
    rintro (hold | hnew)
    · exact h.unlisted hold
    · exact Nat.ne_of_lt h.made hnew

theorem HasLeft.removeWhere (h : d.HasLeft id) (gone : DeviceId → Bool) :
    (d.removeWhere gone).HasLeft id := by
  constructor
  · rw [length_created_removeWhere]
    exact h.made
  · rw [listed_removeWhere, List.mem_filter]
    exact fun hid => h.unlisted hid.1

theorem HasLeft.after (h : d.HasLeft id) (step : Step σ) : (step.after d).HasLeft id :=
  step.keeps (fun _ _ hc hl h => ⟨by rw [hc]; exact h.made, by rw [hl]; exact h.unlisted⟩)
    (fun _ info h => h.addDevice info) (fun _ gone h => h.removeWhere gone) h

theorem HasLeft.run (h : d.HasLeft id) (steps : List (Step σ)) :
    (Desktop.run steps d).HasLeft id :=
  run_keeps (fun _ step h => h.after step) h steps

/-! ## The order of the list -/

/-- Whether a step removes a listed device. -/
def Step.removes (d : Desktop σ) : Step σ → DeviceId → Bool
  | event (.deviceDisconnected path), id => d.withPath? path == some id
  | event .brokerOffline, id => d.isBrokered id
  | shutdown, _ => true
  | _, _ => false

/-- One list continues another with devices that are new to a desktop. -/
def Continues (d : Desktop σ) (before after : List DeviceId) : Prop :=
  ∃ arrived, after = before ++ arrived ∧ ∀ id ∈ arrived, d.created.length ≤ id

theorem continues_refl (d : Desktop σ) (listed : List DeviceId) : Continues d listed listed :=
  ⟨[], (List.append_nil _).symm, by simp⟩

/-- Devices were added to a desktop, behind those that it had. -/
structure Extends (d d' : Desktop σ) : Prop where
  grown : d.created.length ≤ d'.created.length
  listed : Continues d d.listed d'.listed

theorem extends_refl (d : Desktop σ) : d.Extends d := ⟨Nat.le_refl _, continues_refl d _⟩

theorem Extends.addDevice {d' : Desktop σ} (h : d.Extends d') (info : DeviceInfo) :
    d.Extends (d'.addDevice info) := by
  obtain ⟨hgrown, arrived, hlisted, hnew⟩ := h
  refine ⟨?_, arrived ++ [d'.created.length], ?_, ?_⟩
  · rw [created_addDevice, List.length_append]
    exact Nat.le_add_right_of_le hgrown
  · rw [listed_addDevice, hlisted, List.append_assoc]
  · intro id hid
    rw [List.mem_append, List.mem_singleton] at hid
    rcases hid with hid | rfl
    · exact hnew id hid
    · exact hgrown

theorem continues_of_extends {step : Step σ} (hnone : ∀ id, step.removes d id = false)
    (h : d.Extends (step.after d)) :
    Continues d (d.listed.filter fun id => !step.removes d id) (step.after d).listed := by
  have hall : (d.listed.filter fun id => !step.removes d id) = d.listed := by simp [hnone]
  rw [hall]
  exact h.listed

/-- A step removes what it removes, keeps the order of the rest, and puts what is new behind it. -/
theorem continues_after (d : Desktop σ) (step : Step σ) :
    Continues d (d.listed.filter fun id => !step.removes d id) (step.after d).listed := by
  have add : ∀ d' info, d.Extends d' → d.Extends (d'.addDevice info) := fun _ info h =>
    h.addDevice info
  cases step with
  | discover =>
    exact continues_of_extends (fun _ => rfl) (discover_keeps (P := d.Extends) add (extends_refl d))
  | event e =>
    cases e with
    | deviceConnected path =>
      refine continues_of_extends (fun _ => rfl) ?_
      show d.Extends (d.deviceConnected path).1
      unfold deviceConnected
      split
      · exact extends_refl d
      · next info _ =>
        split
        · exact extends_refl d
        · exact (extends_refl d).addDevice info
    | deviceDisconnected path =>
      simp only [Step.removes, Step.after, handle, deviceDisconnected]
      cases hfound : d.withPath? path with
      | none =>
        have hall : (d.listed.filter fun id => !(none == some id)) = d.listed :=
          List.filter_eq_self.mpr fun _ _ => rfl
        rw [hall]
        exact continues_refl d _
      | some gone =>
        have hsame : ∀ id, (some gone == some id) = (id == gone) := fun id => by
          rw [Option.some_beq_some, Bool.beq_comm]
        simp only [hsame]
        exact continues_refl d _
    | brokerOnline paths =>
      refine continues_of_extends (fun _ => rfl) ?_
      show d.Extends (d.brokerOnline paths)
      rw [brokerOnline_eq]
      split
      · exact extends_refl d
      · exact foldl_addUnless (fun d' info h _ => add d' info h) (extends_refl d) _
    | brokerOffline => exact continues_refl d _
  | advise sink =>
    exact continues_of_extends (fun _ => rfl) ⟨Nat.le_refl _, continues_refl d _⟩
  | unadvise cookie =>
    exact continues_of_extends (fun _ => rfl) ⟨Nat.le_refl _, continues_refl d _⟩
  | shutdown => exact continues_refl d _
  | sourceChanges resolver =>
    exact continues_of_extends (fun _ => rfl) ⟨Nat.le_refl _, continues_refl d _⟩

theorem isBrokered_iff :
    d.isBrokered id = true ↔
      ∃ path, (d.info id).objectPath = some path ∧ brokerPrefix.toList <+: path.toList := by
  unfold isBrokered
  split
  · next path hpath => simp [hpath]
  · next hnone => simp [hnone]

/-! ## Sessions -/

/-- A session can be opened on a device exactly while it is connected. -/
theorem createSession_ok_iff :
    (∃ session, d.createSession id = .ok session) ↔ d.status id = .connected := by
  unfold createSession
  cases d.status id <;> simp

/-- After any steps the connected devices, on which sessions can be opened, are the listed ones. A
device that has left the list is disconnected and never listed again. The devices are listed in the
order in which they came: a step puts new ones at the end and keeps all others in their order, but
for those that it removes. When the broker goes, these are the devices with a path of the broker. -/
theorem listed_iff_connected (settings : Settings) (resolver : Resolver) (steps : List (Step σ)) :
    let d : Desktop σ := run steps (fresh settings resolver)
    (∀ id, (d.status id = .connected ↔ id ∈ d.listed) ∧
      ((∃ session, d.createSession id = .ok session) ↔ id ∈ d.listed)) ∧
    (∀ id, id < d.created.length → id ∉ d.listed → ∀ more : List (Step σ),
      (run more d).status id = .disconnected ∧ id ∉ (run more d).listed) ∧
    d.listed.Pairwise (· < ·) ∧
    (∀ step : Step σ, ∃ arrived,
      (step.after d).listed = (d.listed.filter fun id => !step.removes d id) ++ arrived ∧
        ∀ id ∈ arrived, d.created.length ≤ id) ∧
    ∀ id, id ∈ (d.handle .brokerOffline).1.listed ↔
      id ∈ d.listed ∧
        ¬ ∃ path, (d.info id).objectPath = some path ∧ brokerPrefix.toList <+: path.toList := by
  intro d
  have h : d.Agrees := (agrees_fresh settings resolver).run steps
  refine ⟨?_, ?_, h.sorted, continues_after d, ?_⟩
  · intro id
    exact ⟨h.connected id, createSession_ok_iff.trans (h.connected id)⟩
  · intro id hmade hunlisted more
    have hleft := (HasLeft.mk hmade hunlisted).run more
    refine ⟨?_, hleft.unlisted⟩
    rw [status_eq_disconnected_iff]
    exact fun hconnected => hleft.unlisted (((h.run more).connected id).mp hconnected)
  · intro id
    have hoffline :
        (d.handle .brokerOffline).1.listed = d.listed.filter fun id => !d.isBrokered id :=
      listed_removeWhere d _
    rw [hoffline, List.mem_filter, Bool.not_eq_true', ← Bool.not_eq_true, isBrokered_iff]

/-- Of three devices one is announced to be gone, and stays so. When the broker goes, the one that
it had announced goes too, and the one that it knows nothing of stays. -/
theorem listed_iff_connected_three :
    let resolver : Resolver := .fixed [{ name := "a", objectPath := some "/usb/1" },
      { name := "b", objectPath := some "/usb/2" },
      { name := "c", objectPath := some "/org/synce/dccm/3" }]
    let d : Desktop Nat :=
      run [.discover, .event (.deviceDisconnected "/usb/2")] (fresh idleSettings resolver)
    d.listed = [0, 2] ∧ d.status 0 = .connected ∧ (∃ session, d.createSession 0 = .ok session) ∧
      (∀ more : List (Step Nat), (run more d).status 1 = .disconnected ∧
        1 ∉ (run more d).listed) ∧
      (∀ id, id ∈ (d.handle .brokerOffline).1.listed ↔ id = 0) := by
  intro resolver d
  have hlisted : d.listed = [0, 2] := by decide +kernel
  obtain ⟨hconnected, hgone, -, -, hoffline⟩ :=
    listed_iff_connected idleSettings resolver
      ([.discover, .event (.deviceDisconnected "/usb/2")] : List (Step Nat))
  have hfirst : 0 ∈ d.listed := by simp [hlisted]
  refine ⟨hlisted, (hconnected 0).1.mpr hfirst, (hconnected 0).2.mpr hfirst, fun more => ?_, ?_⟩
  · exact hgone 1 (by decide +kernel) (by decide +kernel) more
  · intro id
    refine (hoffline id).trans ?_
    change id ∈ d.listed ∧ _ ↔ _
    rw [hlisted]
    constructor
    · rintro ⟨hid, hpath⟩
      rcases List.mem_cons.mp hid with rfl | hid
      · rfl
      · cases List.mem_singleton.mp hid
        exact absurd ⟨"/org/synce/dccm/3", by decide +kernel, by decide +kernel⟩ hpath
    · rintro rfl
      refine ⟨List.mem_cons_self .., ?_⟩
      rintro ⟨path, hpath, hprefix⟩
      cases (show some "/usb/1" = some path from hpath)
      revert hprefix
      decide +kernel

end PocketLink.Desktop
