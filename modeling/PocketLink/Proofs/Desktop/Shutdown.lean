import PocketLink.Desktop.Enumerator
import PocketLink.Proofs.Desktop.Notification

/-!
# A desktop that was shut down

A desktop that is shut down has no devices and gets none any more, so no operation on it tells a
sink anything (`IsShut.after`).

A sink may use the desktop while it is told something, and so it may shut it down while notices are
still to be delivered. So a desktop is followed here together with these notices: in each turn it is
used by somebody or the next notice is delivered. What a use calls for goes in front of what is
still to come, since a sink that uses the desktop goes on only when all sinks were told. After the
shutdown no notice is added, but those that are there are delivered (`shutdown_is_final`).
-/

namespace PocketLink.Desktop

variable {σ : Type} {d : Desktop σ}

/-! ## Operations on a desktop that was shut down -/

/-- The desktop takes no devices any more, and it has none. -/
structure IsShut (d : Desktop σ) : Prop where
  closed : d.isClosed = true
  empty : d.listed = []

theorem isShut_shutdown (d : Desktop σ) : d.shutdown.IsShut := ⟨rfl, listed_shutdown d⟩

theorem IsShut.removeWhere (h : d.IsShut) (gone : DeviceId → Bool) :
    (d.removeWhere gone).IsShut := by
  obtain ⟨created, hremoved⟩ := removeWhere_eq d gone
  rw [hremoved]
  refine ⟨h.closed, ?_⟩
  simp [h.empty]

/-- Nothing is found, and nothing is added. -/
theorem IsShut.discover (h : d.IsShut) :
    d.discover = (d.resolver.devices.map fun _ => 0, d) := by
  unfold Desktop.discover
  cases d.resolver.devices with
  | error e => rfl
  | ok found =>
    show (if d.isClosed then _ else _) = _
    rw [if_pos h.closed]
    rfl

theorem IsShut.withPath? (h : d.IsShut) (path : String) : d.withPath? path = none := by
  unfold Desktop.withPath?
  rw [h.empty]
  rfl

theorem IsShut.find (h : d.IsShut) (id : Guid) : d.find id = .error .noMoreDevices := by
  unfold Desktop.find
  rw [h.empty]
  rfl

/-- Nothing that discovery announces changes the list or is told to a sink. -/
theorem IsShut.handle (h : d.IsShut) (e : DiscoveryEvent) :
    (d.handle e).1.IsShut ∧ (d.handle e).2 = [] := by
  cases e with
  | deviceConnected path =>
    show (d.deviceConnected path).1.IsShut ∧ (d.deviceConnected path).2 = []
    unfold deviceConnected
    split
    · exact ⟨h, rfl⟩
    · rw [if_pos (by rw [h.closed]; rfl)]
      exact ⟨h, rfl⟩
  | deviceDisconnected path =>
    show (d.deviceDisconnected path).1.IsShut ∧ (d.deviceDisconnected path).2 = []
    unfold deviceDisconnected
    rw [h.withPath?]
    exact ⟨h, rfl⟩
  | brokerOnline paths =>
    have hclosed : d.brokerOnline paths = d := by rw [brokerOnline_eq, if_pos h.closed]
    refine ⟨?_, rfl⟩
    show (d.brokerOnline paths).IsShut
    rw [hclosed]
    exact h
  | brokerOffline => exact ⟨h.removeWhere _, rfl⟩

theorem IsShut.after (h : d.IsShut) (step : Step σ) :
    (step.after d).IsShut ∧ step.notices d = [] := by
  cases step with
  | discover =>
    unfold Step.after
    rw [h.discover]
    exact ⟨h, rfl⟩
  | event e => exact h.handle e
  | advise sink => exact ⟨⟨h.closed, h.empty⟩, rfl⟩
  | unadvise cookie => exact ⟨⟨h.closed, h.empty⟩, rfl⟩
  | shutdown => exact ⟨isShut_shutdown d, rfl⟩
  | sourceChanges resolver => exact ⟨⟨h.closed, h.empty⟩, rfl⟩

/-! ## Desktops with notices on the way -/

/-- A desktop, the notices that are still to be delivered and those that were delivered. -/
structure Delivery (σ : Type) where
  desktop : Desktop σ
  pending : List (Notice σ) := []
  told : List (Notice σ) := []

/-- What happens next around a desktop. -/
inductive Turn (σ : Type) where
  /-- Somebody uses the desktop: a sink that is being told something, if notices are pending. -/
  | use (step : Step σ)
  /-- The next notice is delivered. -/
  | tell

def Turn.after (s : Delivery σ) : Turn σ → Delivery σ
  | use step =>
    { s with
      desktop := step.after s.desktop
      pending := step.notices s.desktop ++ s.pending }
  | tell =>
    match s.pending with
    | [] => s
    | notice :: rest => { s with pending := rest, told := s.told ++ [notice] }

/-- A desktop and its notices after some turns. -/
def Delivery.run (turns : List (Turn σ)) (s : Delivery σ) : Delivery σ := turns.foldl Turn.after s

theorem Delivery.run_append (first second : List (Turn σ)) (s : Delivery σ) :
    s.run (first ++ second) = (s.run first).run second := List.foldl_append

/-- Notices are delivered in turns. A sink that is told one may use the desktop in any way, and ends
when all that it caused is delivered; then so does the whole delivery. So what holds after all
turns, which is what is shown below, holds of a delivery to such sinks. -/
theorem run_deliver {tell : Notice σ → StateM (Delivery σ) (Except Error Unit)}
    (telling : ∀ notice s rest, s.pending = notice :: rest →
      ∃ uses, ((tell notice).run s).2 = s.run (.tell :: uses) ∧
        ((tell notice).run s).2.pending = rest)
    (notices rest : List (Notice σ)) (s : Delivery σ) (h : s.pending = notices ++ rest) :
    ∃ turns, ((deliver tell notices).run s).2 = s.run turns ∧
      ((deliver tell notices).run s).2.pending = rest := by
  induction notices generalizing s with
  | nil => exact ⟨[], rfl, h⟩
  | cons notice notices ih =>
    obtain ⟨uses, hfirst, hpending⟩ := telling notice s (notices ++ rest) h
    obtain ⟨turns, hrest, hend⟩ := ih ((tell notice).run s).2 hpending
    have hboth : ((deliver tell (notice :: notices)).run s).2 =
        ((deliver tell notices).run ((tell notice).run s).2).2 := rfl
    refine ⟨.tell :: uses ++ turns, ?_, ?_⟩
    · rw [hboth, hrest, hfirst, Delivery.run_append]
    · rw [hboth]
      exact hend

theorem Turn.agrees {s : Delivery σ} (h : s.desktop.Agrees) (turn : Turn σ) :
    (turn.after s).desktop.Agrees := by
  cases turn with
  | use step => exact Agrees.after h step
  | tell =>
    simp only [Turn.after]
    split
    · exact h
    · exact h

theorem Delivery.agrees {s : Delivery σ} (h : s.desktop.Agrees) (turns : List (Turn σ)) :
    (s.run turns).desktop.Agrees := by
  induction turns generalizing s with
  | nil => exact h
  | cons turn turns ih => exact ih (turn.agrees h)

/-- What was pending is told in its order as far as it is not pending any more, and nothing else. -/
def Drains (s t : Delivery σ) : Prop :=
  ∃ delivered, t.told = s.told ++ delivered ∧ s.pending = delivered ++ t.pending

theorem drains_refl (s : Delivery σ) : Drains s s := ⟨[], (List.append_nil _).symm, rfl⟩

theorem Drains.trans {s t u : Delivery σ} (h : Drains s t) (h' : Drains t u) : Drains s u := by
  obtain ⟨first, htold, hpending⟩ := h
  obtain ⟨second, htold', hpending'⟩ := h'
  refine ⟨first ++ second, ?_, ?_⟩
  · rw [htold', htold, List.append_assoc]
  · rw [hpending, hpending', List.append_assoc]

/-- Using a desktop that was shut down adds no notice to those that are pending. -/
theorem Turn.drains {s : Delivery σ} (h : s.desktop.IsShut) (turn : Turn σ) :
    (turn.after s).desktop.IsShut ∧ Drains s (turn.after s) := by
  cases turn with
  | use step =>
    obtain ⟨hshut, hnone⟩ := h.after step
    refine ⟨hshut, [], (List.append_nil _).symm, ?_⟩
    simp [Turn.after, hnone]
  | tell =>
    simp only [Turn.after]
    split
    · exact ⟨h, drains_refl s⟩
    · next notice rest hpending => exact ⟨h, [notice], rfl, hpending⟩

theorem Delivery.drains {s : Delivery σ} (h : s.desktop.IsShut) (turns : List (Turn σ)) :
    (s.run turns).desktop.IsShut ∧ Drains s (s.run turns) := by
  induction turns generalizing s with
  | nil => exact ⟨h, drains_refl s⟩
  | cons turn turns ih =>
    obtain ⟨hshut, hfirst⟩ := turn.drains h
    obtain ⟨hend, hrest⟩ := ih hshut
    exact ⟨hend, hfirst.trans hrest⟩

/-- Whatever happened before and happens after a shutdown, which may come while notices are on the
way: there are no devices any more, none is found or discovered, no session can be opened on any
device that there was, and no operation tells any sink anything. What was on the way is still
delivered, as far as it comes to its turn, and nothing else. -/
theorem shutdown_is_final (settings : Settings) (resolver : Resolver)
    (before after : List (Turn σ)) :
    let s : Delivery σ := Delivery.run before { desktop := fresh settings resolver }
    let t := s.run (.use .shutdown :: after)
    t.desktop.listed = [] ∧
    t.desktop.enumerate.isEmpty = true ∧
    (∀ id, t.desktop.find id = .error .noMoreDevices) ∧
    t.desktop.discover = (t.desktop.resolver.devices.map fun _ => 0, t.desktop) ∧
    (∀ id, t.desktop.createSession id = .error .noMoreDevices) ∧
    (∀ step : Step σ, step.notices t.desktop = []) ∧
    ∃ delivered, t.told = s.told ++ delivered ∧ s.pending = delivered ++ t.pending := by
  intro s t
  have agrees : t.desktop.Agrees := by
    have hs : s.desktop.Agrees := Delivery.agrees (agrees_fresh settings resolver) before
    exact Delivery.agrees hs _
  have hshut : ((Turn.use Step.shutdown).after s).desktop.IsShut := isShut_shutdown s.desktop
  have hend : t.desktop.IsShut := (Delivery.drains hshut after).1
  have hdrains : Drains s t := (Delivery.drains hshut after).2
  refine ⟨hend.empty, ?_, hend.find, hend.discover, ?_, fun step => (hend.after step).2, hdrains⟩
  · show t.desktop.listed.isEmpty = true
    rw [hend.empty]
    rfl
  · intro id
    have hgone : t.desktop.status id = .disconnected := by
      rw [status_eq_disconnected_iff, ne_eq, agrees.connected id, hend.empty]
      exact List.not_mem_nil
    unfold createSession
    rw [hgone]

/-- It is not so that no sink is told anything after a shutdown: the first of two sinks shuts the
desktop down while it is told of a device, and then the second one is told of it. -/
theorem not_silent_after_shutdown :
    ¬ ∀ (settings : Settings) (resolver : Resolver) (before after : List (Turn Nat)),
      let s : Delivery Nat := Delivery.run before { desktop := fresh settings resolver }
      (s.run (.use .shutdown :: after)).told = s.told := by
  intro claim
  have hsilent := claim idleSettings (.fixed [{ name := "a", objectPath := some "/1" }])
    [.use (.advise 1), .use (.advise 2), .use (.event (.deviceConnected "/1")), .tell] [.tell]
  exact absurd (congrArg List.length hsilent) (by decide)

end PocketLink.Desktop
