import Mathlib.Data.List.Flatten
import PocketLink.Proofs.Desktop.Announcements
import PocketLink.Proofs.Desktop.Cookies

/-!
# What sinks are told

Sinks write down what they are told, and do not use the desktop meanwhile. What they answer makes no
difference to anybody: their log is the list of the changes that single announcements made, each
told to every sink that was registered then, in the order of the cookies (`told_exactly_once`).

No two changes of a run are the same, and none undoes an earlier departure, since devices that come
get new numbers.
-/

namespace PocketLink.Desktop

variable {σ : Type} {d : Desktop σ}

/-! ## Logs -/

/-- The notices that a step calls for. -/
def Step.notices (d : Desktop σ) : Step σ → List (Notice σ)
  | event e => (d.handle e).2
  | _ => []

/-- Takes some steps, and delivers the notices of each before the next. -/
def announce {m : Type → Type} [Monad m] (tell : Notice σ → m (Except Error Unit)) :
    List (Step σ) → Desktop σ → m Unit
  | [], _ => pure ()
  | step :: steps, d => do
    deliver tell (step.notices d)
    announce tell steps (step.after d)

/-- Sinks that write down what they are told, and answer anything. -/
def recording (answer : List (Notice σ) → Notice σ → Except Error Unit) (notice : Notice σ) :
    StateM (List (Notice σ)) (Except Error Unit) :=
  fun log => (answer log notice, log ++ [notice])

/-- What sinks have written down after some steps. -/
def log (answer : List (Notice σ) → Notice σ → Except Error Unit) (steps : List (Step σ))
    (d : Desktop σ) : List (Notice σ) :=
  ((announce (recording answer) steps d).run []).2

/-- The steps of a run, each with the desktop on which it is taken. -/
def visits : List (Step σ) → Desktop σ → List (Desktop σ × Step σ)
  | [], _ => []
  | step :: steps, d => (d, step) :: visits steps (step.after d)

/-- Every notice is written down, whatever sinks have answered before. -/
theorem run_deliver_recording (answer : List (Notice σ) → Notice σ → Except Error Unit)
    (notices log : List (Notice σ)) :
    ((deliver (recording answer) notices).run log).2 = log ++ notices := by
  induction notices generalizing log with
  | nil => exact (List.append_nil log).symm
  | cons notice notices ih =>
    have hfirst : (deliver (recording answer) (notice :: notices)).run log =
        (deliver (recording answer) notices).run (log ++ [notice]) := rfl
    rw [hfirst, ih, List.append_assoc]
    rfl

theorem run_announce_recording (answer : List (Notice σ) → Notice σ → Except Error Unit)
    (steps : List (Step σ)) (d : Desktop σ) (log : List (Notice σ)) :
    ((announce (recording answer) steps d).run log).2 =
      log ++ (visits steps d).flatMap fun visit => visit.2.notices visit.1 := by
  induction steps generalizing d log with
  | nil => exact (List.append_nil log).symm
  | cons step steps ih =>
    have hfirst : (announce (recording answer) (step :: steps) d).run log =
        (announce (recording answer) steps (step.after d)).run
          ((deliver (recording answer) (step.notices d)).run log).2 := rfl
    rw [hfirst, ih, run_deliver_recording, List.append_assoc]
    rfl

/-- What holds at the start and is kept by all steps that are taken holds whenever one is. -/
theorem visits_keep {P : Desktop σ → Prop} {steps : List (Step σ)}
    (after : ∀ visit ∈ visits steps d, P visit.1 → P (visit.2.after visit.1)) (h : P d) :
    ∀ visit ∈ visits steps d, P visit.1 := by
  induction steps generalizing d with
  | nil =>
    intro visit hvisit
    cases hvisit
  | cons step steps ih =>
    intro visit hvisit
    rw [visits, List.forall_mem_cons] at after
    rcases List.mem_cons.mp hvisit with rfl | hlater
    · exact h
    · exact ih after.2 (after.1 h) visit hlater

/-! ## Changes of the list -/

/-- The devices that one desktop lists and another does not. -/
def onlyIn (d other : Desktop σ) : List DeviceId := d.listed.filter (· ∉ other.listed)

/-- How the list is changed by the announcement of a single device. -/
def Step.changes (d : Desktop σ) (step : Step σ) : List (Change × DeviceId) :=
  match step with
  | event (.deviceConnected _) => ((step.after d).onlyIn d).map (.connected, ·)
  | event (.deviceDisconnected _) => (d.onlyIn (step.after d)).map (.disconnected, ·)
  | _ => []

theorem onlyIn_self (d : Desktop σ) : d.onlyIn d = [] := by
  simp [onlyIn, List.filter_eq_nil_iff]

theorem onlyIn_addDevice (h : d.Numbered) (info : DeviceInfo) :
    (d.addDevice info).onlyIn d = [d.created.length] := by
  have hnew : d.created.length ∉ d.listed := fun hmem => Nat.lt_irrefl _ (h _ hmem)
  have hold := onlyIn_self d
  unfold onlyIn at hold ⊢
  rw [listed_addDevice, List.filter_append, hold]
  simp [hnew]

theorem onlyIn_removeWhere {gone : DeviceId} (h : d.Agrees) (hgone : gone ∈ d.listed) :
    d.onlyIn (d.removeWhere (· == gone)) = [gone] := by
  have hnodup : d.listed.Nodup := h.sorted.imp Nat.ne_of_lt
  have hsame : d.onlyIn (d.removeWhere (· == gone)) = d.listed.filter (· == gone) := by
    refine List.filter_congr fun id hid => ?_
    rw [listed_removeWhere_beq]
    by_cases heq : id = gone <;> simp [hid, heq]
  rw [hsame, List.filter_beq, List.count_eq_one_of_mem hnodup hgone]
  rfl

/-- A step changes nothing that is told, or it adds one device, or it removes one. -/
theorem changes_cases (h : d.Agrees) (step : Step σ) :
    (step.changes d = [] ∧ step.notices d = []) ∨
      (step.changes d = [(.connected, d.created.length)] ∧
        step.notices d = d.notices .connected d.created.length ∧
        d.created.length < (step.after d).created.length) ∨
      ∃ gone, step.changes d = [(.disconnected, gone)] ∧
        step.notices d = d.notices .disconnected gone ∧ gone ∈ d.listed ∧
        (step.after d).HasLeft gone := by
  cases step with
  | event e =>
    cases e with
    | deviceConnected path =>
      simp only [Step.changes, Step.notices, Step.after, handle]
      rcases deviceConnected_cases d path with hidle | ⟨info, -, -, hadded⟩
      · rw [hidle, onlyIn_self]
        exact Or.inl ⟨rfl, rfl⟩
      · rw [hadded, onlyIn_addDevice h.numbered]
        exact Or.inr (Or.inl ⟨rfl, rfl, by simp⟩)
    | deviceDisconnected path =>
      simp only [Step.changes, Step.notices, Step.after, handle]
      rcases deviceDisconnected_cases d path with ⟨-, hidle⟩ | ⟨gone, hgone, -, -, hremoved⟩
      · rw [hidle, onlyIn_self]
        exact Or.inl ⟨rfl, rfl⟩
      · rw [hremoved, onlyIn_removeWhere h hgone]
        refine Or.inr (Or.inr ⟨gone, rfl, rfl, hgone, ?_, ?_⟩)
        · rw [length_created_removeWhere]
          exact h.numbered gone hgone
        · rw [listed_removeWhere_beq]
          simp
    | brokerOnline paths => exact Or.inl ⟨rfl, rfl⟩
    | brokerOffline => exact Or.inl ⟨rfl, rfl⟩
  | _ => exact Or.inl ⟨rfl, rfl⟩

theorem notices_eq (h : d.Agrees) (step : Step σ) :
    step.notices d = (step.changes d).flatMap fun change => d.notices change.1 change.2 := by
  rcases changes_cases h step with ⟨hc, hn⟩ | ⟨hc, hn, -⟩ | ⟨gone, hc, hn, -, -⟩
  · rw [hc, hn]
    rfl
  · rw [hc, hn, List.flatMap_singleton]
  · rw [hc, hn, List.flatMap_singleton]

theorem length_changes_le (h : d.Agrees) (step : Step σ) : (step.changes d).length ≤ 1 := by
  rcases changes_cases h step with ⟨hc, -⟩ | ⟨hc, -⟩ | ⟨gone, hc, -⟩ <;> simp [hc]

/-- What arrives has a new number, and what departs was listed. -/
theorem mem_changes (h : d.Agrees) {step : Step σ} {change : Change × DeviceId}
    (hc : change ∈ step.changes d) :
    change = (.connected, d.created.length) ∨ (change.1 = .disconnected ∧ change.2 ∈ d.listed) := by
  rcases changes_cases h step with ⟨hnone, -⟩ | ⟨hone, -⟩ | ⟨gone, hone, -, hgone, -⟩
  · rw [hnone] at hc
    cases hc
  · rw [hone, List.mem_singleton] at hc
    exact Or.inl hc
  · rw [hone, List.mem_singleton] at hc
    rw [hc]
    exact Or.inr ⟨rfl, hgone⟩

/-! ## Changes of a run -/

/-- What sinks may be told in this order: about one device, only that it came and then that it
went. -/
def InOrder (earlier later : Change × DeviceId) : Prop :=
  earlier.2 = later.2 → earlier.1 = .connected ∧ later.1 = .disconnected

theorem made_after {n : Nat} (h : n ≤ d.created.length) (step : Step σ) :
    n ≤ (step.after d).created.length := by
  refine step.keeps (P := fun d => n ≤ d.created.length) ?_ ?_ ?_ h
  · intro d d' hc _ h
    rw [hc]
    exact h
  · intro d info h
    rw [created_addDevice, List.length_append]
    exact Nat.le_add_right_of_le h
  · intro d gone h
    rw [length_created_removeWhere]
    exact h

/-- The changes of a run come in order: a device that came has a number that none has that comes
later, and one that went is not listed any more. -/
theorem inOrder_changes (h : d.Agrees) (steps : List (Step σ)) :
    ((visits steps d).flatMap fun visit => visit.2.changes visit.1).Pairwise InOrder := by
  induction steps generalizing d with
  | nil => exact List.Pairwise.nil
  | cons step steps ih =>
    have hagrees : ∀ visit ∈ visits steps (step.after d), visit.1.Agrees :=
      visits_keep (fun visit _ h => h.after visit.2) (h.after step)
    rw [visits, List.flatMap_cons, List.pairwise_append]
    refine ⟨?_, ih (h.after step), ?_⟩
    · rcases changes_cases h step with ⟨hc, -⟩ | ⟨hc, -⟩ | ⟨gone, hc, -⟩ <;> simp [hc]
    · intro earlier hearlier later hlater hsame
      obtain ⟨visit, hvisit, hlater⟩ := List.mem_flatMap.mp hlater
      rcases changes_cases h step with ⟨hc, -⟩ | ⟨hc, -, hmade⟩ | ⟨gone, hc, -, -, hleft⟩
      · rw [hc] at hearlier
        cases hearlier
      -- A device came: whatever comes later has a greater number.
      · rw [hc, List.mem_singleton] at hearlier
        subst hearlier
        have hgrown : d.created.length + 1 ≤ visit.1.created.length :=
          visits_keep (P := fun d' => d.created.length + 1 ≤ d'.created.length)
            (fun visit _ h => made_after h visit.2) hmade visit hvisit
        rcases mem_changes (hagrees visit hvisit) hlater with rfl | ⟨hgone, -⟩
        · exact absurd hsame (Nat.ne_of_lt hgrown)
        · exact ⟨rfl, hgone⟩
      -- A device went: it has a number already, and is not listed any more.
      · rw [hc, List.mem_singleton] at hearlier
        subst hearlier
        have hstill : visit.1.HasLeft gone :=
          visits_keep (P := fun d' => d'.HasLeft gone) (fun visit _ h => h.after visit.2) hleft
            visit hvisit
        rcases mem_changes (hagrees visit hvisit) hlater with rfl | ⟨-, hlisted⟩
        · exact absurd hsame (Nat.ne_of_lt hstill.made)
        · rw [← hsame] at hlisted
          exact absurd hlisted hstill.unlisted

/-! ## What is told under one cookie -/

theorem filter_notices (sorted : d.cookies.Pairwise (· < ·)) (cookie : UInt32) (change : Change)
    (device : DeviceId) :
    (d.notices change device).filter (·.cookie = cookie) =
      (d.sinks.lookup cookie).toList.map fun sink => { cookie, sink, change, device } := by
  have hnodup : (d.sinks.map Prod.fst).Nodup := sorted.imp UInt32.ne_of_lt
  have hentries := filter_fst_eq d.sinks hnodup cookie
  unfold notices
  rw [List.filter_map]
  have hsame : d.sinks.filter ((fun notice : Notice σ => decide (notice.cookie = cookie)) ∘
      fun entry => { cookie := entry.1, sink := entry.2, change, device }) =
        (d.sinks.lookup cookie).toList.map (cookie, ·) := hentries
  rw [hsame, List.map_map]
  rfl

/-- What a step tells under a cookie: every change, to the sink that is registered under it. -/
def Step.toldUnder (d : Desktop σ) (cookie : UInt32) (step : Step σ) : List (Notice σ) :=
  match d.sinks.lookup cookie with
  | some sink => (step.changes d).map fun (change, device) => { cookie, sink, change, device }
  | none => []

theorem filter_step_notices (h : d.Agrees) (sorted : d.cookies.Pairwise (· < ·)) (cookie : UInt32)
    (step : Step σ) :
    (step.notices d).filter (·.cookie = cookie) = step.toldUnder d cookie := by
  rw [notices_eq h, List.filter_flatMap]
  simp only [filter_notices sorted]
  unfold Step.toldUnder
  cases d.sinks.lookup cookie with
  | none => simp
  | some sink => exact List.map_eq_flatMap.symm

theorem toldUnder_sublist (d : Desktop σ) (cookie : UInt32) (step : Step σ) :
    ((step.toldUnder d cookie).map fun notice => (notice.change, notice.device)).Sublist
      (step.changes d) := by
  unfold Step.toldUnder
  cases d.sinks.lookup cookie with
  | none => exact List.nil_sublist _
  | some sink => simp [Function.comp_def]

/-- Sinks that do not use the desktop while they are told something, whatever they answer, write
down exactly the changes that announcements of single devices made while they were registered: each
one once for each sink, in the order of the steps and then of the cookies. Under one cookie no
change is told twice, and no arrival of a device after its departure. -/
theorem told_exactly_once (settings : Settings) (resolver : Resolver)
    (answer : List (Notice σ) → Notice σ → Except Error Unit) (steps : List (Step σ))
    (ends : ∀ visit ∈ visits steps (fresh settings resolver), visit.2.Ends visit.1) :
    let log := log answer steps (fresh settings resolver)
    let visits := visits steps (fresh settings resolver)
    (log = visits.flatMap fun (d, step) => (step.changes d).flatMap fun (change, device) =>
      d.sinks.map fun (cookie, sink) => { cookie, sink, change, device }) ∧
    (∀ visit ∈ visits,
      (visit.2.changes visit.1).length ≤ 1 ∧ visit.1.cookies.Pairwise (· < ·) ∧
        ∀ cookie, (visit.2.after visit.1).sinks.lookup cookie =
          visit.2.registered visit.1 cookie) ∧
    ∀ cookie,
      (log.filter (·.cookie = cookie) = visits.flatMap fun (d, step) =>
        match d.sinks.lookup cookie with
        | some sink => (step.changes d).map fun (change, device) => { cookie, sink, change, device }
        | none => []) ∧
      (log.filter (·.cookie = cookie)).Pairwise fun earlier later =>
        earlier.device = later.device →
          earlier.change = .connected ∧ later.change = .disconnected := by
  intro log visits
  have agrees : ∀ visit ∈ visits, visit.1.Agrees :=
    visits_keep (fun visit _ h => h.after visit.2) (agrees_fresh settings resolver)
  have sorted : ∀ visit ∈ visits, visit.1.cookies.Pairwise (· < ·) :=
    visits_keep (P := fun d => d.cookies.Pairwise (· < ·))
      (fun visit hvisit h => sorted_after (ends visit hvisit) h) List.Pairwise.nil
  have hlog : log = visits.flatMap fun visit => visit.2.notices visit.1 :=
    run_announce_recording answer steps (fresh settings resolver) []
  have hunder : ∀ cookie, log.filter (·.cookie = cookie) =
      visits.flatMap fun visit => visit.2.toldUnder visit.1 cookie := by
    intro cookie
    rw [hlog, List.filter_flatMap]
    exact List.flatMap_congr fun visit hvisit =>
      filter_step_notices (agrees visit hvisit) (sorted visit hvisit) cookie visit.2
  refine ⟨?_, ?_, ?_⟩
  · rw [hlog]
    exact List.flatMap_congr fun visit hvisit => notices_eq (agrees visit hvisit) visit.2
  · intro visit hvisit
    exact ⟨length_changes_le (agrees visit hvisit) visit.2, sorted visit hvisit,
      lookup_after (ends visit hvisit)⟩
  · intro cookie
    refine ⟨hunder cookie, ?_⟩
    rw [hunder]
    -- The changes that are told under the cookie come in order because all of the run do.
    have hsub : ((visits.flatMap fun visit => visit.2.toldUnder visit.1 cookie).map
        fun notice => (notice.change, notice.device)).Sublist
          (visits.flatMap fun visit => visit.2.changes visit.1) := by
      rw [List.map_flatMap]
      exact List.Sublist.flatMap_right visits fun visit _ =>
        toldUnder_sublist visit.1 cookie visit.2
    have horder := (inOrder_changes (agrees_fresh settings resolver) steps).sublist hsub
    exact List.pairwise_map.mp horder

/-- Two sinks that fail whenever they are told something. The second comes after the device did, and
is gone when the device comes back. -/
theorem told_exactly_once_failing :
    let start : Desktop Nat :=
      fresh idleSettings (.fixed [{ name := "a", objectPath := some "/1" }])
    let steps : List (Step Nat) := [
      .advise 10, .event (.deviceConnected "/1"), .advise 20, .event (.deviceConnected "/1"),
      .event (.deviceDisconnected "/1"), .unadvise 2, .event (.deviceConnected "/1")]
    let log := log (fun _ _ => .error .accessDenied) steps start
    let toldUnder (cookie : UInt32) :=
      (log.filter (·.cookie = cookie)).map fun notice => (notice.change, notice.device)
    (∀ visit ∈ visits steps start, visit.2.Ends visit.1) ∧
      toldUnder 1 = [(.connected, 0), (.disconnected, 0), (.connected, 1)] ∧
      toldUnder 2 = [(.disconnected, 0)] := by
  intro start steps log toldUnder
  have ends : ∀ visit ∈ visits steps start, visit.2.Ends visit.1 := by decide
  obtain ⟨-, -, hunder⟩ := told_exactly_once idleSettings
    (.fixed [{ name := "a", objectPath := some "/1" }]) (fun _ _ => .error .accessDenied) steps ends
  refine ⟨ends, ?_, ?_⟩
  · unfold toldUnder
    rw [(hunder 1).1]
    rfl
  · unfold toldUnder
    rw [(hunder 2).1]
    rfl

end PocketLink.Desktop
