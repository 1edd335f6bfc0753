import PocketLink.Proofs.Desktop.Sinks

/-!
# The order in which cookies are issued

The search for a free cookie starts at the cookie that was issued last, not behind it. Until the
cookies start over, which takes as many registrations as there are cookies, the search ends at once
or after one turn: a last cookie that is in use is passed, and no greater one was ever issued; a
last cookie that was freed meanwhile is issued again.

So the cookies of a run never go down, and they go up at exactly those registrations before which
the sink that was registered last is still there. Only the owner of a last cookie can take away, by
removing its own sink once more, the sink of somebody else.
-/

namespace PocketLink.Desktop

variable {σ : Type} {d : Desktop σ}

/-! ## The cookies of a run -/

def Step.isAdvise : Step σ → Bool
  | advise _ => true
  | _ => false

/-- The cookie that a step issues, if it issues one. -/
def Step.issues (d : Desktop σ) : Step σ → List UInt32
  | advise sink => [(d.advise sink).1]
  | _ => []

/-- The cookies that some steps issue, in the order in which they do. -/
def issued : List (Step σ) → Desktop σ → List UInt32
  | [], _ => []
  | step :: steps, d => step.issues d ++ issued steps (step.after d)

theorem run_append (first second : List (Step σ)) (d : Desktop σ) :
    run (first ++ second) d = run second (run first d) := List.foldl_append

theorem issued_append (first second : List (Step σ)) (d : Desktop σ) :
    issued (first ++ second) d = issued first d ++ issued second (run first d) := by
  induction first generalizing d with
  | nil => rfl
  | cons step first ih =>
    have hrun : run (step :: first) d = run first (step.after d) := rfl
    rw [List.cons_append, issued, issued, ih, hrun, List.append_assoc]

theorem Step.advise_or_quiet (step : Step σ) :
    (∃ sink, step = .advise sink) ∨ step.isAdvise = false := by
  cases step with
  | advise sink => exact Or.inl ⟨sink, rfl⟩
  | _ => exact Or.inr rfl

theorem Step.issues_eq_nil {step : Step σ} (quiet : step.isAdvise = false) (d : Desktop σ) :
    step.issues d = [] := by
  cases step with
  | advise sink => cases quiet
  | _ => rfl

theorem length_issued (steps : List (Step σ)) (d : Desktop σ) :
    (issued steps d).length = steps.countP Step.isAdvise := by
  induction steps generalizing d with
  | nil => rfl
  | cons step steps ih =>
    rw [issued, List.length_append, ih, List.countP_cons, Nat.add_comm]
    cases step <;> rfl

theorem exists_advise_of_issued {steps : List (Step σ)} {cookie : UInt32}
    (h : cookie ∈ issued steps d) : ∃ sink, Step.advise sink ∈ steps := by
  induction steps generalizing d with
  | nil => cases h
  | cons step steps ih =>
    rcases List.mem_append.mp h with hfirst | hlater
    · rcases step.advise_or_quiet with ⟨sink, rfl⟩ | hquiet
      · exact ⟨sink, List.mem_cons_self ..⟩
      · rw [Step.issues_eq_nil hquiet] at hfirst
        cases hfirst
    · obtain ⟨sink, hsink⟩ := ih hlater
      exact ⟨sink, List.mem_cons_of_mem _ hsink⟩

/-- Up to the first registration nothing is issued. -/
theorem exists_first_advise {steps : List (Step σ)} (h : ∃ sink, Step.advise sink ∈ steps) :
    ∃ before sink after, steps = before ++ .advise sink :: after ∧
      ∀ d : Desktop σ, issued before d = [] := by
  induction steps with
  | nil =>
    obtain ⟨sink, hsink⟩ := h
    cases hsink
  | cons step steps ih =>
    rcases step.advise_or_quiet with ⟨sink, rfl⟩ | hquiet
    · exact ⟨[], sink, steps, rfl, fun _ => rfl⟩
    · obtain ⟨sink, hsink⟩ := h
      have hlater : Step.advise sink ∈ steps := by
        rcases List.mem_cons.mp hsink with rfl | hlater
        · cases hquiet
        · exact hlater
      obtain ⟨before, other, after, hsteps, hnone⟩ := ih ⟨sink, hlater⟩
      refine ⟨step :: before, other, after, by rw [hsteps]; rfl, fun d => ?_⟩
      rw [issued, Step.issues_eq_nil hquiet, hnone]
      rfl

/-! ## What a step does to the cookies -/

/-- Nothing but a registration changes which cookie was issued last. -/
theorem lastCookie_after (d : Desktop σ) (step : Step σ) :
    (step.after d).lastCookie = (step.issues d).getLastD d.lastCookie := by
  let P (d' : Desktop σ) := d'.lastCookie = d.lastCookie
  have add : ∀ d' info, P d' → P (d'.addDevice info) := fun _ _ h => h
  have remove : ∀ d' gone, P d' → P (d'.removeWhere gone) := by
    intro d' gone h
    obtain ⟨created, hremoved⟩ := removeWhere_eq d' gone
    rw [hremoved]
    exact h
  cases step with
  | discover => exact discover_keeps (P := P) add rfl
  | event e => exact handle_keeps (P := P) add remove rfl e
  | advise sink => rfl
  | unadvise cookie => rfl
  | shutdown => exact remove d _ rfl
  | sourceChanges resolver => rfl

/-- A cookie comes into use only by being issued. -/
theorem mem_cookies_after {step : Step σ} {cookie : UInt32} (h : cookie ∈ (step.after d).cookies) :
    cookie ∈ d.cookies ∨ cookie ∈ step.issues d := by
  unfold cookies at h ⊢
  rw [sinks_after] at h
  cases step with
  | advise sink =>
    obtain ⟨entry, hentry, rfl⟩ := List.mem_map.mp h
    rcases mem_insertSink.mp hentry with rfl | hold
    · exact Or.inr (List.mem_singleton.mpr rfl)
    · exact Or.inl (List.mem_map_of_mem hold)
  | unadvise gone => exact Or.inl ((List.filter_sublist.map Prod.fst).subset h)
  | shutdown => cases h
  | _ => exact Or.inl h

theorem mem_cookies_run {steps : List (Step σ)} {cookie : UInt32}
    (h : cookie ∈ (run steps d).cookies) : cookie ∈ d.cookies ∨ cookie ∈ issued steps d := by
  induction steps generalizing d with
  | nil => exact Or.inl h
  | cons step steps ih =>
    rw [issued, List.mem_append]
    rcases ih h with hafter | hlater
    · rcases mem_cookies_after hafter with hbefore | hnow
      · exact Or.inl hbefore
      · exact Or.inr (Or.inl hnow)
    · exact Or.inr (Or.inr hlater)

theorem advise_mem_cookies (d : Desktop σ) (sink : σ) :
    (d.advise sink).1 ∈ (d.advise sink).2.cookies :=
  List.mem_map.mpr ⟨_, mem_insertSink.mpr (Or.inl rfl), rfl⟩

theorem unadvise_eq_self_iff {cookie : UInt32} : d.unadvise cookie = d ↔ cookie ∉ d.cookies := by
  refine ⟨fun h hmem => ?_, unadvise_of_not_mem⟩
  rw [← h] at hmem
  obtain ⟨entry, hentry, hcookie⟩ := List.mem_map.mp hmem
  have hne := (List.mem_filter.mp hentry).2
  rw [decide_eq_true_eq] at hne
  exact hne hcookie

/-! ## One registration -/

theorem wrapCookie_of_bounds {c : UInt32} (hpos : 1 ≤ c.toNat) (hle : c.toNat ≤ cookieCount) :
    wrapCookie c = c := by
  unfold cookieCount at hle
  rw [← UInt32.toNat_inj, toNat_wrapCookie]
  exact if_neg (by omega)

theorem advise_of_free (sink : σ) (hpos : 1 ≤ d.lastCookie.toNat)
    (room : d.lastCookie.toNat < cookieCount) (free : d.lastCookie ∉ d.cookies) :
    (d.advise sink).1 = d.lastCookie := by
  have hwrap := wrapCookie_of_bounds hpos (Nat.le_of_lt room)
  have ends : Search d.cookies d.lastCookie 0 (wrapCookie d.lastCookie) := .ends (by rwa [hwrap])
  exact (ends.freeCookie_eq (Nat.zero_le _)).trans hwrap

/-- A last cookie that is in use is passed, and the next one is free if none is greater. -/
theorem advise_of_live (sink : σ) (hpos : 1 ≤ d.lastCookie.toNat)
    (room : d.lastCookie.toNat < cookieCount) (live : d.lastCookie ∈ d.cookies)
    (greatest : ∀ cookie ∈ d.cookies, cookie.toNat ≤ d.lastCookie.toNat) :
    (d.advise sink).1.toNat = d.lastCookie.toNat + 1 := by
  have hwrap := wrapCookie_of_bounds hpos (Nat.le_of_lt room)
  have hnext : (d.lastCookie + 1).toNat = d.lastCookie.toNat + 1 := by
    rw [← hwrap, toNat_wrapCookie_add_one]
  have hwrap' : wrapCookie (d.lastCookie + 1) = d.lastCookie + 1 :=
    wrapCookie_of_bounds (by omega) (by omega)
  have ends : Search d.cookies (d.lastCookie + 1) 0 (wrapCookie (d.lastCookie + 1)) := .ends (by
    intro hmem
    have hle := greatest _ hmem
    rw [hwrap'] at hle
    omega)
  have search := Search.goesOn (c := d.lastCookie) (by rwa [hwrap]) (by rw [hwrap, hnext]) ends
  have hone : 1 ≤ d.cookies.length := List.length_pos_of_mem live
  have hfound : (d.advise sink).1 = wrapCookie (d.lastCookie + 1) := search.freeCookie_eq hone
  rw [hfound, hwrap', hnext]

/-! ## Cookies do not go down -/

/-- A desktop that has issued some cookies, and not come to the last one that there is. -/
structure Counted (earlier : List UInt32) (d : Desktop σ) : Prop where
  last : d.lastCookie = earlier.getLastD 0
  live : ∀ cookie ∈ d.cookies, cookie ∈ earlier
  sorted : earlier.Pairwise (· ≤ ·)
  bounds : ∀ cookie ∈ earlier, 1 ≤ cookie.toNat ∧ cookie.toNat ≤ d.lastCookie.toNat
  few : d.lastCookie.toNat ≤ earlier.length

variable {earlier : List UInt32}

theorem counted_fresh (settings : Settings) (resolver : Resolver) :
    Counted [] (fresh settings resolver : Desktop σ) where
  last := rfl
  live := by
    intro cookie h
    cases h
  sorted := List.Pairwise.nil
  bounds := by
    intro cookie h
    cases h
  few := Nat.le_refl 0

theorem Counted.last_eq {last : UInt32} (h : Counted earlier d) (hlast : last ∈ earlier.getLast?) :
    d.lastCookie = last := by
  rw [h.last, List.getLastD_eq_getLast?, hlast]
  rfl

/-- What is issued next is the number behind the last cookie, or the last cookie again if that is
free. -/
theorem Counted.advise_cases (h : Counted earlier d) (room : earlier.length < cookieCount)
    (sink : σ) :
    ((∀ last ∈ earlier.getLast?, last ∈ d.cookies) ∧
        (d.advise sink).1.toNat = d.lastCookie.toNat + 1) ∨
      ∃ last ∈ earlier.getLast?, last ∉ d.cookies ∧ (d.advise sink).1 = last := by
  have hroom : d.lastCookie.toNat < cookieCount := Nat.lt_of_le_of_lt h.few room
  cases hlast : earlier.getLast? with
  | none =>
    -- No cookie was issued yet, and the search starts over at the least one.
    obtain rfl := List.getLast?_eq_none_iff.mp hlast
    have hzero : d.lastCookie = 0 := h.last
    have hnone : d.cookies = [] := List.eq_nil_iff_forall_not_mem.mpr fun cookie hmem =>
      List.not_mem_nil (h.live cookie hmem)
    refine Or.inl ⟨fun last hmem => absurd hmem (Option.not_mem_none last), ?_⟩
    simp only [advise, hnone, hzero]
    rfl
  | some last =>
    obtain rfl := h.last_eq hlast
    have hpos := (h.bounds _ (List.mem_of_getLast? hlast)).1
    by_cases hlive : d.lastCookie ∈ d.cookies
    · refine Or.inl ⟨fun last hmem => ?_, ?_⟩
      · obtain rfl := Option.some.inj hmem
        exact hlive
      · exact advise_of_live sink hpos hroom hlive fun cookie hmem =>
          (h.bounds cookie (h.live cookie hmem)).2
    · exact Or.inr ⟨d.lastCookie, rfl, hlive, advise_of_free sink hpos hroom hlive⟩

theorem Counted.advise_bounds (h : Counted earlier d) (room : earlier.length < cookieCount)
    (sink : σ) :
    1 ≤ (d.advise sink).1.toNat ∧ d.lastCookie.toNat ≤ (d.advise sink).1.toNat ∧
      (d.advise sink).1.toNat ≤ earlier.length + 1 := by
  have hfew := h.few
  rcases h.advise_cases room sink with ⟨-, hnext⟩ | ⟨last, hlast, -, hagain⟩
  · omega
  · have hpos := (h.bounds last (List.mem_of_getLast? hlast)).1
    rw [hagain]
    rw [h.last_eq hlast] at hfew ⊢
    omega

theorem Counted.after_quiet (h : Counted earlier d) {step : Step σ}
    (quiet : step.isAdvise = false) : Counted earlier (step.after d) := by
  have hnone := Step.issues_eq_nil quiet d
  have hsame : (step.after d).lastCookie = d.lastCookie := by
    rw [lastCookie_after, hnone]
    rfl
  refine ⟨hsame.trans h.last, fun cookie hmem => ?_, h.sorted, by rw [hsame]; exact h.bounds,
    by rw [hsame]; exact h.few⟩
  rcases mem_cookies_after hmem with hold | hnew
  · exact h.live cookie hold
  · rw [hnone] at hnew
    cases hnew

theorem Counted.after_advise (h : Counted earlier d) (room : earlier.length < cookieCount)
    (sink : σ) : Counted (earlier ++ [(d.advise sink).1]) (d.advise sink).2 := by
  obtain ⟨hpos, hle, hfew⟩ := h.advise_bounds room sink
  have hlast : (d.advise sink).2.lastCookie = (d.advise sink).1 := rfl
  have hbelow (cookie : UInt32) (hold : cookie ∈ earlier) :
      cookie.toNat ≤ (d.advise sink).1.toNat :=
    Nat.le_trans (h.bounds cookie hold).2 hle
  refine ⟨List.getLastD_concat.symm, fun cookie hmem => ?_, ?_, fun cookie hmem => ?_, ?_⟩
  · have hmem' : cookie ∈ ((Step.advise sink).after d).cookies := hmem
    rw [List.mem_append]
    exact (mem_cookies_after hmem').imp_left (h.live cookie)
  · refine List.pairwise_append.mpr ⟨h.sorted, List.pairwise_singleton _ _, ?_⟩
    intro cookie hold new hnew
    obtain rfl := List.mem_singleton.mp hnew
    exact UInt32.le_iff_toNat_le.mpr (hbelow cookie hold)
  · rw [hlast]
    rcases List.mem_append.mp hmem with hold | hnew
    · exact ⟨(h.bounds cookie hold).1, hbelow cookie hold⟩
    · obtain rfl := List.mem_singleton.mp hnew
      exact ⟨hpos, Nat.le_refl _⟩
  · rw [hlast, List.length_append]
    exact hfew

theorem Counted.after (h : Counted earlier d) (step : Step σ)
    (room : (earlier ++ step.issues d).length ≤ cookieCount) :
    Counted (earlier ++ step.issues d) (step.after d) := by
  rcases step.advise_or_quiet with ⟨sink, rfl⟩ | hquiet
  · rw [List.length_append] at room
    exact h.after_advise (Nat.lt_of_succ_le room) sink
  · rw [Step.issues_eq_nil hquiet, List.append_nil]
    exact h.after_quiet hquiet

theorem Counted.run (h : Counted earlier d) (steps : List (Step σ))
    (room : (earlier ++ issued steps d).length ≤ cookieCount) :
    Counted (earlier ++ issued steps d) (Desktop.run steps d) := by
  induction steps generalizing earlier d with
  | nil =>
    rw [issued, List.append_nil]
    exact h
  | cons step steps ih =>
    rw [issued, ← List.append_assoc] at room ⊢
    have hfirst : (earlier ++ step.issues d).length ≤ cookieCount := by
      rw [List.length_append] at room
      omega
    exact ih (h.after step hfirst) room

/-! ## Going up, and removing a sink again -/

theorem Counted.advise_above_iff (h : Counted earlier d) (room : earlier.length < cookieCount)
    (sink : σ) :
    ((∀ cookie ∈ earlier, cookie < (d.advise sink).1) ↔
        ∀ last ∈ earlier.getLast?, last ∈ d.cookies) ∧
      ∀ last ∈ earlier.getLast?, last ∉ d.cookies → (d.advise sink).1 = last := by
  rcases h.advise_cases room sink with ⟨hlive, hnext⟩ | ⟨last, hlast, hfree, hagain⟩
  · refine ⟨⟨fun _ => hlive, fun _ cookie hmem => ?_⟩, ?_⟩
    · have hle := (h.bounds cookie hmem).2
      rw [UInt32.lt_iff_toNat_lt]
      omega
    · exact fun last hlast hfree => absurd (hlive last hlast) hfree
  · refine ⟨⟨fun habove => ?_, fun hlive => absurd (hlive last hlast) hfree⟩, ?_⟩
    · have hlt := habove last (List.mem_of_getLast? hlast)
      rw [hagain] at hlt
      exact absurd hlt (UInt32.lt_irrefl last)
    · exact fun other hother _ => hagain.trans (Option.mem_unique hlast hother)

/-- Only the last cookie is issued again: what is issued later is at least that, and all that was
issued before is at most that. -/
theorem Counted.last_of_issued_again (h : Counted earlier d) {steps : List (Step σ)}
    (room : (earlier ++ issued steps d).length ≤ cookieCount) {cookie : UInt32}
    (hissued : cookie ∈ earlier) (hagain : cookie ∈ issued steps d) :
    earlier.getLast? = some cookie := by
  have hsorted := (h.run steps room).sorted
  cases hlast : earlier.getLast? with
  | none =>
    rw [List.getLast?_eq_none_iff.mp hlast] at hissued
    cases hissued
  | some last =>
    have hge : last ≤ cookie :=
      (List.pairwise_append.mp hsorted).2.2 last (List.mem_of_getLast? hlast) cookie hagain
    have hle := (h.bounds cookie hissued).2
    rw [h.last_eq hlast, ← UInt32.le_iff_toNat_le] at hle
    rw [UInt32.le_antisymm hge hle]

/-- A last cookie that was freed is in use again with the first registration to come. -/
theorem Counted.in_use_again (h : Counted earlier d) {later : List (Step σ)}
    (room : earlier.length < cookieCount) {cookie : UInt32} (hlast : cookie ∈ earlier.getLast?)
    (free : cookie ∉ d.cookies) (hadvise : ∃ sink, Step.advise sink ∈ later) :
    ∃ first second, later = first ++ second ∧ cookie ∈ (Desktop.run first d).cookies := by
  obtain ⟨before, sink, after, rfl, hnone⟩ := exists_first_advise hadvise
  have hsame : earlier ++ issued before d = earlier := by rw [hnone, List.append_nil]
  have hcounted : Counted earlier (Desktop.run before d) := by
    have hrun := h.run before (by rw [hsame]; exact Nat.le_of_lt room)
    rwa [hsame] at hrun
  have hstill : cookie ∉ (Desktop.run before d).cookies := by
    intro hmem
    have hnew := (mem_cookies_run hmem).resolve_left free
    rw [hnone] at hnew
    cases hnew
  have hagain : ((Desktop.run before d).advise sink).1 = cookie :=
    (hcounted.advise_above_iff room sink).2 cookie hlast hstill
  refine ⟨before ++ [.advise sink], after, by simp, ?_⟩
  rw [run_append, ← hagain]
  exact advise_mem_cookies _ sink

/-- Removing a cookie again that has been freed takes away a sink at some time later exactly if the
cookie is the last one, and another sink is registered. -/
theorem Counted.removes_later_iff (h : Counted earlier d) {later : List (Step σ)}
    (room : (earlier ++ issued later d).length < cookieCount) {cookie : UInt32}
    (hissued : cookie ∈ earlier) (free : cookie ∉ d.cookies) :
    (∃ first second, later = first ++ second ∧
        (Desktop.run first d).unadvise cookie ≠ Desktop.run first d) ↔
      earlier.getLast? = some cookie ∧ ∃ sink, Step.advise sink ∈ later := by
  simp only [ne_eq, unadvise_eq_self_iff, not_not]
  constructor
  · rintro ⟨first, second, rfl, hmem⟩
    have hagain : cookie ∈ issued first d := (mem_cookies_run hmem).resolve_left free
    rw [issued_append, ← List.append_assoc, List.length_append] at room
    obtain ⟨sink, hsink⟩ := exists_advise_of_issued hagain
    exact ⟨h.last_of_issued_again (by omega) hissued hagain, sink,
      List.mem_append_left second hsink⟩
  · rintro ⟨hlast, hadvise⟩
    rw [List.length_append] at room
    exact h.in_use_again (by omega) hlast free hadvise

theorem counted_run (settings : Settings) (resolver : Resolver) {steps : List (Step σ)}
    (few : steps.countP Step.isAdvise ≤ cookieCount) :
    Counted (issued steps (fresh settings resolver)) (run steps (fresh settings resolver)) :=
  (counted_fresh settings resolver).run steps (by rwa [List.nil_append, length_issued])

/-- The cookies that a run issues never go down, if it registers fewer sinks than there are cookies.
A registration gets a cookie above all earlier ones exactly if the cookie issued last is still in
use; if that was freed, by whatever step, it is issued again. So a cookie that was freed stays free
to the end of the run, and removing it again never takes away a sink, exactly unless it is the one
issued last and another sink is registered. -/
theorem cookies_count_up_iff (settings : Settings) (resolver : Resolver) (steps : List (Step σ))
    (few : steps.countP Step.isAdvise < cookieCount) :
    let start : Desktop σ := fresh settings resolver
    (issued steps start).Pairwise (· ≤ ·) ∧
      (∀ before sink after, steps = before ++ .advise sink :: after →
        let d := run before start
        let cookie := (d.advise sink).1
        ((∀ earlier ∈ issued before start, earlier < cookie) ↔
            ∀ last ∈ (issued before start).getLast?, last ∈ d.cookies) ∧
          ∀ last ∈ (issued before start).getLast?, last ∉ d.cookies → cookie = last) ∧
      ∀ before later, steps = before ++ later →
        let d := run before start
        ∀ cookie ∈ issued before start, cookie ∉ d.cookies →
          ((∃ first second, later = first ++ second ∧
              (run first d).unadvise cookie ≠ run first d) ↔
            (issued before start).getLast? = some cookie ∧ ∃ sink, .advise sink ∈ later) := by
  intro start
  refine ⟨(counted_run settings resolver (Nat.le_of_lt few)).sorted, ?_, ?_⟩
  · rintro before sink after rfl
    rw [List.countP_append, List.countP_cons] at few
    have hbefore : before.countP Step.isAdvise ≤ cookieCount := by omega
    have hcounted := counted_run settings resolver hbefore
    refine hcounted.advise_above_iff ?_ sink
    rw [length_issued]
    omega
  · rintro before later rfl
    intro d cookie hissued hfree
    have hbefore : before.countP Step.isAdvise ≤ cookieCount := by
      rw [List.countP_append] at few
      omega
    have hcounted := counted_run settings resolver hbefore
    refine hcounted.removes_later_iff ?_ hissued hfree
    rwa [← issued_append, length_issued]

/-- Of two sinks both are removed. The cookie of the first stays free, and that of the second goes
to a third sink. -/
theorem cookies_count_up_iff_two_removed :
    let first : List (Step Nat) := [.advise 10, .advise 20, .unadvise 1, .unadvise 2]
    let steps := first ++ [.advise 30]
    let start : Desktop Nat := fresh idleSettings (.fixed [])
    steps.countP Step.isAdvise < cookieCount ∧ issued steps start = [1, 2, 2] ∧
      ((run first start).advise 30).1 = 2 ∧
      (¬ ∀ earlier ∈ issued first start, earlier < ((run first start).advise 30).1) ∧
      (¬ ∃ before after, [.advise 30] = before ++ after ∧
        (run before (run first start)).unadvise 1 ≠ run before (run first start)) ∧
      ∃ before after, [.advise 30] = before ++ after ∧
        (run before (run first start)).unadvise 2 ≠ run before (run first start) := by
  intro first steps start
  have few : steps.countP Step.isAdvise < cookieCount := by decide
  obtain ⟨-, habove, hremoves⟩ := cookies_count_up_iff idleSettings (.fixed []) steps few
  obtain ⟨hcounts, hagain⟩ := habove first 30 [] rfl
  have hlast : 2 ∈ (issued first start).getLast? := by decide
  have hfree : 2 ∉ (run first start).cookies := by decide
  refine ⟨few, by decide, hagain 2 hlast hfree, ?_, ?_, ?_⟩
  · exact fun hall => hfree (hcounts.mp hall 2 hlast)
  · rw [hremoves first [.advise 30] rfl 1 (by decide) (by decide)]
    exact fun h => absurd h.1 (by decide)
  · rw [hremoves first [.advise 30] rfl 2 (by decide) hfree]
    exact ⟨hlast, 30, List.mem_singleton_self _⟩

/-- The only sink is removed, another is registered, and the owner of the first removes it again. -/
theorem not_cookies_count_up :
    let steps : List (Step Nat) := [.advise 10, .unadvise 1, .advise 20]
    let start : Desktop Nat := fresh idleSettings (.fixed [])
    steps.countP Step.isAdvise < cookieCount ∧
      (¬ (issued steps start).Pairwise fun earlier later => earlier < later) ∧
      (run steps start).sinks = [(1, 20)] ∧ ((run steps start).unadvise 1).sinks = [] := by
  intro steps start
  have hissued : issued steps start = [1, 1] := by decide
  refine ⟨by decide, ?_, by decide, by decide⟩
  rw [hissued]
  decide

end PocketLink.Desktop
