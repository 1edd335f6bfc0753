import Mathlib.Data.List.Nodup
import Mathlib.Data.List.Perm.Subperm
import PocketLink.Proofs.Desktop.Run

/-!
# Cookies and the table of sinks

A sink is registered under a cookie that is not in use. The search tries one cookie after another,
starts over behind the last one that can be issued, and ends as long as there are fewer sinks than
cookies (`freeCookie_not_mem`). So the table of sinks has its cookies in strictly increasing order
after every run of steps that come to an end.
-/

namespace PocketLink.Desktop

/-! ## The search for a free cookie -/

/-- The number of cookies that can be issued. -/
def cookieCount : Nat := 0xFFFFFFFE

/-- The cookie that the search comes to after some steps, if all before it are in use. -/
def cookieAt (c : UInt32) : Nat → UInt32
  | 0 => wrapCookie c
  | k + 1 => cookieAt (wrapCookie c + 1) k

theorem toNat_wrapCookie (c : UInt32) :
    (wrapCookie c).toNat = if c.toNat = 0 ∨ c.toNat = 0xFFFFFFFF then 1 else c.toNat := by
  have hzero : c = 0 ↔ c.toNat = 0 := UInt32.toNat_inj.symm
  have hmax : c = 0xFFFFFFFF ↔ c.toNat = 0xFFFFFFFF := UInt32.toNat_inj.symm
  unfold wrapCookie
  simp only [hzero, hmax]
  split <;> rfl

theorem wrapCookie_bounds (c : UInt32) :
    1 ≤ (wrapCookie c).toNat ∧ (wrapCookie c).toNat ≤ cookieCount := by
  have hlt := c.toNat_lt
  rw [toNat_wrapCookie]
  unfold cookieCount
  split <;> omega

/-- Behind every cookie there is another word. -/
theorem toNat_wrapCookie_add_one (c : UInt32) :
    (wrapCookie c + 1).toNat = (wrapCookie c).toNat + 1 := by
  have hbounds := wrapCookie_bounds c
  unfold cookieCount at hbounds
  rw [UInt32.toNat_add]
  exact Nat.mod_eq_of_lt (show _ + 1 < 2 ^ 32 by omega)

/-- Counted from the least cookie, the search goes up by one and starts over at the end. -/
theorem toNat_cookieAt (c : UInt32) (k : Nat) :
    (cookieAt c k).toNat = ((wrapCookie c).toNat - 1 + k) % cookieCount + 1 := by
  induction k generalizing c with
  | zero =>
    have hbounds := wrapCookie_bounds c
    rw [cookieAt, Nat.add_zero, Nat.mod_eq_of_lt (by omega)]
    omega
  | succ k ih =>
    have hbounds := wrapCookie_bounds c
    rw [cookieAt, ih, toNat_wrapCookie (wrapCookie c + 1), toNat_wrapCookie_add_one]
    unfold cookieCount at hbounds ⊢
    split <;> omega

theorem cookieAt_injective (c : UInt32) {i j : Nat} (hi : i < cookieCount) (hj : j < cookieCount)
    (h : cookieAt c i = cookieAt c j) : i = j := by
  have hnat := congrArg UInt32.toNat h
  rw [toNat_cookieAt, toNat_cookieAt] at hnat
  have hbounds := wrapCookie_bounds c
  unfold cookieCount at hi hj hnat hbounds
  omega

/-- The search answers a cookie that is in use only if all that it came to are. -/
theorem cookieAt_mem_of_freeCookie_mem {used : List UInt32} {tries : Nat} {c : UInt32}
    (h : freeCookie used tries c ∈ used) : ∀ k ≤ tries, cookieAt c k ∈ used := by
  induction tries generalizing c with
  | zero =>
    intro k hk
    obtain rfl : k = 0 := Nat.le_zero.mp hk
    exact h
  | succ tries ih =>
    rw [freeCookie] at h
    split at h
    · next hwrap =>
      intro k hk
      cases k with
      | zero => exact hwrap
      | succ k => exact ih h k (Nat.le_of_succ_le_succ hk)
    · next hwrap => exact absurd h hwrap

/-- The search finds a free cookie if there are fewer in use than there are. -/
theorem freeCookie_not_mem {used : List UInt32} (room : used.length < cookieCount) (c : UInt32) :
    freeCookie used used.length c ∉ used := by
  intro h
  have htried := cookieAt_mem_of_freeCookie_mem h
  -- Otherwise all that were tried are different and in use, and these are too many.
  have hnodup : ((List.range (used.length + 1)).map (cookieAt c)).Nodup := by
    refine List.Nodup.map_on ?_ List.nodup_range
    intro i hi j hj hij
    rw [List.mem_range] at hi hj
    exact cookieAt_injective c (by omega) (by omega) hij
  have hsub : (List.range (used.length + 1)).map (cookieAt c) ⊆ used := by
    intro cookie hcookie
    obtain ⟨k, hk, rfl⟩ := List.mem_map.mp hcookie
    rw [List.mem_range] at hk
    exact htried k (by omega)
  have hle := (hnodup.subperm hsub).length_le
  rw [List.length_map, List.length_range] at hle
  omega

/-! ## The table of sinks -/

variable {σ : Type} {d : Desktop σ}

theorem mem_insertSink {cookie : UInt32} {sink : σ} {table : List (UInt32 × σ)}
    {entry : UInt32 × σ} :
    entry ∈ insertSink cookie sink table ↔ entry = (cookie, sink) ∨ entry ∈ table := by
  induction table with
  | nil => simp [insertSink]
  | cons first rest ih =>
    rw [insertSink]
    split
    · exact List.mem_cons
    · rw [List.mem_cons, ih, List.mem_cons]
      tauto

theorem pairwise_insertSink {cookie : UInt32} {sink : σ} {table : List (UInt32 × σ)}
    (h : (table.map Prod.fst).Pairwise (· < ·)) (hnew : cookie ∉ table.map Prod.fst) :
    ((insertSink cookie sink table).map Prod.fst).Pairwise (· < ·) := by
  induction table with
  | nil => exact List.pairwise_singleton _ _
  | cons first rest ih =>
    obtain ⟨c, s⟩ := first
    rw [List.map_cons, List.pairwise_cons] at h
    rw [List.map_cons, List.mem_cons, not_or] at hnew
    rw [insertSink]
    split
    · next hlt =>
      rw [List.map_cons, List.map_cons, List.pairwise_cons, List.pairwise_cons]
      refine ⟨?_, h⟩
      intro other hother
      rcases List.mem_cons.mp hother with rfl | hrest
      · exact hlt
      · exact UInt32.lt_trans hlt (h.1 other hrest)
    · next hge =>
      rw [List.map_cons, List.pairwise_cons]
      refine ⟨?_, ih h.2 hnew.2⟩
      intro other hother
      obtain ⟨entry, hentry, rfl⟩ := List.mem_map.mp hother
      rcases mem_insertSink.mp hentry with rfl | hrest
      · exact UInt32.lt_of_le_of_ne (UInt32.not_lt.mp hge) (Ne.symm hnew.1)
      · exact h.1 _ (List.mem_map_of_mem hrest)

theorem lookup_cons_eq (c : UInt32) (s : σ) (rest : List (UInt32 × σ)) (cookie : UInt32) :
    ((c, s) :: rest).lookup cookie = if cookie = c then some s else rest.lookup cookie := by
  rw [List.lookup_cons]
  by_cases h : cookie = c
  · simp [h]
  · have hne : (cookie == c) = false := by simp [h]
    rw [hne, if_neg h]

/-- In a table with one entry for each cookie, those for one cookie are what is found under it. -/
theorem filter_fst_eq (table : List (UInt32 × σ)) (h : (table.map Prod.fst).Nodup)
    (cookie : UInt32) :
    table.filter (·.1 = cookie) = (table.lookup cookie).toList.map (cookie, ·) := by
  induction table with
  | nil => rfl
  | cons first rest ih =>
    obtain ⟨c, s⟩ := first
    rw [List.map_cons, List.nodup_cons] at h
    rw [lookup_cons_eq]
    by_cases heq : cookie = c
    · -- The cookie is not in the rest, so nothing of the rest is left.
      have hrest : rest.filter (·.1 = cookie) = [] := by
        rw [List.filter_eq_nil_iff]
        intro entry hentry hsame
        rw [decide_eq_true_eq] at hsame
        exact h.1 (List.mem_map.mpr ⟨entry, hentry, hsame.trans heq⟩)
      rw [if_pos heq, List.filter_cons_of_pos (by simp [heq]), hrest, heq]
      rfl
    · rw [if_neg heq, List.filter_cons_of_neg (by simpa using Ne.symm heq), ih h.2]

theorem lookup_insertSink {cookie : UInt32} {sink : σ} {table : List (UInt32 × σ)}
    (hnew : cookie ∉ table.map Prod.fst) (key : UInt32) :
    (insertSink cookie sink table).lookup key =
      if key = cookie then some sink else table.lookup key := by
  induction table with
  | nil => exact lookup_cons_eq cookie sink [] key
  | cons first rest ih =>
    obtain ⟨c, s⟩ := first
    rw [List.map_cons, List.mem_cons, not_or] at hnew
    rw [insertSink]
    split
    · exact lookup_cons_eq cookie sink _ key
    · rw [lookup_cons_eq, lookup_cons_eq, ih hnew.2]
      by_cases h : key = c
      · rw [if_pos h, if_pos h, if_neg (fun hc => hnew.1 (hc.symm.trans h))]
      · rw [if_neg h, if_neg h]

theorem lookup_filter_ne (table : List (UInt32 × σ)) (gone key : UInt32) :
    (table.filter fun entry => entry.1 ≠ gone).lookup key =
      if key = gone then none else table.lookup key := by
  induction table with
  | nil => simp
  | cons first rest ih =>
    obtain ⟨c, s⟩ := first
    by_cases hgone : c = gone
    · rw [List.filter_cons_of_neg (by simp [hgone]), ih, lookup_cons_eq, hgone]
      by_cases h : key = gone
      · rw [if_pos h, if_pos h]
      · rw [if_neg h, if_neg h, if_neg h]
    · rw [List.filter_cons_of_pos (by simp [hgone]), lookup_cons_eq, lookup_cons_eq, ih]
      by_cases h : key = c
      · rw [if_pos h, if_pos h, if_neg (fun hg => hgone (h.symm.trans hg))]
      · rw [if_neg h, if_neg h]

/-! ## Steps -/

/-- Whether a step ends: registering a sink does if there are fewer sinks than cookies. -/
def Step.Ends (d : Desktop σ) : Step σ → Prop
  | advise _ => d.sinks.length < cookieCount
  | _ => True

instance (d : Desktop σ) : (step : Step σ) → Decidable (step.Ends d)
  | .advise _ => inferInstanceAs (Decidable (d.sinks.length < cookieCount))
  | .discover | .event _ | .unadvise _ | .shutdown | .sourceChanges _ =>
    inferInstanceAs (Decidable True)

/-- The sink that is registered under a cookie after a step. -/
def Step.registered (d : Desktop σ) (cookie : UInt32) : Step σ → Option σ
  | advise sink => if cookie = (d.advise sink).1 then some sink else d.sinks.lookup cookie
  | unadvise gone => if cookie = gone then none else d.sinks.lookup cookie
  | shutdown => none
  | _ => d.sinks.lookup cookie

/-- Discovery and its events do not touch the table. -/
theorem sinks_after (d : Desktop σ) (step : Step σ) :
    (step.after d).sinks =
      match step with
      | .advise sink => insertSink (d.advise sink).1 sink d.sinks
      | .unadvise cookie => d.sinks.filter fun entry => entry.1 ≠ cookie
      | .shutdown => []
      | _ => d.sinks := by
  let P (d' : Desktop σ) := d'.sinks = d.sinks
  have add : ∀ d' info, P d' → P (d'.addDevice info) := fun _ _ h => h
  have remove : ∀ d' gone, P d' → P (d'.removeWhere gone) := by
    intro d' gone h
    obtain ⟨created, hremoved⟩ := removeWhere_eq d' gone
    rw [hremoved]
    exact h
  cases step with
  | discover => exact discover_keeps (P := P) add rfl
  | event e => exact handle_keeps (P := P) add remove rfl e
  | advise sink => rfl
  | unadvise cookie => rfl
  | shutdown => rfl
  | sourceChanges resolver => rfl

theorem advise_not_mem {sink : σ} (ends : (Step.advise sink).Ends d) :
    (d.advise sink).1 ∉ d.sinks.map Prod.fst := by
  have room : d.cookies.length < cookieCount := by
    rw [cookies, List.length_map]
    exact ends
  exact freeCookie_not_mem room d.lastCookie

theorem lookup_after {step : Step σ} (ends : step.Ends d) (cookie : UInt32) :
    (step.after d).sinks.lookup cookie = step.registered d cookie := by
  rw [sinks_after]
  cases step with
  | advise sink => exact lookup_insertSink (advise_not_mem ends) cookie
  | unadvise gone => exact lookup_filter_ne d.sinks gone cookie
  | _ => rfl

theorem sorted_after {step : Step σ} (ends : step.Ends d) (h : d.cookies.Pairwise (· < ·)) :
    (step.after d).cookies.Pairwise (· < ·) := by
  unfold cookies at h ⊢
  rw [sinks_after]
  cases step with
  | advise sink => exact pairwise_insertSink h (advise_not_mem ends)
  | unadvise gone => exact h.sublist (List.filter_sublist.map Prod.fst)
  | shutdown => exact List.Pairwise.nil
  | _ => exact h

end PocketLink.Desktop
