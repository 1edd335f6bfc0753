import PocketLink.Operation

/-!
# Invariants of operations

`Upholds inv allowed act` says that an operation which starts in a state of an invariant leaves one,
whether it succeeds or fails, and that it fails for allowed reasons only. It is closed under
everything operations are built from, so it is proved of a composed operation part by part.

With the invariant that a view of the state has a certain value, it says what an operation leaves as
it was.
-/

namespace PocketLink.Operation

variable {σ τ ε ε' α β : Type} {inv : σ → Prop} {allowed : ε → Prop}

/-- From a state of the invariant, an operation leaves one and fails for allowed reasons only. -/
def Upholds (inv : σ → Prop) (allowed : ε → Prop) (act : Operation σ ε α) : Prop :=
  ∀ s, inv s → inv (act.on s).2 ∧ ∀ e, (act.on s).1 = .error e → allowed e

theorem upholds_pure (a : α) : Upholds inv allowed (pure a : Operation σ ε α) :=
  fun s hs => ⟨hs, fun e he => by cases he⟩

theorem upholds_throw {e : ε} (h : allowed e) :
    Upholds inv allowed (throw e : Operation σ ε α) := by
  intro s hs
  refine ⟨hs, fun e' he => ?_⟩
  cases he
  exact h

theorem upholds_get : Upholds inv allowed (get : Operation σ ε σ) :=
  fun s hs => ⟨hs, fun e he => by cases he⟩

theorem upholds_modify {f : σ → σ} (h : ∀ s, inv s → inv (f s)) :
    Upholds inv allowed (modify f : Operation σ ε PUnit) :=
  fun s hs => ⟨h s hs, fun e he => by cases he⟩

theorem Upholds.bind {act : Operation σ ε α} {next : α → Operation σ ε β}
    (h : Upholds inv allowed act) (hn : ∀ a, Upholds inv allowed (next a)) :
    Upholds inv allowed (act >>= next) := by
  intro s hs
  obtain ⟨hi, he⟩ := h s hs
  rw [on_bind]
  match act.on s, hi, he with
  | (.ok a, s'), hi, _ => exact hn a s' hi
  | (.error e, s'), hi, he =>
    refine ⟨hi, fun e' h' => ?_⟩
    cases h'
    exact he e rfl

/-- What follows an attempt is to be looked at only for the failures that the attempt may have. -/
theorem Upholds.attempt_bind {allowed' : ε' → Prop} {act : Operation σ ε α}
    {next : Except ε α → Operation σ ε' β} (h : Upholds inv allowed act)
    (hok : ∀ a, Upholds inv allowed' (next (.ok a)))
    (herr : ∀ e, allowed e → Upholds inv allowed' (next (.error e))) :
    Upholds inv allowed' (attempt act >>= next) := by
  intro s hs
  obtain ⟨hi, he⟩ := h s hs
  rw [on_bind, on_attempt]
  match act.on s, hi, he with
  | (.ok a, s'), hi, _ => exact hok a s' hi
  | (.error e, s'), hi, he => exact herr e (he e rfl) s' hi

theorem Upholds.tryCatch {act : Operation σ ε α} {rescue : ε → Operation σ ε α}
    (h : Upholds inv (fun _ => True) act) (hr : ∀ e, Upholds inv allowed (rescue e)) :
    Upholds inv allowed (tryCatch act rescue) := by
  intro s hs
  have hi := (h s hs).1
  rw [on_tryCatch]
  match act.on s, hi with
  | (.ok a, s'), hi => exact ⟨hi, fun e he => by cases he⟩
  | (.error e, s'), hi => exact hr e s' hi

/-- An operation on a part upholds what it leaves of the part and what the rest depends on. -/
theorem Upholds.within {part : τ → σ} {replace : σ → τ → τ} {failure : ε → ε'}
    {whole : τ → Prop} {allowed' : ε' → Prop} {act : Operation σ ε α} (h : Upholds inv allowed act)
    (hpart : ∀ t, whole t → inv (part t))
    (hwhole : ∀ t s, whole t → inv s → whole (replace s t))
    (hfail : ∀ e, allowed e → allowed' (failure e)) :
    Upholds whole allowed' (Operation.within part replace failure act) := by
  intro t ht
  obtain ⟨hi, he⟩ := h (part t) (hpart t ht)
  rw [on_within]
  refine ⟨hwhole t _ ht hi, fun e' h' => ?_⟩
  match (act.on (part t)).1, he, h' with
  | .error e, he, rfl => exact hfail e (he e rfl)

/-- An operation that may do anything to a part, as long as the rest does not depend on it. -/
theorem upholds_within {part : τ → σ} {replace : σ → τ → τ} {failure : ε → ε'}
    {whole : τ → Prop} {allowed' : ε' → Prop} (act : Operation σ ε α)
    (hwhole : ∀ t s, whole t → whole (replace s t)) (hfail : ∀ e, allowed' (failure e)) :
    Upholds whole allowed' (Operation.within part replace failure act) := by
  have h : Upholds (fun _ => True) (fun _ => True) act :=
    fun _ _ => ⟨trivial, fun _ _ => trivial⟩
  exact h.within (fun _ _ => trivial) (fun t s ht _ => hwhole t s ht) fun e _ => hfail e

/-- What an operation upholds, whatever it fails for. -/
theorem Upholds.after {act : Operation σ ε α} (h : Upholds inv allowed act) {s : σ} (hs : inv s) :
    inv (act.on s).2 := (h s hs).1

theorem Upholds.failure {act : Operation σ ε α} (h : Upholds inv allowed act) {s : σ} (hs : inv s)
    {e : ε} (he : (act.on s).1 = .error e) : allowed e := (h s hs).2 e he

end PocketLink.Operation
