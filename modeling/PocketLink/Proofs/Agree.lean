import PocketLink.Operation

/-!
# Operations that agree

Two operations agree if they answer the same from states that have certain things in common, and
leave states that have these in common again. An operation that agrees with itself depends on
nothing else. Like what operations uphold, this is proved of composed operations part by part.
-/

namespace PocketLink.Operation

variable {σ τ ε ε' α β : Type} {same : σ → σ → Prop} {act act' : Operation σ ε α}

/-- From states that have something in common, two operations answer the same, or fail alike, and
leave such states. -/
def Agree (same : σ → σ → Prop) (act act' : Operation σ ε α) : Prop :=
  ∀ s s', same s s' → (act'.on s').1 = (act.on s).1 ∧ same (act.on s).2 (act'.on s').2

theorem agree_pure (a : α) : Agree same (pure a : Operation σ ε α) (pure a) :=
  fun _ _ h => ⟨rfl, h⟩

theorem agree_throw (e : ε) : Agree same (throw e : Operation σ ε α) (throw e) :=
  fun _ _ h => ⟨rfl, h⟩

theorem agree_modify {f : σ → σ} (h : ∀ s s', same s s' → same (f s) (f s')) :
    Agree same (modify f : Operation σ ε PUnit) (modify f) :=
  fun s s' hs => ⟨rfl, h s s' hs⟩

theorem agree_self (act : Operation σ ε α) : Agree Eq act act := by
  rintro s _ rfl
  exact ⟨rfl, rfl⟩

/-- What is done with a state needs to agree only on states that have something in common. -/
theorem agree_get_bind {next next' : σ → Operation σ ε β}
    (h : ∀ s s', same s s' → Agree same (next s) (next' s')) :
    Agree same (get >>= next) (get >>= next') :=
  fun s s' hs => h s s' hs s s' hs

theorem Agree.bind {next next' : α → Operation σ ε β} (h : Agree same act act')
    (hn : ∀ a, Agree same (next a) (next' a)) : Agree same (act >>= next) (act' >>= next') := by
  intro s s' hs
  obtain ⟨hanswer, hafter⟩ := h s s' hs
  rw [on_bind, on_bind]
  match hact : act.on s, hact' : act'.on s' with
  | (.ok a, t), (.ok a', t') =>
    rw [hact, hact'] at hanswer hafter
    cases hanswer
    exact hn a t t' hafter
  | (.error e, t), (.error e', t') =>
    rw [hact, hact'] at hanswer hafter
    cases hanswer
    exact ⟨rfl, hafter⟩
  | (.ok a, t), (.error e, t') | (.error e, t), (.ok a, t') =>
    rw [hact, hact'] at hanswer
    cases hanswer

theorem Agree.attempt (h : Agree same act act') :
    Agree same (attempt act : Operation σ ε' (Except ε α)) (attempt act') := by
  intro s s' hs
  obtain ⟨hanswer, hafter⟩ := h s s' hs
  exact ⟨congrArg Except.ok hanswer, hafter⟩

theorem Agree.tryCatch {rescue rescue' : ε → Operation σ ε α} (h : Agree same act act')
    (hr : ∀ e, Agree same (rescue e) (rescue' e)) :
    Agree same (tryCatch act rescue) (tryCatch act' rescue') := by
  intro s s' hs
  obtain ⟨hanswer, hafter⟩ := h s s' hs
  rw [on_tryCatch, on_tryCatch]
  match hact : act.on s, hact' : act'.on s' with
  | (.ok a, t), (.ok a', t') =>
    rw [hact, hact'] at hanswer hafter
    exact ⟨hanswer, hafter⟩
  | (.error e, t), (.error e', t') =>
    rw [hact, hact'] at hanswer hafter
    cases hanswer
    exact hr e t t' hafter
  | (.ok a, t), (.error e, t') | (.error e, t), (.ok a, t') =>
    rw [hact, hact'] at hanswer
    cases hanswer

/-- Operations on a part agree on the whole, if the rest of it has in common what it needs to. -/
theorem Agree.within {part : τ → σ} {replace : σ → τ → τ} (failure : ε → ε')
    {whole : τ → τ → Prop} (h : Agree same act act')
    (hpart : ∀ t t', whole t t' → same (part t) (part t'))
    (hwhole : ∀ t t' s s', whole t t' → same s s' → whole (replace s t) (replace s' t')) :
    Agree whole (Operation.within part replace failure act)
      (Operation.within part replace failure act') := by
  intro t t' ht
  obtain ⟨hanswer, hafter⟩ := h (part t) (part t') (hpart t t' ht)
  rw [on_within, on_within, hanswer]
  exact ⟨rfl, hwhole t t' _ _ ht hafter⟩

end PocketLink.Operation
