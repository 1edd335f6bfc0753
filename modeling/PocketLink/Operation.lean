/-!
# Operations that may fail

Buffers and connections are changed by operations that may fail, and what an operation did before it
failed is there to be seen afterwards. So an operation on a state answers a value or a failure, and
a state in either case. The laws say how each building block runs; everything built from them is
reasoned about through these laws alone.
-/

namespace PocketLink

/-- An operation on a state `σ` that may fail with `ε`, and leaves a state behind in either case. -/
abbrev Operation (σ ε : Type) := ExceptT ε (StateM σ)

namespace Operation

variable {σ τ ε ε' α β : Type}

/-- What an operation answers on a state, and the state that it leaves. -/
def on (act : Operation σ ε α) (s : σ) : Except ε α × σ := act.run s

/-- Runs an operation and takes back what it did if it fails. -/
def atomically (act : Operation σ ε α) : Operation σ ε α := do
  let before ← get
  try act catch failure => do
    set before
    throw failure

/-- Runs an operation and answers its failure as a value. -/
def attempt (act : Operation σ ε α) : Operation σ ε' (Except ε α) :=
  show StateM σ (Except ε' (Except ε α)) from .ok <$> act.run

/-- Runs an operation on a part of a larger state. -/
def within (part : τ → σ) (replace : σ → τ → τ) (failure : ε → ε') (act : Operation σ ε α) :
    Operation τ ε' α :=
  show StateM τ (Except ε' α) from fun t =>
    let (answer, s) := act.on (part t)
    (answer.mapError failure, replace s t)

/-- The rounds of a loop, from a state and what they go on with. -/
def rounds (size : σ → α → Nat) (round : α → Operation σ ε (α ⊕ β))
    (smaller : ∀ {s s' a a'}, (round a).on s = (.ok (.inl a'), s') → size s' a' < size s a)
    (s : σ) (a : α) : Except ε β × σ :=
  match _ : (round a).on s with
  | (.ok (.inl a'), s') => rounds size round smaller s' a'
  | (.ok (.inr b), s') => (.ok b, s')
  | (.error e, s') => (.error e, s')
termination_by size s a
decreasing_by exact smaller ‹_›

/-- Repeats a round until it answers a result. A round that does not answers what to go on with, and
makes some size smaller. -/
def loop (size : σ → α → Nat) (round : α → Operation σ ε (α ⊕ β))
    (smaller : ∀ {s s' a a'}, (round a).on s = (.ok (.inl a'), s') → size s' a' < size s a)
    (a : α) : Operation σ ε β :=
  show StateM σ (Except ε β) from fun s => rounds size round smaller s a

/-! ## Laws -/

@[simp] theorem on_pure (a : α) (s : σ) : (pure a : Operation σ ε α).on s = (.ok a, s) := rfl

theorem on_bind (act : Operation σ ε α) (next : α → Operation σ ε β) (s : σ) :
    (act >>= next).on s =
      match act.on s with
      | (.ok a, s') => (next a).on s'
      | (.error e, s') => (.error e, s') := by
  have h : ∀ p : Except ε α × σ,
      (ExceptT.bindCont next p.1 p.2 : Except ε β × σ) =
        match p with
        | (.ok a, s') => (next a).on s'
        | (.error e, s') => (.error e, s') := by
    rintro ⟨_ | _, _⟩ <;> rfl
  exact h (act s)

@[simp] theorem on_map (f : α → β) (act : Operation σ ε α) (s : σ) :
    (f <$> act).on s = ((act.on s).1.map f, (act.on s).2) := by
  have h : ∀ p : Except ε α × σ,
      ((match p.1 with
        | .ok a => (pure (.ok (f a)) : StateM σ (Except ε β))
        | .error e => pure (.error e)) p.2) = (p.1.map f, p.2) := by
    rintro ⟨_ | _, _⟩ <;> rfl
  exact h (act s)

theorem on_bind_ok {act : Operation σ ε α} {next : α → Operation σ ε β} {s s' : σ} {a : α}
    (h : act.on s = (.ok a, s')) : (act >>= next).on s = (next a).on s' := by
  rw [on_bind, h]

theorem on_bind_error {act : Operation σ ε α} {next : α → Operation σ ε β} {s s' : σ} {e : ε}
    (h : act.on s = (.error e, s')) : (act >>= next).on s = (.error e, s') := by
  rw [on_bind, h]

/-- Two operations that succeed together have each succeeded. -/
theorem of_on_bind_ok {act : Operation σ ε α} {next : α → Operation σ ε β} {s s' : σ} {b : β}
    (h : (act >>= next).on s = (.ok b, s')) :
    ∃ a t, act.on s = (.ok a, t) ∧ (next a).on t = (.ok b, s') := by
  rw [on_bind] at h
  match hact : act.on s with
  | (.ok a, t) =>
    rw [hact] at h
    exact ⟨a, t, rfl, h⟩
  | (.error e, t) =>
    rw [hact] at h
    cases h

@[simp] theorem on_throw (e : ε) (s : σ) :
    (throw e : Operation σ ε α).on s = (.error e, s) := rfl

@[simp] theorem on_get (s : σ) : (get : Operation σ ε σ).on s = (.ok s, s) := rfl

@[simp] theorem on_set (t s : σ) : (set t : Operation σ ε PUnit).on s = (.ok (), t) := rfl

@[simp] theorem on_modify (f : σ → σ) (s : σ) :
    (modify f : Operation σ ε PUnit).on s = (.ok (), f s) := rfl

theorem on_tryCatch (act : Operation σ ε α) (rescue : ε → Operation σ ε α) (s : σ) :
    (tryCatch act rescue).on s =
      match act.on s with
      | (.ok a, s') => (.ok a, s')
      | (.error e, s') => (rescue e).on s' := by
  have h : ∀ p : Except ε α × σ,
      ((match p.1 with
        | .ok a => (pure (.ok a) : StateM σ (Except ε α))
        | .error e => (rescue e).run) p.2) =
        match p with
        | (.ok a, s') => (.ok a, s')
        | (.error e, s') => (rescue e).on s' := by
    rintro ⟨_ | _, _⟩ <;> rfl
  exact h (act s)

theorem on_atomically (act : Operation σ ε α) (s : σ) :
    (atomically act).on s =
      match act.on s with
      | (.ok a, s') => (.ok a, s')
      | (.error e, _) => (.error e, s) := by
  simp only [atomically, on_bind, on_get, on_tryCatch, on_set, on_throw]

@[simp] theorem on_attempt (act : Operation σ ε α) (s : σ) :
    (attempt act : Operation σ ε' (Except ε α)).on s = (.ok (act.on s).1, (act.on s).2) := rfl

@[simp] theorem on_within (part : τ → σ) (replace : σ → τ → τ) (failure : ε → ε')
    (act : Operation σ ε α) (t : τ) :
    (within part replace failure act).on t =
      ((act.on (part t)).1.mapError failure, replace (act.on (part t)).2 t) := rfl

@[simp] theorem mapError_ok (failure : ε → ε') (a : α) :
    (.ok a : Except ε α).mapError failure = .ok a := rfl

@[simp] theorem mapError_error (failure : ε → ε') (e : ε) :
    (.error e : Except ε α).mapError failure = .error (failure e) := rfl

@[simp] theorem mapError_id (answer : Except ε α) : answer.mapError id = answer := by
  cases answer <;> rfl

theorem mapError_eq_ok_iff {failure : ε → ε'} {answer : Except ε α} {a : α} :
    answer.mapError failure = .ok a ↔ answer = .ok a := by
  cases answer <;> simp

theorem bind_eq_ok_iff {answer : Except ε α} {next : α → Except ε β} {b : β} :
    (answer >>= next) = .ok b ↔ ∃ a, answer = .ok a ∧ next a = .ok b := by
  cases answer <;> simp [bind, Except.bind]

/-- Operations are the same if they run alike on every state. -/
theorem ext {act act' : Operation σ ε α} (h : ∀ s, act.on s = act'.on s) : act = act' := funext h

theorem atomically_pure (a : α) : atomically (pure a : Operation σ ε α) = pure a := ext fun _ => rfl

/-- What an atomic part of an atomic operation takes back, the whole takes back as well. -/
theorem atomically_bind_atomically (act : Operation σ ε α) (next : α → Operation σ ε β) :
    atomically (act >>= fun a => atomically (next a)) = atomically (act >>= next) := by
  refine ext fun s => ?_
  rw [on_atomically, on_atomically, on_bind, on_bind]
  cases act.on s with
  | mk answer s' =>
    cases answer with
    | error e => rfl
    | ok a =>
      simp only [on_atomically]
      cases (next a).on s' with
      | mk answer' t => cases answer' <;> rfl

/-! ## Loops -/

section Loops

variable {size : σ → α → Nat} {round : α → Operation σ ε (α ⊕ β)}
  {smaller : ∀ {s s' a a'}, (round a).on s = (.ok (.inl a'), s') → size s' a' < size s a}

/-- A loop is one round, and then its result or the loop again. -/
theorem loop_eq (a : α) :
    loop size round smaller a = round a >>= Sum.elim (loop size round smaller) pure := by
  refine ext fun s => ?_
  have hrounds : (loop size round smaller a).on s = rounds size round smaller s a := rfl
  rw [hrounds, rounds, on_bind]
  split
  · next h => rw [h]; rfl
  · next h => rw [h]; rfl
  · next h => rw [h]

/-- What leads over each round, and over one thing after another, leads over the loop. -/
theorem after_loop {R : σ → σ → Prop} (trans : ∀ {s t u}, R s t → R t u → R s u)
    (h : ∀ a s, R s ((round a).on s).2) (a : α) (s : σ) :
    R s ((loop size round smaller a).on s).2 := by
  generalize hn : size s a = n
  induction n using Nat.strongRecOn generalizing s a with
  | ind n ih =>
    have hfirst := h a s
    rw [loop_eq, on_bind]
    match hround : (round a).on s with
    | (.ok (.inl a'), s') =>
      rw [hround] at hfirst
      exact trans hfirst (ih _ (hn ▸ smaller hround) a' s' rfl)
    | (.ok (.inr b), s') =>
      rw [hround] at hfirst
      exact hfirst
    | (.error e, s') =>
      rw [hround] at hfirst
      exact hfirst

end Loops

end Operation

end PocketLink
