import PocketLink.Text.Utf16

/-!
# Well-formed units

Units are well formed if each of them is a character of its own or half of a pair. That is the same
as to say that none of them is an unpaired surrogate, and the same as to say that they are the units
of a text. The first is the grammar, the second is what is wrong with units that have no text, and
the third is what decoding is for.
-/

namespace PocketLink.Utf16

/-- Units that are characters of their own, and pairs of a high and a low surrogate. -/
inductive WellFormed : List UInt16 → Prop
  | nil : WellFormed []
  | single {u : UInt16} {rest : List UInt16} (hh : isHigh u = false) (hl : isLow u = false)
      (h : WellFormed rest) : WellFormed (u :: rest)
  | pair {u v : UInt16} {rest : List UInt16} (hh : isHigh u = true) (hl : isLow v = true)
      (h : WellFormed rest) : WellFormed (u :: v :: rest)

/-- Some unit is a high surrogate with no low one right behind it, or a low one with no high one
right before it. -/
def Unpaired (units : List UInt16) : Prop :=
  ∃ before u after, units = before ++ u :: after ∧
    ((isHigh u = true ∧ ∀ v ∈ after.head?, isLow v = false) ∨
      (isLow u = true ∧ ∀ v ∈ before.getLast?, isHigh v = false))

variable {units : List UInt16}

theorem isLow_of_isHigh {u : UInt16} (h : isHigh u = true) : isLow u = false := by
  simp only [isHigh, isLow, Bool.and_eq_true, decide_eq_true_eq, Bool.and_eq_false_iff,
    decide_eq_false_iff_not] at h ⊢
  omega

theorem isHigh_of_isLow {u : UInt16} (h : isLow u = true) : isHigh u = false := by
  cases hh : isHigh u with
  | false => rfl
  | true =>
    rw [isLow_of_isHigh hh] at h
    cases h

/-! ## Texts -/

theorem wellFormed_of_chars? {cs : List Char} (h : chars? units = some cs) : WellFormed units := by
  fun_induction chars? units generalizing cs with
  | case1 => exact .nil
  | case2 u hu => cases h
  | case3 u hu =>
    rw [Bool.or_eq_true, not_or, Bool.not_eq_true, Bool.not_eq_true] at hu
    exact .single hu.1 hu.2 .nil
  | case4 u v rest hu hv ih =>
    obtain ⟨more, hmore, -⟩ := Option.map_eq_some_iff.mp h
    exact .pair hu hv (ih hmore)
  | case5 u v rest hu hv => cases h
  | case6 u v rest hu hv => cases h
  | case7 u v rest hu hv ih =>
    obtain ⟨more, hmore, -⟩ := Option.map_eq_some_iff.mp h
    exact .single (Bool.not_eq_true _ ▸ hu) (Bool.not_eq_true _ ▸ hv) (ih hmore)

theorem WellFormed.exists_chars (h : WellFormed units) :
    ∃ cs : List Char, cs.flatMap ofChar = units := by
  induction h with
  | nil => exact ⟨[], rfl⟩
  | @single u rest hh hl _ ih =>
    obtain ⟨cs, hcs⟩ := ih
    refine ⟨Char.ofNat u.toNat :: cs, ?_⟩
    rw [List.flatMap_cons, hcs, ofChar_single (by simp [hh]) (by simp [hl])]
    rfl
  | @pair u v rest hh hl _ ih =>
    obtain ⟨cs, hcs⟩ := ih
    refine ⟨Utf16.pair u v :: cs, ?_⟩
    rw [List.flatMap_cons, hcs, ofChar_pair hh hl]
    rfl

theorem wellFormed_iff_exists_encode : WellFormed units ↔ ∃ text, encode text = units := by
  constructor
  · intro h
    obtain ⟨cs, hcs⟩ := h.exists_chars
    exact ⟨String.ofList cs, by rw [encode, String.toList_ofList, hcs]⟩
  · rintro ⟨text, rfl⟩
    obtain ⟨cs, hcs, -⟩ := Option.map_eq_some_iff.mp (decode?_encode text)
    exact wellFormed_of_chars? hcs

theorem encode_injective {a b : String} (h : encode a = encode b) : a = b := by
  have hdecode := congrArg decode? h
  rwa [decode?_encode, decode?_encode, Option.some.injEq] at hdecode

theorem decode?_eq_none_iff : decode? units = none ↔ ¬ WellFormed units := by
  rw [wellFormed_iff_exists_encode, Option.eq_none_iff_forall_ne_some, not_exists]
  refine forall_congr' fun text => not_congr ?_
  rw [decode?_eq_some_iff, eq_comm]

/-! ## Unpaired surrogates -/

/-- Units in front take no partner away, unless the last of them is a high surrogate. -/
theorem Unpaired.behind (h : Unpaired units) {front : List UInt16}
    (hfront : ∀ v ∈ front.getLast?, isHigh v = false) : Unpaired (front ++ units) := by
  obtain ⟨before, u, after, rfl, hu⟩ := h
  refine ⟨front ++ before, u, after, (List.append_assoc _ _ _).symm, hu.imp_right ?_⟩
  rintro ⟨hl, hbefore⟩
  refine ⟨hl, fun v hv => ?_⟩
  rw [List.getLast?_append, Option.mem_def, Option.or_eq_some_iff] at hv
  rcases hv with hv | ⟨-, hv⟩
  · exact hbefore v hv
  · exact hfront v hv

/-- Units behind give none a partner, unless the first of them is a low surrogate. -/
theorem Unpaired.before (h : Unpaired units) {back : List UInt16}
    (hback : ∀ v ∈ back.head?, isLow v = false) : Unpaired (units ++ back) := by
  obtain ⟨before, u, after, rfl, hu⟩ := h
  refine ⟨before, u, after ++ back, ?_, hu.imp_left ?_⟩
  · rw [List.append_assoc, List.cons_append]
  rintro ⟨hh, hafter⟩
  refine ⟨hh, fun v hv => ?_⟩
  rw [List.head?_append, Option.mem_def, Option.or_eq_some_iff] at hv
  rcases hv with hv | ⟨-, hv⟩
  · exact hafter v hv
  · exact hback v hv

/-- Where decoding fails, it is at a surrogate without a partner. -/
theorem unpaired_of_chars? (h : chars? units = none) : Unpaired units := by
  fun_induction chars? units with
  | case1 => cases h
  | case2 u hu =>
    rw [Bool.or_eq_true] at hu
    exact ⟨[], u, [], rfl, hu.imp (⟨·, by simp⟩) (⟨·, by simp⟩)⟩
  | case3 u hu => cases h
  | case4 u v rest hu hv ih =>
    have hrest : Unpaired rest := ih (Option.map_eq_none_iff.mp h)
    have hlast : ∀ w ∈ [u, v].getLast?, isHigh w = false := by simp [isHigh_of_isLow hv]
    exact hrest.behind hlast
  | case5 u v rest hu hv => exact ⟨[], u, v :: rest, rfl, Or.inl ⟨hu, by simpa using hv⟩⟩
  | case6 u v rest hu hv => exact ⟨[], u, v :: rest, rfl, Or.inr ⟨hv, by simp⟩⟩
  | case7 u v rest hu hv ih =>
    have hrest : Unpaired (v :: rest) := ih (Option.map_eq_none_iff.mp h)
    have hlast : ∀ w ∈ [u].getLast?, isHigh w = false := by simpa using hu
    exact hrest.behind hlast

/-- In well-formed units each half of a pair stands beside the other. -/
theorem WellFormed.paired (h : WellFormed units) {before after : List UInt16} {u : UInt16}
    (hu : units = before ++ u :: after) :
    (isHigh u = true → ∃ v ∈ after.head?, isLow v = true) ∧
      (isLow u = true → ∃ v ∈ before.getLast?, isHigh v = true) := by
  -- Units further in front change nothing about the unit right before.
  have front {x : UInt16} {more : List UInt16} (h : ∃ v ∈ more.getLast?, isHigh v = true) :
      ∃ v ∈ (x :: more).getLast?, isHigh v = true := by
    obtain ⟨v, hv, hhigh⟩ := h
    exact ⟨v, by rw [List.getLast?_cons, Option.mem_def.mp hv]; rfl, hhigh⟩
  induction h generalizing before with
  | nil => simp at hu
  | @single w rest hh hl _ ih =>
    cases before with
    | nil =>
      cases hu
      simp [hh, hl]
    | cons x more =>
      cases hu
      exact (ih rfl).imp_right fun hlow h => front (hlow h)
  | @pair w v rest hh hl _ ih =>
    cases before with
    | nil =>
      cases hu
      simp [hl, isLow_of_isHigh hh]
    | cons x more =>
      cases more with
      | nil =>
        cases hu
        simp [hh, isHigh_of_isLow hl]
      | cons y more =>
        cases hu
        exact (ih rfl).imp_right fun hlow h => front (front (hlow h))

/-- Units are well formed if none of them is an unpaired surrogate. -/
theorem not_wellFormed_iff_unpaired : ¬ WellFormed units ↔ Unpaired units := by
  constructor
  · intro h
    exact unpaired_of_chars? (Option.map_eq_none_iff.mp (decode?_eq_none_iff.mpr h))
  · rintro ⟨before, u, after, hunits, hu⟩ h
    obtain ⟨hhigh, hlow⟩ := h.paired hunits
    rcases hu with ⟨hu, hnone⟩ | ⟨hu, hnone⟩
    · obtain ⟨v, hv, hl⟩ := hhigh hu
      rw [hnone v hv] at hl
      cases hl
    · obtain ⟨v, hv, hh⟩ := hlow hu
      rw [hnone v hv] at hh
      cases hh

/-- Units with zero units behind them are well formed if they are without: a zero is no half of a
pair, so a high surrogate that is left at the end when they are stripped had no partner before. -/
theorem wellFormed_append_zeros (zeros : Nat) :
    WellFormed (units ++ List.replicate zeros 0) ↔ WellFormed units := by
  constructor
  · intro h
    refine Classical.not_not.mp fun hbad => ?_
    have hzeros : ∀ v ∈ (List.replicate zeros (0 : UInt16)).head?, isLow v = false := by
      intro v hv
      obtain rfl : v = 0 := List.eq_of_mem_replicate (List.mem_of_mem_head? hv)
      rfl
    exact not_wellFormed_iff_unpaired.mpr
      ((not_wellFormed_iff_unpaired.mp hbad).before hzeros) h
  · intro h
    induction h with
    | nil =>
      rw [List.nil_append]
      induction zeros with
      | zero => exact .nil
      | succ zeros ih => exact .single rfl rfl ih
    | single hh hl _ ih => exact .single hh hl ih
    | pair hh hl _ ih => exact .pair hh hl ih

end PocketLink.Utf16
