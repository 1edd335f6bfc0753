import Mathlib.Data.List.Induction
import PocketLink.Text.Hex
import PocketLink.Wire.LittleEndian

/-!
# Digits of either case

Digits are read with letters of either case and written with capital ones. So what was read is
written again with its letters capitalized, at the width that was read, and reading sees no
difference between a text and the same text in small letters.
-/

namespace PocketLink

namespace Ascii

/-- A property of characters is looked up for the ASCII characters and shown for all others. -/
theorem forall_of_small {P : Char → Prop} (small : ∀ k : Fin 128, P (Char.ofNat k))
    (large : ∀ c : Char, 128 ≤ c.toNat → P c) (c : Char) : P c := by
  by_cases h : c.toNat < 128
  · have hc : P (Char.ofNat c.toNat) := small ⟨c.toNat, h⟩
    rwa [Char.ofNat_toNat] at hc
  · exact large c (Nat.not_lt.mp h)

theorem toLower_of_large {c : Char} (h : 128 ≤ c.toNat) : c.toLower = c := by
  refine dif_neg fun hc => ?_
  have hz : c.toNat ≤ 90 := hc.2
  omega

theorem toUpper_of_large {c : Char} (h : 128 ≤ c.toNat) : c.toUpper = c := by
  refine dif_neg fun hc => ?_
  have hz : c.toNat ≤ 122 := hc.2
  omega

theorem toLower_toUpper (c : Char) : c.toUpper.toLower = c.toLower := by
  refine forall_of_small (P := fun c => c.toUpper.toLower = c.toLower) (by decide) ?_ c
  intro c h
  rw [toUpper_of_large h]

theorem toNat_toLower (c : Char) :
    c.toLower.toNat = if 65 ≤ c.toNat ∧ c.toNat ≤ 90 then c.toNat + 32 else c.toNat := by
  refine forall_of_small (P := fun c => c.toLower.toNat =
    if 65 ≤ c.toNat ∧ c.toNat ≤ 90 then c.toNat + 32 else c.toNat) (by decide) ?_ c
  intro c h
  rw [toLower_of_large h, if_neg (by omega)]

/-- A character that is no letter is the small form of itself only. -/
theorem toLower_eq_iff {c : Char} (h : c.isAlpha = false) (d : Char) : d.toLower = c ↔ d = c := by
  have hletter : ¬ (65 ≤ c.toNat ∧ c.toNat ≤ 90) ∧ ¬ (97 ≤ c.toNat ∧ c.toNat ≤ 122) := by
    obtain ⟨hupper, hlower⟩ := Bool.or_eq_false_iff.mp h
    have hlower := (Bool.decide_and _ _).trans hlower
    exact ⟨of_decide_eq_false hupper, of_decide_eq_false hlower⟩
  rw [← Char.toNat_inj, ← Char.toNat_inj, toNat_toLower]
  split <;> omega

end Ascii

namespace Hex

/-- The characters that are digits: those for nine and below, and six letters of either case. -/
def IsDigit (c : Char) : Prop :=
  ('0' ≤ c ∧ c ≤ '9') ∨ ('A' ≤ c ∧ c ≤ 'F') ∨ ('a' ≤ c ∧ c ≤ 'f')

instance : DecidablePred IsDigit := fun _ => inferInstanceAs (Decidable (_ ∨ _))

theorem value?_of_large {c : Char} (h : 128 ≤ c.toNat) : value? c = none := by
  unfold value?
  rw [if_neg (by omega), if_neg (by omega), if_neg (by omega)]

theorem isDigit_iff (c : Char) : IsDigit c ↔ (value? c).isSome := by
  refine Ascii.forall_of_small (P := fun c => IsDigit c ↔ (value? c).isSome) (by decide) ?_ c
  intro c h
  rw [value?_of_large h]
  have hbounds : IsDigit c → c.toNat < 128 := by
    rintro (⟨-, hc⟩ | ⟨-, hc⟩ | ⟨-, hc⟩)
    all_goals exact Nat.lt_of_le_of_lt (show c.toNat ≤ _ from hc) (by decide)
  simp only [Option.isSome_none, Bool.false_eq_true, iff_false]
  exact fun hc => absurd (hbounds hc) (Nat.not_lt.mpr h)

/-- A digit is one of the sixteen, and the capital one for its value is the digit capitalized. -/
theorem upper_of_value? {c : Char} {v : Nat} (h : value? c = some v) :
    v < 16 ∧ upper v = c.toUpper := by
  have key : ∀ v ∈ value? c, v < 16 ∧ upper v = c.toUpper := by
    refine Ascii.forall_of_small
      (P := fun c => ∀ v ∈ value? c, v < 16 ∧ upper v = c.toUpper) (by decide) ?_ c
    intro c hc v hv
    rw [value?_of_large hc] at hv
    cases hv
  exact key v h

theorem value?_toLower (c : Char) : value? c.toLower = value? c := by
  refine Ascii.forall_of_small (P := fun c => value? c.toLower = value? c) (by decide) ?_ c
  intro c h
  rw [Ascii.toLower_of_large h]

/-! ## Lists of digits -/

theorem valueFrom?_map_toLower (high : Nat) (cs : List Char) :
    valueFrom? high (cs.map Char.toLower) = valueFrom? high cs := by
  induction cs generalizing high with
  | nil => rfl
  | cons c cs ih =>
    rw [List.map_cons, valueFrom?, value?_toLower, valueFrom?]
    cases value? c with
    | none => rfl
    | some v => exact ih _

theorem isSome_valueFrom? (high : Nat) (cs : List Char) :
    (valueFrom? high cs).isSome ↔ ∀ c ∈ cs, IsDigit c := by
  induction cs generalizing high with
  | nil => simp [valueFrom?]
  | cons c cs ih =>
    rw [List.forall_mem_cons, isDigit_iff, valueFrom?]
    cases value? c with
    | none => simp
    | some v =>
      show (valueFrom? (16 * high + v) cs).isSome ↔ _
      rw [ih]
      simp

/-- Digits are those of the number that they stand for, with the letters capitalized; and a number
that some digits stand for is not too large for their width. -/
theorem fixed_upper_of_valueFrom? {cs : List Char} {n : Nat} (h : valueFrom? 0 cs = some n) :
    n < span cs.length ∧ fixed upper cs.length n = cs.map Char.toUpper := by
  -- A number is written from its last digit on, so the induction takes off the last one.
  induction cs using List.reverseRecOn generalizing n with
  | nil =>
    cases h
    exact ⟨Nat.one_pos, rfl⟩
  | append_singleton cs c ih =>
    rw [valueFrom?_append, Option.bind_eq_some_iff] at h
    obtain ⟨high, hhigh, h⟩ := h
    obtain ⟨v, hv, hn⟩ := Option.bind_eq_some_iff.mp h
    obtain rfl : 16 * high + v = n := Option.some.inj hn
    obtain ⟨hlt, hfixed⟩ := ih hhigh
    obtain ⟨hsmall, hupper⟩ := upper_of_value? hv
    rw [List.length_append, List.length_singleton, span, fixed, List.map_append,
      List.map_singleton]
    have hdiv : (16 * high + v) / 16 = high := by omega
    have hmod : (16 * high + v) % 16 = v := by omega
    rw [hdiv, hmod, hfixed, hupper]
    exact ⟨by omega, rfl⟩

theorem fixed_mod_span (digit : Nat → Char) (width n : Nat) :
    fixed digit width (n % span width) = fixed digit width n := by
  induction width generalizing n with
  | zero => rfl
  | succ width ih =>
    rw [fixed, fixed, span, Nat.mod_mul_right_div_self, Nat.mod_mul_right_mod, ih]

/-- A number at an even width is its bytes at the width of two, most significant byte first. -/
theorem fixed_two_mul (digit : Nat → Char) (width n : Nat) :
    fixed digit (2 * width) n =
      (LittleEndian.bytes width n).reverse.flatMap fun b => fixed digit 2 b.toNat := by
  induction width generalizing n with
  | zero => rfl
  | succ width ih =>
    have hhigh : n % 256 / 16 % 16 = n / 16 % 16 := by omega
    have hlow : n % 256 % 16 = n % 16 := by omega
    rw [LittleEndian.bytes, List.reverse_cons, List.flatMap_append, ← ih, List.flatMap_singleton,
      UInt8.toNat_ofNat', Nat.mul_succ]
    simp only [fixed, hhigh, hlow, Nat.div_div_eq_div_mul, List.append_assoc, List.nil_append]

end Hex

end PocketLink
