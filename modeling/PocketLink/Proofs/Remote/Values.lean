import Mathlib.Data.List.TakeWhile
import PocketLink.Proofs.Text.Utf16
import PocketLink.Remote.Answer

/-!
# Texts of registry values

A string value is stored with a zero unit at its end, and what is stored behind that is whatever was
there before. So its text is that of the units before the first zero unit, unlike a string on the
wire, which is as long as it says and of which only the zeros at its end are left out. Nothing
behind the zero unit is looked at, and a value without one is a text as a whole.
-/

namespace PocketLink

namespace LittleEndian

theorem toUnits_ofUnits_append (units : List UInt16) (bytes : List UInt8) :
    toUnits (ofUnits units ++ bytes) = units ++ toUnits bytes := by
  induction units with
  | nil => rfl
  | cons u units ih =>
    show toUnits (u16 u ++ ofUnits units ++ bytes) = _
    rw [List.append_assoc, toUnits_u16_append, ih, List.cons_append]

end LittleEndian

namespace Utf16

theorem zero_mem_ofChar_iff {c : Char} : 0 ∈ ofChar c ↔ c = '\x00' := by
  constructor
  · intro h
    have hc := toNat_valid c
    have hzero : c.toNat = 0 := by
      by_cases hlt : c.toNat < 0x10000
      · rw [ofChar_of_lt hlt, List.mem_singleton] at h
        have := congrArg UInt16.toNat h
        simp only [UInt16.toNat_ofNat', UInt16.toNat_zero] at this
        omega
      · -- Both halves of a pair are surrogates.
        rw [ofChar_of_ge hlt] at h
        rw [List.mem_cons, List.mem_singleton] at h
        rcases h with h | h
        · have := congrArg UInt16.toNat h
          simp only [UInt16.toNat_ofNat', UInt16.toNat_zero] at this
          omega
        · have := congrArg UInt16.toNat h
          simp only [UInt16.toNat_ofNat', UInt16.toNat_zero] at this
          omega
    exact Char.toNat_inj.mp hzero
  · rintro rfl
    decide

theorem zero_mem_encode_iff {text : String} : 0 ∈ encode text ↔ '\x00' ∈ text.toList := by
  unfold encode
  rw [List.mem_flatMap]
  constructor
  · rintro ⟨c, hc, hzero⟩
    rwa [zero_mem_ofChar_iff.mp hzero] at hc
  · intro h
    exact ⟨'\x00', h, zero_mem_ofChar_iff.mpr rfl⟩

end Utf16

namespace RegValue

/-- The units of some data before the first zero unit, or all of them if there is none. -/
structure Begins (data : List UInt8) (units : List UInt16) : Prop where
  nonzero : 0 ∉ units
  bytes : data = LittleEndian.ofUnits units ∨
    ∃ behind, behind.length % 2 = 0 ∧ data = LittleEndian.ofUnits units ++ [0, 0] ++ behind

variable {data : List UInt8} {units : List UInt16} {v : RegValue} {text : String}

theorem takeWhile_of_nonzero (h : 0 ∉ units) : units.takeWhile (· ≠ 0) = units := by
  rw [List.takeWhile_eq_self_iff]
  intro u hu
  have hne : u ≠ 0 := fun h0 => h (h0 ▸ hu)
  simpa using hne

/-- What stands behind a zero unit is not looked at, also if there is a zero before it. -/
theorem takeWhile_append_zero (units behind : List UInt16) :
    (units ++ 0 :: behind).takeWhile (· ≠ 0) = units.takeWhile (· ≠ 0) := by
  induction units with
  | nil => rfl
  | cons u units ih =>
    rw [List.cons_append, List.takeWhile_cons, List.takeWhile_cons, ih]

theorem toUnits_append_zero (units : List UInt16) (behind : List UInt8) :
    LittleEndian.toUnits (LittleEndian.ofUnits units ++ [0, 0] ++ behind) =
      units ++ 0 :: LittleEndian.toUnits behind := by
  rw [List.append_assoc, LittleEndian.toUnits_ofUnits_append]
  rfl

theorem begins_iff (heven : data.length % 2 = 0) :
    Begins data units ↔ (LittleEndian.toUnits data).takeWhile (· ≠ 0) = units := by
  constructor
  · rintro ⟨hnonzero, rfl | ⟨behind, -, rfl⟩⟩
    · rw [LittleEndian.toUnits_ofUnits, takeWhile_of_nonzero hnonzero]
    · rw [toUnits_append_zero, takeWhile_append_zero, takeWhile_of_nonzero hnonzero]
  · rintro rfl
    refine ⟨fun hzero => by simpa using List.mem_takeWhile_imp hzero, ?_⟩
    have hdata := LittleEndian.ofUnits_toUnits heven
    have hsplit := List.takeWhile_append_dropWhile
      (p := fun u : UInt16 => decide (u ≠ 0)) (l := LittleEndian.toUnits data)
    cases hrest : (LittleEndian.toUnits data).dropWhile (fun u => decide (u ≠ 0)) with
    | nil =>
      left
      rw [hrest, List.append_nil] at hsplit
      rw [hsplit, hdata]
    | cons u garbage =>
      right
      -- Units are left over, so the first of them is the zero unit that ends the others.
      have hu : u = 0 := by
        have hhead := List.head?_dropWhile_not (fun u : UInt16 => decide (u ≠ 0))
          (LittleEndian.toUnits data)
        rw [hrest] at hhead
        simpa using hhead
      refine ⟨LittleEndian.ofUnits garbage, by rw [LittleEndian.length_ofUnits]; omega, ?_⟩
      rw [hrest, hu] at hsplit
      have hjoined := congrArg LittleEndian.ofUnits hsplit
      rw [hdata, LittleEndian.ofUnits, List.flatMap_append, List.flatMap_cons] at hjoined
      rw [List.append_assoc]
      exact hjoined.symm

theorem text?_eq_some_iff :
    v.text? = some text ↔ v.kind = ValueKind.string ∧ v.data.length % 2 = 0 ∧
      Begins v.data (Utf16.encode text) := by
  unfold text?
  rw [← and_assoc]
  by_cases h : v.kind = ValueKind.string ∧ v.data.length % 2 = 0
  · rw [if_pos h, Utf16.decode?_eq_some_iff, begins_iff h.2, and_iff_right h]
  · simp [h]

/-- A value is a string or a word, and not both. -/
theorem text?_or_word?_eq_none (v : RegValue) : v.text? = none ∨ v.word? = none := by
  by_cases h : v.kind = ValueKind.string
  · right
    have hword : v.kind ≠ ValueKind.word := by
      rw [h]
      decide
    simp [word?, hword]
  · left
    simp [text?, h]

/-- The text of a value is that of its units before the first zero unit. It has one if and only if
it is a string value, no unit is cut in half, and these units are well formed; and then they are the
units of the text. So a text without zeros is read from its units alone, and from its units with a
zero unit and anything of even length behind them. What is behind a zero unit never makes a
difference, be the data before it well formed or not. And no value is both a text and a number. -/
theorem text_ends_at_first_zero :
    (∀ (v : RegValue) text, v.text? = some text ↔
      v.kind = ValueKind.string ∧ v.data.length % 2 = 0 ∧
        ∃ units, Begins v.data units ∧ Utf16.WellFormed units ∧ Utf16.encode text = units) ∧
    (∀ (text : String) (behind : List UInt8), '\x00' ∉ text.toList → behind.length % 2 = 0 →
      let bytes := LittleEndian.ofUnits (Utf16.encode text)
      text? ⟨ValueKind.string, bytes ++ [0, 0] ++ behind⟩ = some text ∧
        text? ⟨ValueKind.string, bytes⟩ = some text) ∧
    (∀ (kind : UInt32) (front behind : List UInt8), front.length % 2 = 0 → behind.length % 2 = 0 →
      text? ⟨kind, front ++ [0, 0] ++ behind⟩ = text? ⟨kind, front⟩) ∧
    ∀ v : RegValue, v.text? = none ∨ v.word? = none := by
  refine ⟨?_, ?_, ?_, text?_or_word?_eq_none⟩
  · intro v text
    rw [text?_eq_some_iff]
    have hwell : Utf16.WellFormed (Utf16.encode text) :=
      Utf16.wellFormed_iff_exists_encode.mpr ⟨text, rfl⟩
    constructor
    · rintro ⟨hkind, heven, hbegins⟩
      exact ⟨hkind, heven, _, hbegins, hwell, rfl⟩
    · rintro ⟨hkind, heven, _, hbegins, -, rfl⟩
      exact ⟨hkind, heven, hbegins⟩
  · intro text behind hzero heven bytes
    have hnonzero : 0 ∉ Utf16.encode text := fun h => hzero (Utf16.zero_mem_encode_iff.mp h)
    have hbytes : bytes.length % 2 = 0 := by
      rw [LittleEndian.length_ofUnits]
      omega
    constructor
    · refine text?_eq_some_iff.mpr ⟨rfl, ?_, hnonzero, Or.inr ⟨behind, heven, rfl⟩⟩
      simp only [List.length_append, List.length_cons, List.length_nil]
      omega
    · exact text?_eq_some_iff.mpr ⟨rfl, hbytes, hnonzero, Or.inl rfl⟩
  · intro kind front behind hfront hbehind
    have heven : (front ++ [0, 0] ++ behind).length % 2 = 0 := by
      simp only [List.length_append, List.length_cons, List.length_nil]
      omega
    have hunits : (LittleEndian.toUnits (front ++ [0, 0] ++ behind)).takeWhile (· ≠ 0) =
        (LittleEndian.toUnits front).takeWhile (· ≠ 0) := by
      have hfirst := toUnits_append_zero (LittleEndian.toUnits front) behind
      rw [LittleEndian.ofUnits_toUnits hfront] at hfirst
      rw [hfirst, takeWhile_append_zero]
    simp only [text?, heven, hfront, hunits]

/-- A text with a pair of surrogates, and half of a pair behind its zero unit; and half of a pair
before a zero unit. -/
theorem text_ends_at_first_zero_garbage :
    text? ⟨ValueKind.string, [111, 0, 61, 216, 0, 222, 0, 0, 61, 216]⟩ = some "o😀" ∧
      text? ⟨ValueKind.string, [61, 216, 0, 0, 0, 222]⟩ = text? ⟨ValueKind.string, [61, 216]⟩ ∧
      text? ⟨ValueKind.string, [61, 216]⟩ = none := by
  obtain ⟨-, htext, hgarbage, -⟩ := text_ends_at_first_zero
  have hbytes : LittleEndian.ofUnits (Utf16.encode "o😀") = [111, 0, 61, 216, 0, 222] := by
    decide +kernel
  have hread := (htext "o😀" [61, 216] (by decide) (by decide)).1
  rw [hbytes] at hread
  exact ⟨hread, hgarbage ValueKind.string [61, 216] [0, 222] (by decide) (by decide),
    by decide +kernel⟩

end RegValue

end PocketLink
