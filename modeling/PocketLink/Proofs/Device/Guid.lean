import PocketLink.Error
import PocketLink.Proofs.Text.Hex

/-!
# The text form of identifiers

A text is the form of an identifier if it is made of five groups of digits, of fixed widths, between
braces and hyphens. Reading goes through the marks and the groups in turn; what it takes is inverted
part by part (`read_eq_some_iff`), and what it answers is then known from the numbers for which the
groups stand. These are never too large for the words that hold them, since the widths are exact.
-/

namespace PocketLink.Guid

/-! ## Groups -/

/-- What stands between the marks of a text form. -/
structure Groups where
  first : List Char
  second : List Char
  third : List Char
  fourth : List Char
  fifth : List Char

namespace Groups

/-- The groups between their marks. -/
def chars (t : Groups) : List Char :=
  ['{'] ++ t.first ++ ['-'] ++ t.second ++ ['-'] ++ t.third ++ ['-'] ++ t.fourth ++ ['-'] ++
    t.fifth ++ ['}']

def all (t : Groups) : List (List Char) := [t.first, t.second, t.third, t.fourth, t.fifth]

/-- Groups of eight, four, four, four and twelve characters. -/
def Sized (t : Groups) : Prop := t.all.map List.length = [8, 4, 4, 4, 12]

/-- Groups of the right sizes in which all characters are digits. -/
structure WellFormed (t : Groups) : Prop where
  sized : t.Sized
  digits : ∀ group ∈ t.all, ∀ c ∈ group, Hex.IsDigit c

/-- Groups that stand for the numbers of an identifier. The last two are one number of 64 bits: its
upper 16 bits, shifted there, and its lower 48 bits. Nothing is cut off by any of the words, nor by
the shift. -/
structure StandsFor (t : Groups) (g : Guid) (high low : UInt64) : Prop where
  first : Hex.valueFrom? 0 t.first = some g.data1.toNat
  second : Hex.valueFrom? 0 t.second = some g.data2.toNat
  third : Hex.valueFrom? 0 t.third = some g.data3.toNat
  fourth : Hex.valueFrom? 0 t.fourth = some high.toNat
  fifth : Hex.valueFrom? 0 t.fifth = some low.toNat
  high_lt : high.toNat < 0x10000
  low_lt : low.toNat < lowSize
  packed : g.data4 = high <<< 48 ||| low
  value : g.data4.toNat = high.toNat * lowSize + low.toNat

end Groups

/-- The text forms: five groups of digits of the right widths, between their marks. -/
def IsTextForm (s : String) : Prop := ∃ t : Groups, t.WellFormed ∧ s.toList = t.chars

/-- The last number byte by byte, most significant byte first. -/
def tail (g : Guid) : List UInt8 := (LittleEndian.bytes 8 g.data4.toNat).reverse

/-! ## Reading -/

variable {α β : Type} {cs rest : List Char}

theorem mark_eq_some_iff {c : Char} {u : Unit} : mark c cs = some (u, rest) ↔ cs = c :: rest := by
  cases cs with
  | nil => simp [mark]
  | cons d more => by_cases h : d = c <;> simp [mark, h]

theorem group_eq_some_iff {n v : Nat} :
    group n cs = some (v, rest) ↔
      ∃ digits, digits.length = n ∧ Hex.valueFrom? 0 digits = some v ∧ cs = digits ++ rest := by
  constructor
  · intro h
    unfold group at h
    split at h
    · next hlen =>
      obtain ⟨w, hw, hpair⟩ := Option.map_eq_some_iff.mp h
      cases hpair
      exact ⟨cs.take n, hlen, hw, (List.take_append_drop n cs).symm⟩
    · cases h
  · rintro ⟨digits, rfl, hv, rfl⟩
    simp [group, hv]

theorem done_eq_some_iff {u : Unit} : done cs = some (u, rest) ↔ cs = [] ∧ rest = [] := by
  cases cs <;> simp [done, eq_comm]

theorem bind_eq_some_iff {first : Reader α} {next : α → Reader β} {b : β} :
    (first >>= next) cs = some (b, rest) ↔
      ∃ a middle, first cs = some (a, middle) ∧ next a middle = some (b, rest) := by
  show (first cs).bind (fun p => next p.1 p.2) = _ ↔ _
  rw [Option.bind_eq_some_iff]
  simp only [Prod.exists]

theorem toNat_packed {high low : UInt64} (hh : high.toNat < 0x10000) (hl : low.toNat < lowSize) :
    (high <<< 48 ||| low).toNat = high.toNat * lowSize + low.toNat := by
  have hfits : high.toNat * 2 ^ 48 < 2 ^ 64 := by omega
  have hshift : (high <<< 48).toNat = 2 ^ 48 * high.toNat := by
    rw [UInt64.toNat_shiftLeft, Nat.shiftLeft_eq]
    exact (Nat.mod_eq_of_lt hfits).trans (Nat.mul_comm _ _)
  rw [UInt64.toNat_or, hshift, ← Nat.two_pow_add_eq_or_of_lt hl, Nat.mul_comm]
  rfl

variable {g : Guid} {t : Groups}

theorem Groups.sized_iff :
    t.Sized ↔ t.first.length = 8 ∧ t.second.length = 4 ∧ t.third.length = 4 ∧
      t.fourth.length = 4 ∧ t.fifth.length = 12 := by
  simp only [Sized, all, List.map_cons, List.map_nil, List.cons.injEq, and_true]

/-- The numbers of five groups make up the identifier for which these stand. -/
theorem Groups.standsFor_of_values (sized : t.Sized) {n₁ n₂ n₃ n₄ n₅ : Nat}
    (h₁ : Hex.valueFrom? 0 t.first = some n₁) (h₂ : Hex.valueFrom? 0 t.second = some n₂)
    (h₃ : Hex.valueFrom? 0 t.third = some n₃) (h₄ : Hex.valueFrom? 0 t.fourth = some n₄)
    (h₅ : Hex.valueFrom? 0 t.fifth = some n₅) :
    t.StandsFor
      { data1 := UInt32.ofNat n₁, data2 := UInt16.ofNat n₂, data3 := UInt16.ofNat n₃
        data4 := UInt64.ofNat (n₄ * lowSize + n₅) } (UInt64.ofNat n₄) (UInt64.ofNat n₅) := by
  have fits {cs : List Char} {n width : Nat} (h : Hex.valueFrom? 0 cs = some n)
      (hwidth : cs.length = width) : n < Hex.span width :=
    hwidth ▸ (Hex.fixed_upper_of_valueFrom? h).1
  obtain ⟨w₁, w₂, w₃, w₄, w₅⟩ := sized_iff.mp sized
  -- The widths are those of the words, so no number is cut off by the word that takes it.
  have f₁ : n₁ < 2 ^ 32 := fits h₁ w₁
  have f₂ : n₂ < 2 ^ 16 := fits h₂ w₂
  have f₃ : n₃ < 2 ^ 16 := fits h₃ w₃
  have f₄ : n₄ < 0x10000 := fits h₄ w₄
  have f₅ : n₅ < lowSize := fits h₅ w₅
  have hfits : n₄ * lowSize + n₅ < 2 ^ 64 := by
    unfold lowSize at f₅ ⊢
    omega
  have hhigh : (UInt64.ofNat n₄).toNat = n₄ :=
    UInt64.toNat_ofNat_of_lt' (show n₄ < 2 ^ 64 by omega)
  have hlow : (UInt64.ofNat n₅).toNat = n₅ :=
    UInt64.toNat_ofNat_of_lt' (show n₅ < 2 ^ 64 by omega)
  have hall : (UInt64.ofNat (n₄ * lowSize + n₅)).toNat = n₄ * lowSize + n₅ :=
    UInt64.toNat_ofNat_of_lt' hfits
  refine ⟨?_, ?_, ?_, ?_, ?_, ?_, ?_, ?_, ?_⟩
  · rw [h₁, UInt32.toNat_ofNat_of_lt' f₁]
  · rw [h₂, UInt16.toNat_ofNat_of_lt' f₂]
  · rw [h₃, UInt16.toNat_ofNat_of_lt' f₃]
  · rw [h₄, hhigh]
  · rw [h₅, hlow]
  · rwa [hhigh]
  · rwa [hlow]
  · rw [← UInt64.toNat_inj, hall, toNat_packed (by rwa [hhigh]) (by rwa [hlow]), hhigh, hlow]
  · rw [hall, hhigh, hlow]

/-- Reading takes whole text forms, and answers the identifier for which the groups stand. -/
theorem read_eq_some_iff :
    read cs = some (g, rest) ↔
      rest = [] ∧ ∃ (t : Groups) (high low : UInt64),
        t.Sized ∧ t.StandsFor g high low ∧ cs = t.chars := by
  constructor
  · intro h
    simp only [read, bind_eq_some_iff, mark_eq_some_iff, group_eq_some_iff, done_eq_some_iff] at h
    obtain ⟨_, _, rfl, n₁, _, ⟨g₁, w₁, h₁, rfl⟩, _, _, rfl, n₂, _, ⟨g₂, w₂, h₂, rfl⟩, _, _, rfl, n₃,
      _, ⟨g₃, w₃, h₃, rfl⟩, _, _, rfl, n₄, _, ⟨g₄, w₄, h₄, rfl⟩, _, _, rfl, n₅, _,
      ⟨g₅, w₅, h₅, rfl⟩, _, _, rfl, _, _, ⟨rfl, rfl⟩, hg⟩ := h
    cases hg
    let t : Groups := { first := g₁, second := g₂, third := g₃, fourth := g₄, fifth := g₅ }
    have sized : t.Sized := Groups.sized_iff.mpr ⟨w₁, w₂, w₃, w₄, w₅⟩
    exact ⟨rfl, t, _, _, sized, Groups.standsFor_of_values sized h₁ h₂ h₃ h₄ h₅,
      by simp [t, Groups.chars]⟩
  · rintro ⟨rfl, t, high, low, sized, h, rfl⟩
    obtain ⟨w₁, w₂, w₃, w₄, w₅⟩ := Groups.sized_iff.mp sized
    have hchars : t.chars = '{' :: (t.first ++ '-' :: (t.second ++ '-' :: (t.third ++
        '-' :: (t.fourth ++ '-' :: (t.fifth ++ ['}']))))) := by simp [Groups.chars]
    simp only [read, hchars, bind_eq_some_iff, mark_eq_some_iff, group_eq_some_iff,
      done_eq_some_iff]
    refine ⟨(), _, rfl, _, _, ⟨t.first, w₁, h.first, rfl⟩, (), _, rfl, _, _,
      ⟨t.second, w₂, h.second, rfl⟩, (), _, rfl, _, _, ⟨t.third, w₃, h.third, rfl⟩, (), _, rfl,
      _, _, ⟨t.fourth, w₄, h.fourth, rfl⟩, (), _, rfl, _, _, ⟨t.fifth, w₅, h.fifth, rfl⟩, (), _,
      rfl, (), _, ⟨rfl, rfl⟩, ?_⟩
    have hall : UInt64.ofNat (high.toNat * lowSize + low.toNat) = g.data4 := by
      rw [← h.value, UInt64.ofNat_toNat]
    simp only [UInt32.ofNat_toNat, UInt16.ofNat_toNat, hall]
    rfl

/-- A text is read if it is of five groups, for the identifier for which these stand. -/
theorem parse?_eq_some_iff {s : String} :
    parse? s = some g ↔ ∃ (t : Groups) (high low : UInt64),
      t.Sized ∧ t.StandsFor g high low ∧ s.toList = t.chars := by
  unfold parse?
  rw [Option.map_eq_some_iff]
  constructor
  · rintro ⟨⟨g', rest⟩, hread, rfl⟩
    exact (read_eq_some_iff.mp hread).2
  · rintro h
    exact ⟨(g, []), read_eq_some_iff.mpr ⟨rfl, h⟩, rfl⟩

/-! ## Writing -/

def groups (g : Guid) : Groups where
  first := Hex.fixed Hex.upper 8 g.data1.toNat
  second := Hex.fixed Hex.upper 4 g.data2.toNat
  third := Hex.fixed Hex.upper 4 g.data3.toNat
  fourth := Hex.fixed Hex.upper 4 (g.data4.toNat / lowSize)
  fifth := Hex.fixed Hex.upper 12 g.data4.toNat

theorem toList_text (g : Guid) : g.text.toList = g.chars := String.toList_ofList

theorem sized_groups (g : Guid) : g.groups.Sized := by
  simp [Groups.Sized, Groups.all, groups]

/-- The groups that are written stand for the identifier. -/
theorem standsFor_groups (g : Guid) :
    g.groups.StandsFor g (g.data4 >>> 48) (g.data4 &&& 0xFFFFFFFFFFFF) := by
  have reads (width n : Nat) :
      Hex.valueFrom? 0 (Hex.fixed Hex.upper width n) = some (n % Hex.span width) := by
    rw [Hex.valueFrom?_fixed (fun _ => Hex.value?_upper), Nat.zero_mul, Nat.zero_add]
  have holds {width n : Nat} (h : n < Hex.span width) :
      Hex.valueFrom? 0 (Hex.fixed Hex.upper width n) = some n := by
    rw [reads, Nat.mod_eq_of_lt h]
  have hhigh : (g.data4 >>> 48).toNat = g.data4.toNat / lowSize := by
    rw [UInt64.toNat_shiftRight, Nat.shiftRight_eq_div_pow]
    rfl
  have hlow : (g.data4 &&& 0xFFFFFFFFFFFF).toNat = g.data4.toNat % lowSize := by
    rw [UInt64.toNat_and]
    exact Nat.and_two_pow_sub_one_eq_mod g.data4.toNat 48
  have high_lt : (g.data4 >>> 48).toNat < 0x10000 :=
    hhigh ▸ Nat.div_lt_of_lt_mul g.data4.toNat_lt
  have low_lt : (g.data4 &&& 0xFFFFFFFFFFFF).toNat < lowSize :=
    hlow ▸ Nat.mod_lt _ (by decide)
  have value : g.data4.toNat =
      (g.data4 >>> 48).toNat * lowSize + (g.data4 &&& 0xFFFFFFFFFFFF).toNat := by
    rw [hhigh, hlow, Nat.div_add_mod']
  refine ⟨holds g.data1.toNat_lt, holds g.data2.toNat_lt, holds g.data3.toNat_lt, ?_, ?_, high_lt,
    low_lt, ?_, value⟩
  · rw [hhigh]
    exact holds (hhigh ▸ high_lt)
  · rw [hlow]
    exact reads 12 g.data4.toNat
  · rw [← UInt64.toNat_inj, toNat_packed high_lt low_lt, ← value]

theorem parse?_text (g : Guid) : parse? g.text = some g :=
  parse?_eq_some_iff.mpr ⟨_, _, _, sized_groups g, standsFor_groups g, toList_text g⟩

/-- What is written for the identifier for which some groups stand are these groups, with their
letters capitalized. -/
theorem chars_of_standsFor {high low : UInt64} (sized : t.Sized) (h : t.StandsFor g high low) :
    g.chars = t.chars.map Char.toUpper := by
  obtain ⟨w₁, w₂, w₃, w₄, w₅⟩ := Groups.sized_iff.mp sized
  have capital {cs : List Char} {n width : Nat} (h : Hex.valueFrom? 0 cs = some n)
      (hwidth : cs.length = width) : Hex.fixed Hex.upper width n = cs.map Char.toUpper :=
    hwidth ▸ (Hex.fixed_upper_of_valueFrom? h).2
  have hlow := h.low_lt
  have hvalue := h.value
  have hfourth : g.data4.toNat / lowSize = high.toNat := by
    unfold lowSize at hlow hvalue ⊢
    omega
  -- The last group is written from the whole number, of which its width shows the lower part.
  have hfifth : Hex.fixed Hex.upper 12 g.data4.toNat = Hex.fixed Hex.upper 12 low.toNat := by
    have hspan : Hex.span 12 = lowSize := rfl
    have hmod : g.data4.toNat % lowSize = low.toNat := by
      rw [hvalue, Nat.mul_add_mod_of_lt hlow]
    rw [← Hex.fixed_mod_span, hspan, hmod]
  rw [chars, hfourth, hfifth, capital h.first w₁, capital h.second w₂, capital h.third w₃,
    capital h.fourth w₄, capital h.fifth w₅]
  simp only [Groups.chars, List.map_append, List.map_singleton]
  rfl

/-- The last two groups are the bytes of the last number, two digits for each. -/
theorem chars_eq_tail (g : Guid) :
    g.chars = ['{'] ++ Hex.fixed Hex.upper 8 g.data1.toNat ++
      ['-'] ++ Hex.fixed Hex.upper 4 g.data2.toNat ++
      ['-'] ++ Hex.fixed Hex.upper 4 g.data3.toNat ++
      ['-'] ++ (g.tail.take 2).flatMap (fun b => Hex.fixed Hex.upper 2 b.toNat) ++
      ['-'] ++ (g.tail.drop 2).flatMap (fun b => Hex.fixed Hex.upper 2 b.toNat) ++ ['}'] := by
  have hhigh : g.tail.take 2 = (LittleEndian.bytes 2 (g.data4.toNat / lowSize)).reverse := by
    simp [tail, LittleEndian.bytes, lowSize, Nat.div_div_eq_div_mul]
  have hlow : g.tail.drop 2 = (LittleEndian.bytes 6 g.data4.toNat).reverse := rfl
  rw [hhigh, hlow, ← Hex.fixed_two_mul, ← Hex.fixed_two_mul]
  rfl

/-! ## Text forms -/

theorem wellFormed_of_standsFor {high low : UInt64} (sized : t.Sized)
    (h : t.StandsFor g high low) : t.WellFormed := by
  have digits {cs : List Char} {n : Nat} (h : Hex.valueFrom? 0 cs = some n) :
      ∀ c ∈ cs, Hex.IsDigit c :=
    (Hex.isSome_valueFrom? 0 cs).mp (Option.isSome_of_eq_some h)
  refine ⟨sized, ?_⟩
  simp only [Groups.all, List.forall_mem_cons]
  exact ⟨digits h.first, digits h.second, digits h.third, digits h.fourth, digits h.fifth,
    fun _ hnone => absurd hnone List.not_mem_nil⟩

theorem Groups.WellFormed.standsFor (h : t.WellFormed) : ∃ g high low, t.StandsFor g high low := by
  have digits := h.digits
  simp only [Groups.all, List.forall_mem_cons] at digits
  obtain ⟨d₁, d₂, d₃, d₄, d₅, -⟩ := digits
  have value {cs : List Char} (h : ∀ c ∈ cs, Hex.IsDigit c) :
      ∃ n, Hex.valueFrom? 0 cs = some n :=
    Option.isSome_iff_exists.mp ((Hex.isSome_valueFrom? 0 cs).mpr h)
  obtain ⟨n₁, h₁⟩ := value d₁
  obtain ⟨n₂, h₂⟩ := value d₂
  obtain ⟨n₃, h₃⟩ := value d₃
  obtain ⟨n₄, h₄⟩ := value d₄
  obtain ⟨n₅, h₅⟩ := value d₅
  exact ⟨_, _, _, Groups.standsFor_of_values h.sized h₁ h₂ h₃ h₄ h₅⟩

theorem exists_parse?_iff {s : String} : (∃ g, parse? s = some g) ↔ IsTextForm s := by
  simp only [parse?_eq_some_iff]
  constructor
  · rintro ⟨g, t, high, low, sized, h, hs⟩
    exact ⟨t, wellFormed_of_standsFor sized h, hs⟩
  · rintro ⟨t, h, hs⟩
    obtain ⟨g, high, low, hg⟩ := h.standsFor
    exact ⟨g, t, high, low, h.sized, hg, hs⟩

/-- The text of what was read is what was read, with its letters capitalized. -/
theorem text_of_parse? {s : String} (h : parse? s = some g) :
    g.text = String.ofList (s.toList.map Char.toUpper) := by
  obtain ⟨t, high, low, sized, hg, hs⟩ := parse?_eq_some_iff.mp h
  rw [text, chars_of_standsFor sized hg, hs]

/-- The identifier of a device is the one that its text is read for. -/
theorem id_eq {s : String} {info : DeviceInfo} (h : info.guid = some s) :
    info.id = (parse? s).elim (.error (.invalidArgument .malformedGuid)) .ok := by
  unfold DeviceInfo.id
  rw [h]
  cases hs : parse? s <;> simp [hs]

/-! ## Letter case -/

/-- A reader that sees no difference between a text and the same text in small letters. -/
def CaseBlind (reader : Reader α) : Prop :=
  ∀ cs, reader (cs.map Char.toLower) = (reader cs).map fun p => (p.1, p.2.map Char.toLower)

theorem caseBlind_pure (a : α) : CaseBlind (pure a) := fun _ => rfl

theorem caseBlind_mark {c : Char} (h : c.isAlpha = false) : CaseBlind (mark c) := by
  intro cs
  cases cs with
  | nil => rfl
  | cons d rest => by_cases hd : d = c <;> simp [mark, Ascii.toLower_eq_iff h, hd]

theorem caseBlind_group (n : Nat) : CaseBlind (group n) := by
  intro cs
  unfold group
  rw [← List.map_take, List.length_map, Hex.valueFrom?_map_toLower, ← List.map_drop]
  split
  · rw [Option.map_map]
    rfl
  · rfl

theorem caseBlind_done : CaseBlind done := by
  intro cs
  cases cs <;> rfl

theorem CaseBlind.bind {first : Reader α} {next : α → Reader β} (h : CaseBlind first)
    (hn : ∀ a, CaseBlind (next a)) : CaseBlind (first >>= next) := by
  intro cs
  show (first (cs.map Char.toLower)).bind (fun p => next p.1 p.2) =
    ((first cs).bind fun p => next p.1 p.2).map _
  rw [h cs]
  cases first cs with
  | none => rfl
  | some p => exact hn p.1 p.2

theorem caseBlind_read : CaseBlind read := by
  have hyphen : CaseBlind (mark '-') := caseBlind_mark (by decide)
  exact (caseBlind_mark (by decide)).bind fun _ => (caseBlind_group 8).bind fun _ =>
    hyphen.bind fun _ => (caseBlind_group 4).bind fun _ =>
    hyphen.bind fun _ => (caseBlind_group 4).bind fun _ =>
    hyphen.bind fun _ => (caseBlind_group 4).bind fun _ =>
    hyphen.bind fun _ => (caseBlind_group 12).bind fun _ =>
    (caseBlind_mark (by decide)).bind fun _ => caseBlind_done.bind fun _ => caseBlind_pure _

/-- Texts that differ in the case of letters only are read for the same identifier, if for any. -/
theorem parse?_congr {s s' : String} (h : Ascii.sameName s s' = true) : parse? s = parse? s' := by
  have lowered (s : String) : parse? s = (read (Ascii.foldCase s)).map Prod.fst := by
    have hread : read (Ascii.foldCase s) = _ := caseBlind_read s.toList
    rw [hread, Option.map_map]
    rfl
  rw [lowered, lowered, Ascii.sameName_iff.mp h]

/-- The texts that differ from the text form of an identifier in the case of letters only are those
that are read for it. -/
theorem sameName_text_iff {s : String} : Ascii.sameName s g.text = true ↔ parse? s = some g := by
  constructor
  · intro h
    rw [parse?_congr h, parse?_text]
  · intro h
    rw [Ascii.sameName_iff, Ascii.foldCase, Ascii.foldCase, text_of_parse? h, String.toList_ofList,
      List.map_map]
    exact List.map_congr_left fun c _ => (Ascii.toLower_toUpper c).symm

/-! ## The main statement -/

/-- The text form is exact. What is written for an identifier is read for it: two digits for every
byte of the last number. And a text is read if and only if it is a text form; then it is written
again with its letters capitalized, and its groups stand for the numbers, none of which is cut off.
A device with any other text has no identifier, because that argument is refused. -/
theorem text_form_exact :
    (∀ g : Guid, parse? g.text = some g ∧
      g.text.toList = ['{'] ++ Hex.fixed Hex.upper 8 g.data1.toNat ++
        ['-'] ++ Hex.fixed Hex.upper 4 g.data2.toNat ++
        ['-'] ++ Hex.fixed Hex.upper 4 g.data3.toNat ++
        ['-'] ++ (g.tail.take 2).flatMap (fun b => Hex.fixed Hex.upper 2 b.toNat) ++
        ['-'] ++ (g.tail.drop 2).flatMap (fun b => Hex.fixed Hex.upper 2 b.toNat) ++ ['}']) ∧
    ∀ s : String,
      ((∃ g, parse? s = some g) ↔ IsTextForm s) ∧
      (∀ g, parse? s = some g →
        g.text = String.ofList (s.toList.map Char.toUpper) ∧
          ∃ (t : Groups) (high low : UInt64),
            t.WellFormed ∧ s.toList = t.chars ∧ t.StandsFor g high low) ∧
      ∀ info : DeviceInfo, info.guid = some s →
        (∀ g, info.id = .ok g ↔ parse? s = some g) ∧
          (info.id = .error (.invalidArgument .malformedGuid) ↔ ¬ IsTextForm s) := by
  refine ⟨fun g => ⟨parse?_text g, (toList_text g).trans (chars_eq_tail g)⟩,
    fun s => ⟨exists_parse?_iff, fun g hg => ⟨text_of_parse? hg, ?_⟩, fun info hinfo => ?_⟩⟩
  · obtain ⟨t, high, low, sized, h, hs⟩ := parse?_eq_some_iff.mp hg
    exact ⟨t, high, low, wellFormed_of_standsFor sized h, hs, h⟩
  · rw [id_eq hinfo, ← exists_parse?_iff]
    cases parse? s <;> simp

/-- Letters of either case are read, a sign and a digit of more than one byte are not. -/
example :
    (parse? "{1234abCD-0001-bEEf-800A-0102030405fF}").map text =
        some "{1234ABCD-0001-BEEF-800A-0102030405FF}" ∧
      parse? "{+234ABCD-0001-BEEF-800A-0102030405FF}" = none ∧
      parse? "{12３ABCD-0001-BEEF-800A-0102030405FF}" = none := by
  decide +kernel

end PocketLink.Guid
