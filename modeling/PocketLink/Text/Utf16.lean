/-!
# UTF-16 code units

Devices speak UTF-16: a string on the wire is a list of 16-bit units. A character below `U+10000`
is one unit; every other character is a pair, a high surrogate followed by a low one. Decoding is
partial: a surrogate that is not part of such a pair stands for no character.

The main statement is that every text survives the way through its units.
-/

namespace PocketLink.Utf16

/-- The units of one character: itself below `U+10000`, else a high and a low surrogate. -/
def ofChar (c : Char) : List UInt16 :=
  if c.toNat < 0x10000 then
    [UInt16.ofNat c.toNat]
  else
    [UInt16.ofNat (0xD800 + (c.toNat - 0x10000) / 0x400),
     UInt16.ofNat (0xDC00 + (c.toNat - 0x10000) % 0x400)]

def encode (text : String) : List UInt16 := text.toList.flatMap ofChar

/-- The number of units of a text, the measure in which devices limit and announce lengths. -/
def length (text : String) : Nat := (encode text).length

/-- The number of units, known without listing them where every character is a single byte. A text
of any size is thus measured before it is encoded. -/
def count (text : String) : Nat :=
  if text.utf8ByteSize = text.length then text.length else length text

/-- The first half of a pair. -/
def isHigh (u : UInt16) : Bool := 0xD800 ≤ u.toNat && u.toNat < 0xDC00

/-- The second half of a pair. -/
def isLow (u : UInt16) : Bool := 0xDC00 ≤ u.toNat && u.toNat < 0xE000

/-- The character that a high and a low surrogate stand for. -/
def pair (high low : UInt16) : Char :=
  Char.ofNat (0x10000 + (high.toNat - 0xD800) * 0x400 + (low.toNat - 0xDC00))

/-- The characters of a list of units; `none` if some surrogate has no partner. -/
def chars? : List UInt16 → Option (List Char)
  | [] => some []
  | [u] => if isHigh u || isLow u then none else some [Char.ofNat u.toNat]
  | u :: v :: rest =>
    if isHigh u then
      if isLow v then (chars? rest).map (pair u v :: ·) else none
    else if isLow u then none
    else (chars? (v :: rest)).map (Char.ofNat u.toNat :: ·)

/-- The text of a list of units; `none` if the units are ill-formed. -/
def decode? (units : List UInt16) : Option String := (chars? units).map String.ofList

/-! ## Laws -/

theorem ofChar_of_lt {c : Char} (h : c.toNat < 0x10000) : ofChar c = [UInt16.ofNat c.toNat] :=
  if_pos h

theorem ofChar_of_ge {c : Char} (h : ¬ c.toNat < 0x10000) :
    ofChar c = [UInt16.ofNat (0xD800 + (c.toNat - 0x10000) / 0x400),
      UInt16.ofNat (0xDC00 + (c.toNat - 0x10000) % 0x400)] :=
  if_neg h

/-- A character is no surrogate and lies below `U+110000`. -/
theorem toNat_valid (c : Char) : c.toNat < 0xD800 ∨ (0xDFFF < c.toNat ∧ c.toNat < 0x110000) :=
  c.valid

theorem chars?_ofChar_append (c : Char) (units : List UInt16) :
    chars? (ofChar c ++ units) = (chars? units).map (c :: ·) := by
  have hc := toNat_valid c
  by_cases h : c.toNat < 0x10000
  · rw [ofChar_of_lt h]
    have hn : (UInt16.ofNat c.toNat).toNat = c.toNat := by
      simp only [UInt16.toNat_ofNat']; omega
    have hh : isHigh (UInt16.ofNat c.toNat) = false := by
      simp only [isHigh, hn, Bool.and_eq_false_iff, decide_eq_false_iff_not]; omega
    have hl : isLow (UInt16.ofNat c.toNat) = false := by
      simp only [isLow, hn, Bool.and_eq_false_iff, decide_eq_false_iff_not]; omega
    cases units with
    | nil => simp [chars?, hh, hl, hn]
    | cons v rest => simp [chars?, hh, hl, hn]
  · rw [ofChar_of_ge h]
    generalize ha : 0xD800 + (c.toNat - 0x10000) / 0x400 = a
    generalize hb : 0xDC00 + (c.toNat - 0x10000) % 0x400 = b
    have hna : (UInt16.ofNat a).toNat = a := by simp only [UInt16.toNat_ofNat']; omega
    have hnb : (UInt16.ofNat b).toNat = b := by simp only [UInt16.toNat_ofNat']; omega
    have hh : isHigh (UInt16.ofNat a) = true := by
      simp only [isHigh, hna, Bool.and_eq_true, decide_eq_true_eq]; omega
    have hl : isLow (UInt16.ofNat b) = true := by
      simp only [isLow, hnb, Bool.and_eq_true, decide_eq_true_eq]; omega
    have hp : pair (UInt16.ofNat a) (UInt16.ofNat b) = c := by
      have : 0x10000 + (a - 0xD800) * 0x400 + (b - 0xDC00) = c.toNat := by omega
      simp only [pair, hna, hnb, this, Char.ofNat_toNat]
    simp [chars?, hh, hl, hp]

/-- Every text survives the way through its units. -/
@[simp] theorem decode?_encode (text : String) : decode? (encode text) = some text := by
  have key : ∀ cs : List Char, chars? (cs.flatMap ofChar) = some cs := by
    intro cs
    induction cs with
    | nil => rfl
    | cons c cs ih => rw [List.flatMap_cons, chars?_ofChar_append, ih]; rfl
  simp [decode?, encode, key]

theorem length_replicate (n : Nat) (c : Char) :
    length (String.ofList (List.replicate n c)) = n * (ofChar c).length := by
  rw [length, encode, String.toList_ofList, List.length_flatMap, List.map_replicate,
    List.sum_replicate_nat]

theorem length_push (text : String) (c : Char) :
    length (text.push c) = length text + (ofChar c).length := by
  simp [length, encode]

/-- No text has fewer bytes than characters, and one that has no more has as many units. -/
theorem length_of_utf8ByteSize (text : String) :
    text.length ≤ text.utf8ByteSize ∧
      (text.utf8ByteSize = text.length → length text = text.length) := by
  induction text using String.push_induction with
  | empty => exact ⟨Nat.le_refl _, fun _ => rfl⟩
  | push text c ih =>
    have hpos := Char.utf8Size_pos c
    rw [String.utf8ByteSize_push, String.length_push, length_push]
    refine ⟨by omega, fun h => ?_⟩
    have hone : c.utf8Size = 1 := by omega
    have hlow : c.toNat < 0x10000 := by
      have hval : c.val.toNat ≤ 127 := Char.utf8Size_eq_one_iff.mp hone
      exact Nat.lt_of_le_of_lt hval (by decide)
    rw [ih.2 (by omega), ofChar_of_lt hlow, List.length_singleton]

@[simp] theorem count_eq (text : String) : count text = length text := by
  unfold count
  split
  · next h => exact ((length_of_utf8ByteSize text).2 h).symm
  · rfl

theorem toNat_ofNat {n : Nat} (h : n.isValidChar) : (Char.ofNat n).toNat = n := by
  rw [Char.ofNat, dif_pos h]
  rfl

theorem ofChar_single {u : UInt16} (hh : ¬ isHigh u = true) (hl : ¬ isLow u = true) :
    ofChar (Char.ofNat u.toNat) = [u] := by
  have hu := u.toNat_lt
  simp only [isHigh, isLow, Bool.and_eq_true, decide_eq_true_eq] at hh hl
  have hn : (Char.ofNat u.toNat).toNat = u.toNat := toNat_ofNat (by unfold Nat.isValidChar; omega)
  rw [ofChar_of_lt (by omega), hn, UInt16.ofNat_toNat]

theorem ofChar_pair {u v : UInt16} (hh : isHigh u = true) (hl : isLow v = true) :
    ofChar (pair u v) = [u, v] := by
  simp only [isHigh, isLow, Bool.and_eq_true, decide_eq_true_eq] at hh hl
  generalize hn : 0x10000 + (u.toNat - 0xD800) * 0x400 + (v.toNat - 0xDC00) = n
  have hc : (pair u v).toNat = n := by
    rw [pair, hn]
    exact toNat_ofNat (by unfold Nat.isValidChar; omega)
  have hhigh : 0xD800 + (n - 0x10000) / 0x400 = u.toNat := by omega
  have hlow : 0xDC00 + (n - 0x10000) % 0x400 = v.toNat := by omega
  rw [ofChar_of_ge (by omega), hc, hhigh, hlow, UInt16.ofNat_toNat, UInt16.ofNat_toNat]

/-- Characters have no other units than those they are decoded from. -/
theorem flatMap_ofChar_of_chars? {units : List UInt16} {cs : List Char}
    (h : chars? units = some cs) : cs.flatMap ofChar = units := by
  fun_induction chars? units generalizing cs with
  | case1 =>
    cases h
    rfl
  | case2 u hu => cases h
  | case3 u hu =>
    rw [Bool.or_eq_true, not_or] at hu
    cases h
    rw [List.flatMap_singleton, ofChar_single hu.1 hu.2]
  | case4 u v rest hu hv ih =>
    obtain ⟨more, hmore, rfl⟩ := Option.map_eq_some_iff.mp h
    rw [List.flatMap_cons, ofChar_pair hu hv, ih hmore]
    rfl
  | case5 u v rest hu hv => cases h
  | case6 u v rest hu hv => cases h
  | case7 u v rest hu hv ih =>
    obtain ⟨more, hmore, rfl⟩ := Option.map_eq_some_iff.mp h
    rw [List.flatMap_cons, ofChar_single hu hv, ih hmore]
    rfl

/-- A text is decoded from its units and from no others. -/
theorem decode?_eq_some_iff {units : List UInt16} {text : String} :
    decode? units = some text ↔ units = encode text := by
  constructor
  · intro h
    obtain ⟨cs, hcs, rfl⟩ := Option.map_eq_some_iff.mp h
    rw [encode, String.toList_ofList, flatMap_ofChar_of_chars? hcs]
  · rintro rfl
    exact decode?_encode text

end PocketLink.Utf16
