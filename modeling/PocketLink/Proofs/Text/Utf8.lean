import Mathlib.Data.String.Basic
import PocketLink.Text.Utf8

/-!
# The order of texts

Texts are ordered character by character, file names byte by byte. In UTF-8 this is the same order:
the first byte tells how many follow, more of them for greater characters, and among characters of
one length the bytes are the digits of the number, the most significant ones first.
-/

namespace PocketLink.Utf8

/-! ## Bytes -/

theorem cons_lt_cons {m n : Nat} (hm : m < 256) (hn : n < 256) {as bs : List UInt8} :
    UInt8.ofNat m :: as < UInt8.ofNat n :: bs ↔ m < n ∨ m = n ∧ as < bs := by
  rw [List.cons_lt_cons_iff, UInt8.lt_iff_toNat_lt, ← UInt8.toNat_inj, UInt8.toNat_ofNat',
    UInt8.toNat_ofNat', Nat.mod_eq_of_lt hm, Nat.mod_eq_of_lt hn]

/-- A number over a marked byte and `k` more, which take its last digits to the base 64. -/
def digits (mark : Nat) : Nat → Nat → List UInt8
  | 0, n => [UInt8.ofNat (mark + n)]
  | k + 1, n => digits mark k (n / 64) ++ [UInt8.ofNat (n % 64 + 128)]

variable {mark k m n : Nat}

theorem digits_eq_cons (mark k n : Nat) :
    ∃ more, digits mark k n = UInt8.ofNat (mark + n / 64 ^ k) :: more := by
  induction k generalizing n with
  | zero => exact ⟨[], by simp [digits]⟩
  | succ k ih =>
    obtain ⟨more, hmore⟩ := ih (n / 64)
    refine ⟨more ++ [UInt8.ofNat (n % 64 + 128)], ?_⟩
    rw [digits, hmore, Nat.div_div_eq_div_mul, ← Nat.pow_succ']
    rfl

/-- The greater number has the greater digits, whatever comes behind them. -/
theorem digits_append_lt (h : m < n) (hn : mark + n / 64 ^ k < 256) (as bs : List UInt8) :
    digits mark k m ++ as < digits mark k n ++ bs := by
  induction k generalizing m n as bs with
  | zero =>
    rw [Nat.pow_zero, Nat.div_one] at hn
    exact (cons_lt_cons (by omega) hn).mpr (Or.inl (by omega))
  | succ k ih =>
    rw [Nat.pow_succ', ← Nat.div_div_eq_div_mul] at hn
    rw [digits, digits, List.append_assoc, List.append_assoc]
    rcases Nat.lt_or_ge (m / 64) (n / 64) with hdiv | hdiv
    · exact ih hdiv hn _ _
    · -- The last digit alone decides.
      have hsame : m / 64 = n / 64 := by omega
      rw [hsame]
      exact List.append_left_lt ((cons_lt_cons (by omega) (by omega)).mpr (Or.inl (by omega)))

/-! ## Characters -/

/-- How many bytes follow the first one of a character. -/
def following (n : Nat) : Nat :=
  if n ≤ 127 then 0 else if n ≤ 2047 then 1 else if n ≤ 65535 then 2 else 3

/-- The mark on the first byte of a character, by the number of those that follow. -/
def lead : Nat → Nat
  | 0 => 0
  | 1 => 192
  | 2 => 224
  | _ => 240

theorem val_lt (c : Char) : c.val.toNat < 1114112 := by
  rcases c.valid with hlow | hhigh
  · exact hlow.trans (by decide)
  · exact hhigh.2

theorem encodeChar_eq (c : Char) :
    String.utf8EncodeChar c = digits (lead (following c.val.toNat)) (following c.val.toNat)
      c.val.toNat := by
  have hc := val_lt c
  unfold String.utf8EncodeChar
  generalize c.val.toNat = n at hc
  have h4096 : n / 4096 = n / 64 / 64 := by rw [Nat.div_div_eq_div_mul]
  have h262144 : n / 262144 = n / 64 / 64 / 64 := by simp only [Nat.div_div_eq_div_mul]
  dsimp only
  unfold following
  split_ifs with hone htwo hthree
  · simp [digits, lead]
  · have hfirst : n / 64 % 32 + 192 = 192 + n / 64 := by omega
    rw [hfirst]
    rfl
  · have hfirst : n / 4096 % 16 + 224 = 224 + n / 64 / 64 := by omega
    rw [hfirst]
    rfl
  · have hfirst : n / 262144 % 8 + 240 = 240 + n / 64 / 64 / 64 := by omega
    rw [hfirst, h4096]
    rfl

theorem encodeChar_append_lt {c d : Char} (h : c < d) (as bs : List UInt8) :
    String.utf8EncodeChar c ++ as < String.utf8EncodeChar d ++ bs := by
  have hlt : c.val.toNat < d.val.toNat := h
  have hd := val_lt d
  rw [encodeChar_eq, encodeChar_eq]
  generalize c.val.toNat = m at hlt
  generalize d.val.toNat = n at hlt hd
  have hlead : lead (following n) + n / 64 ^ following n < 256 := by
    unfold following
    split_ifs <;> simp only [lead] <;> omega
  by_cases hsame : following m = following n
  · rw [hsame]
    exact digits_append_lt hlt hlead as bs
  · -- The first byte tells which one is longer.
    have hfirst : lead (following m) + m / 64 ^ following m <
        lead (following n) + n / 64 ^ following n := by
      unfold following at hsame ⊢
      split_ifs at hsame ⊢ <;> simp only [lead] <;> omega
    obtain ⟨more, hmore⟩ := digits_eq_cons (lead (following m)) (following m) m
    obtain ⟨more', hmore'⟩ := digits_eq_cons (lead (following n)) (following n) n
    rw [hmore, hmore']
    exact (cons_lt_cons (by omega) hlead).mpr (Or.inl hfirst)

/-! ## Texts -/

theorem encode_eq_flatMap (text : String) :
    encode text = text.toList.flatMap String.utf8EncodeChar := by
  rw [encode, String.toUTF8_eq_toByteArray, ← String.utf8Encode_toList, List.utf8Encode,
    List.toList_data_toByteArray]

theorem encode_lt_encode_of_lt {a b : String} (h : a < b) : encode a < encode b := by
  rw [String.lt_iff_toList_lt] at h
  rw [encode_eq_flatMap, encode_eq_flatMap]
  generalize a.toList = cs at h
  generalize b.toList = ds at h
  induction cs generalizing ds with
  | nil =>
    cases ds with
    | nil => exact absurd h (List.not_lt_nil _)
    | cons d ds =>
      obtain ⟨more, hmore⟩ := digits_eq_cons (lead (following d.val.toNat))
        (following d.val.toNat) d.val.toNat
      rw [List.flatMap_nil, List.flatMap_cons, encodeChar_eq, hmore]
      exact List.nil_lt_cons _ _
  | cons c cs ih =>
    cases ds with
    | nil => exact absurd h (List.not_lt_nil _)
    | cons d ds =>
      rw [List.flatMap_cons, List.flatMap_cons]
      rcases List.cons_lt_cons_iff.mp h with hfirst | ⟨rfl, hrest⟩
      · exact encodeChar_append_lt hfirst _ _
      · exact List.append_left_lt (ih ds hrest)

theorem decode?_eq_some_iff {bytes : List UInt8} {text : String} :
    decode? bytes = some text ↔ bytes = encode text := by
  constructor
  · intro h
    rw [decode?, String.fromUTF8?] at h
    split at h
    · cases h
      simp [encode, String.fromUTF8]
    · cases h
  · rintro rfl
    exact decode?_encode text

/-- Texts are in the order of their bytes. -/
theorem encode_lt_encode_iff {a b : String} : encode a < encode b ↔ a < b := by
  refine ⟨fun h => ?_, encode_lt_encode_of_lt⟩
  rcases lt_trichotomy a b with hlt | rfl | hgt
  · exact hlt
  · exact absurd h (List.lt_irrefl _)
  · exact absurd h (List.lt_asymm (encode_lt_encode_of_lt hgt))

end PocketLink.Utf8
