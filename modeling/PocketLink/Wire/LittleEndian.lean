/-!
# Little-endian words

All numbers on the wire are written least significant byte first. The two directions are defined
once, for any number of bytes, on natural numbers; words of a fixed width are views of them.

The main statements are that `bytes` and `value` are inverse to each other, as far as the width
allows, and that a list of units reads back from its bytes.
-/

namespace PocketLink.LittleEndian

/-- The `width` low bytes of a number, least significant first. -/
def bytes : Nat → Nat → List UInt8
  | 0, _ => []
  | width + 1, n => UInt8.ofNat n :: bytes width (n / 256)

/-- The number that a list of bytes stands for. -/
def value : List UInt8 → Nat
  | [] => 0
  | b :: bs => b.toNat + 256 * value bs

/-- A 16-bit word. -/
def u16 (w : UInt16) : List UInt8 := bytes 2 w.toNat

/-- A 32-bit word. -/
def u32 (w : UInt32) : List UInt8 := bytes 4 w.toNat

/-- The bytes of a list of 16-bit units. -/
def ofUnits (units : List UInt16) : List UInt8 := units.flatMap u16

/-- The 16-bit units of a list of bytes. A last odd byte belongs to no unit. -/
def toUnits : List UInt8 → List UInt16
  | low :: high :: rest => UInt16.ofNat (value [low, high]) :: toUnits rest
  | _ => []

/-- How many numbers some bytes can hold. -/
def span : Nat → Nat
  | 0 => 1
  | width + 1 => 256 * span width

/-! ## Laws -/

@[simp] theorem length_bytes (width n : Nat) : (bytes width n).length = width := by
  induction width generalizing n with
  | zero => rfl
  | succ width ih => simp [bytes, ih]

@[simp] theorem length_u16 (w : UInt16) : (u16 w).length = 2 := length_bytes 2 _

@[simp] theorem length_u32 (w : UInt32) : (u32 w).length = 4 := length_bytes 4 _

/-- A number reads back from its bytes, as far as they hold it. -/
theorem value_bytes (width n : Nat) : value (bytes width n) = n % span width := by
  induction width generalizing n with
  | zero => simp [bytes, value, span, Nat.mod_one]
  | succ width ih =>
    simp only [bytes, value, span, ih, UInt8.toNat_ofNat']
    rw [Nat.mod_mul]

theorem value_lt (bs : List UInt8) : value bs < span bs.length := by
  induction bs with
  | nil => simp [value, span]
  | cons b bs ih =>
    have hb := b.toNat_lt
    simp only [value, List.length_cons, span]
    omega

theorem bytes_value (bs : List UInt8) : bytes bs.length (value bs) = bs := by
  induction bs with
  | nil => rfl
  | cons b bs ih =>
    have hb := b.toNat_lt
    have h1 : (b.toNat + 256 * value bs) / 256 = value bs := by omega
    have h2 : UInt8.ofNat (b.toNat + 256 * value bs) = b := by
      apply UInt8.toNat_inj.mp
      simp only [UInt8.toNat_ofNat']
      omega
    simp only [List.length_cons, bytes, value, h1, h2, ih]

@[simp] theorem value_u16 (w : UInt16) : value (u16 w) = w.toNat := by
  have := w.toNat_lt
  simp only [u16, value_bytes, span]
  omega

@[simp] theorem value_u32 (w : UInt32) : value (u32 w) = w.toNat := by
  have := w.toNat_lt
  simp only [u32, value_bytes, span]
  omega

/-- Four bytes are those of the word that they stand for. -/
theorem u32_value {bs : List UInt8} (h : bs.length = 4) : u32 (UInt32.ofNat (value bs)) = bs := by
  have hlt := value_lt bs
  have hbytes := bytes_value bs
  rw [h] at hlt hbytes
  have hn : (UInt32.ofNat (value bs)).toNat = value bs := UInt32.toNat_ofNat_of_lt' hlt
  rw [u32, hn, hbytes]

theorem u16_value {bs : List UInt8} (h : bs.length = 2) : u16 (UInt16.ofNat (value bs)) = bs := by
  have hlt := value_lt bs
  have hbytes := bytes_value bs
  rw [h] at hlt hbytes
  have hn : (UInt16.ofNat (value bs)).toNat = value bs := UInt16.toNat_ofNat_of_lt' hlt
  rw [u16, hn, hbytes]

@[simp] theorem toUnits_u16_append (w : UInt16) (rest : List UInt8) :
    toUnits (u16 w ++ rest) = w :: toUnits rest := by
  have h : UInt16.ofNat (value (u16 w)) = w := by simp
  have e : u16 w = [UInt8.ofNat w.toNat, UInt8.ofNat (w.toNat / 256)] := rfl
  rw [e] at h ⊢
  simp only [List.cons_append, List.nil_append, toUnits, h]

/-- A list of units reads back from its bytes. -/
@[simp] theorem toUnits_ofUnits (units : List UInt16) : toUnits (ofUnits units) = units := by
  induction units with
  | nil => rfl
  | cons u us ih =>
    have : ofUnits (u :: us) = u16 u ++ ofUnits us := rfl
    rw [this, toUnits_u16_append, ih]

/-- Bytes of which none is left over are those of their units. -/
theorem ofUnits_toUnits {bs : List UInt8} (h : bs.length % 2 = 0) : ofUnits (toUnits bs) = bs := by
  fun_induction toUnits bs with
  | case1 low high rest ih =>
    have hrest : rest.length % 2 = 0 := by
      simp only [List.length_cons] at h
      omega
    have hpair : u16 (UInt16.ofNat (value [low, high])) = [low, high] := u16_value rfl
    have hcons : ofUnits (UInt16.ofNat (value [low, high]) :: toUnits rest) =
      u16 (UInt16.ofNat (value [low, high])) ++ ofUnits (toUnits rest) := rfl
    rw [hcons, hpair, ih hrest]
    rfl
  | case2 bs hnot =>
    match bs, h, hnot with
    | [], _, _ => rfl
    | low :: high :: rest, _, hnot => exact absurd rfl (hnot low high rest)

@[simp] theorem length_ofUnits (units : List UInt16) :
    (ofUnits units).length = 2 * units.length := by
  induction units with
  | nil => rfl
  | cons u us ih =>
    have : ofUnits (u :: us) = u16 u ++ ofUnits us := rfl
    rw [this, List.length_append, length_u16, ih, List.length_cons]
    omega

end PocketLink.LittleEndian
