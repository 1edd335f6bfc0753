/-!
# Hexadecimal digits

Numbers of a fixed width in base sixteen, in either letter case, and the reading of digits of
either case. Bytes, identifiers and status codes are all shown this way.

The main statement is that a fixed-width number reads back as itself.
-/

namespace PocketLink.Hex

/-- The digit of a value below sixteen, with small letters. -/
def lower (n : Nat) : Char :=
  if n < 10 then Char.ofNat (0x30 + n) else Char.ofNat (0x61 + (n - 10))

/-- The digit of a value below sixteen, with capital letters. -/
def upper (n : Nat) : Char :=
  if n < 10 then Char.ofNat (0x30 + n) else Char.ofNat (0x41 + (n - 10))

/-- The value of a digit of either case. -/
def value? (c : Char) : Option Nat :=
  if 0x30 ≤ c.toNat ∧ c.toNat ≤ 0x39 then some (c.toNat - 0x30)
  else if 0x41 ≤ c.toNat ∧ c.toNat ≤ 0x46 then some (c.toNat - 0x41 + 10)
  else if 0x61 ≤ c.toNat ∧ c.toNat ≤ 0x66 then some (c.toNat - 0x61 + 10)
  else none

/-- The last `width` digits of a number, most significant first. -/
def fixed (digit : Nat → Char) : Nat → Nat → List Char
  | 0, _ => []
  | width + 1, n => fixed digit width (n / 16) ++ [digit (n % 16)]

/-- The number that a list of digits stands for after the digits read so far stood for `high`;
`none` if some character is no digit. -/
def valueFrom? (high : Nat) : List Char → Option Nat
  | [] => some high
  | c :: cs => do valueFrom? (16 * high + (← value? c)) cs

/-- Bytes as pairs of small digits. -/
def ofBytes (bytes : List UInt8) : List Char := bytes.flatMap fun b => fixed lower 2 b.toNat

/-- Pairs of digits as bytes, put behind the bytes read so far in reverse. -/
def bytesFrom? (before : List UInt8) : List Char → Option (List UInt8)
  | [] => some before.reverse
  | [_] => none
  | c :: d :: rest => do
    bytesFrom? (UInt8.ofNat (16 * (← value? c) + (← value? d)) :: before) rest

/-- Pairs of digits as bytes; `none` on an odd number of characters or one that is no digit. -/
def bytes? (digits : List Char) : Option (List UInt8) := bytesFrom? [] digits

/-! ## Laws -/

@[simp] theorem length_fixed (digit : Nat → Char) (width n : Nat) :
    (fixed digit width n).length = width := by
  induction width generalizing n with
  | zero => rfl
  | succ width ih => simp [fixed, ih]

theorem value?_lower {n : Nat} (h : n < 16) : value? (lower n) = some n := by
  have : ∀ k : Fin 16, value? (lower k) = some k.val := by decide
  exact this ⟨n, h⟩

theorem value?_upper {n : Nat} (h : n < 16) : value? (upper n) = some n := by
  have : ∀ k : Fin 16, value? (upper k) = some k.val := by decide
  exact this ⟨n, h⟩

theorem valueFrom?_append (high : Nat) (cs ds : List Char) :
    valueFrom? high (cs ++ ds) = (valueFrom? high cs).bind fun h => valueFrom? h ds := by
  induction cs generalizing high with
  | nil => rfl
  | cons c cs ih =>
    simp only [List.cons_append, valueFrom?]
    cases value? c with
    | none => rfl
    | some v => exact ih _

/-- How many numbers some digits can write. -/
def span : Nat → Nat
  | 0 => 1
  | width + 1 => 16 * span width

/-- A fixed-width number reads back as itself, as far as its width holds it. -/
theorem valueFrom?_fixed {digit : Nat → Char} (hd : ∀ n < 16, value? (digit n) = some n)
    (high width n : Nat) :
    valueFrom? high (fixed digit width n) = some (high * span width + n % span width) := by
  induction width generalizing n with
  | zero => simp [fixed, valueFrom?, span, Nat.mod_one]
  | succ width ih =>
    have hlt : n % 16 < 16 := Nat.mod_lt _ (by decide)
    simp only [fixed, valueFrom?_append, ih, Option.bind_some, valueFrom?, hd _ hlt,
      Option.bind_eq_bind]
    rw [span, Nat.mod_mul, Nat.mul_add, ← Nat.mul_assoc, Nat.mul_comm 16 high, Nat.mul_assoc]
    congr 1
    omega

end PocketLink.Hex
