import PocketLink.Text.Hex

/-!
# Device identifiers

A device is identified by 128 bits in four numbers. The text form is five groups of hexadecimal
digits between braces; the last two groups together give the last number. Reading takes letters of
either case and refuses everything that is not exactly of this form.
-/

namespace PocketLink

/-- A 128-bit identifier. -/
structure Guid where
  /-- The first group, eight digits. -/
  data1 : UInt32
  /-- The second group, four digits. -/
  data2 : UInt16
  /-- The third group, four digits. -/
  data3 : UInt16
  /-- The last two groups, four and twelve digits: eight bytes, kept as one number. -/
  data4 : UInt64
  deriving DecidableEq, Repr

namespace Guid

/-- How many numbers the last group can hold. -/
def lowSize : Nat := 0x1000000000000

/-- The text form, with capital letters. -/
def chars (g : Guid) : List Char :=
  ['{'] ++ Hex.fixed Hex.upper 8 g.data1.toNat ++
  ['-'] ++ Hex.fixed Hex.upper 4 g.data2.toNat ++
  ['-'] ++ Hex.fixed Hex.upper 4 g.data3.toNat ++
  ['-'] ++ Hex.fixed Hex.upper 4 (g.data4.toNat / lowSize) ++
  ['-'] ++ Hex.fixed Hex.upper 12 g.data4.toNat ++ ['}']

/-- The text form, with capital letters. -/
def text (g : Guid) : String := String.ofList g.chars

/-- A reader of a prefix of a text, which answers what follows. -/
abbrev Reader := StateT (List Char) Option

/-- The given character. -/
def mark (c : Char) : Reader Unit := fun
  | d :: rest => if d = c then some ((), rest) else none
  | [] => none

/-- A group of `n` digits. -/
def group (n : Nat) : Reader Nat := fun cs =>
  if (cs.take n).length = n then (Hex.valueFrom? 0 (cs.take n)).map (·, cs.drop n) else none

/-- The end of the text. -/
def done : Reader Unit := fun
  | [] => some ((), [])
  | _ => none

/-- Reads the text form in one go from its front to its end. It is not split into its groups first;
a text is refused here where it first departs from the form, and there for the number or the length
of its groups, but the same texts are refused. -/
def read : Reader Guid := do
  mark '{'
  let data1 ← group 8
  mark '-'
  let data2 ← group 4
  mark '-'
  let data3 ← group 4
  mark '-'
  let high ← group 4
  mark '-'
  let low ← group 12
  mark '}'
  done
  return {
    data1 := UInt32.ofNat data1
    data2 := UInt16.ofNat data2
    data3 := UInt16.ofNat data3
    data4 := UInt64.ofNat (high * lowSize + low) }

/-- The identifier that a text is the form of. -/
def parse? (text : String) : Option Guid := (read.run text.toList).map Prod.fst

end Guid

end PocketLink
