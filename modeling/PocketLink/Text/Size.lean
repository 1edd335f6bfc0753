/-!
# Sizes in words

A number of bytes is shown with one decimal place in the largest of the units B, KB, MB, GB and TB
that leaves it at least one. Each unit is 1024 times the one before. The place is rounded to the
nearest tenth, and from the middle to the even one.
-/

namespace PocketLink.Size

/-- The quotient of two numbers, rounded to the nearest, and from the middle to the even one. -/
def roundedQuotient (n d : Nat) : Nat :=
  let q := n / d
  if 2 * (n % d) < d then q
  else if d < 2 * (n % d) then q + 1
  else if q % 2 = 0 then q else q + 1

/-- A number of tenths as a decimal. -/
def tenths (n : Nat) : String := Nat.repr (n / 10) ++ "." ++ Nat.repr (n % 10)

/-- A size whose unit is worth `scale` bytes or more, given the names of the units from there on. -/
def textFrom (bytes scale : Nat) (unit : String) : List String → String
  | [] => tenths (roundedQuotient (bytes * 10) scale) ++ " " ++ unit
  | next :: units =>
    if bytes < 1024 * scale then tenths (roundedQuotient (bytes * 10) scale) ++ " " ++ unit
    else textFrom bytes (1024 * scale) next units

/-- A number of bytes in words. The quotient is rounded once, and exactly. In double precision the
number of bytes is rounded before that, which makes no difference below 2^53 bytes, and may make one
from there on. -/
def text (bytes : Nat) : String := textFrom bytes 1 "B" ["KB", "MB", "GB", "TB"]

example : text 0 = "0.0 B" ∧ text 1023 = "1023.0 B" ∧ text 1280 = "1.2 KB" ∧
    text 1792 = "1.8 KB" ∧ text (5 * 1024 * 1024) = "5.0 MB" := by decide +kernel

end PocketLink.Size
