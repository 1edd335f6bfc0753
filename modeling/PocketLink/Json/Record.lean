import PocketLink.Json.Basic

/-!
# Records in JSON

A record with named fields is written as an object, or as a list that gives the fields in order.
Unknown names are passed over, a known name may stand only once, and a field that is not given has a
default.
-/

namespace PocketLink.Json

/-- What a record document gives for each of the named fields, in the order of the names. -/
def slots? (names : List String) : Json → Option (List (Option Json))
  | .object members =>
    if members.all (fun m => m.1.isSome) &&
        names.all (fun name => (members.filter fun m => m.1 == some name).length ≤ 1) then
      some (names.map fun name => (members.find? fun m => m.1 == some name).map Prod.snd)
    else none
  | .array items =>
    if items.length ≤ names.length then
      some (items.map some ++ List.replicate (names.length - items.length) none)
    else none
  | _ => none

/-- A field: its default if it is not given. -/
def field {α : Type} (default : α) (read : Json → Option α) : Option Json → Option α
  | none => some default
  | some v => read v

/-- The text of a string value. -/
def text? : Json → Option String
  | .string text => text
  | _ => none

/-- A plain integer from zero up to a bound, which it does not reach. -/
def natBelow? (bound : Nat) : Json → Option Nat
  | .integer (.ofNat n) => if n < bound then some n else none
  | _ => none

/-- A field that may be `null`. -/
def nullable {α : Type} (read : Json → Option α) : Json → Option (Option α)
  | .null => some none
  | v => (read v).map some

end PocketLink.Json
