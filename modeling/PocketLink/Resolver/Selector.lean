import PocketLink.Device.Info
import PocketLink.Text.Ascii
import PocketLink.Text.Quoted

/-!
# Selectors

A selector says which device is meant. Names and object paths are compared without regard to the
case of ASCII letters.
-/

namespace PocketLink

/-- Which device is meant. -/
inductive Selector where
  /-- The first one available. -/
  | default
  /-- The one with this name. -/
  | name (name : String)
  /-- The one announced under this path. -/
  | objectPath (path : String)
  deriving DecidableEq, Repr

namespace Selector

/-- Whether a device is one that the selector means. -/
def selects : Selector → DeviceInfo → Bool
  | .default, _ => true
  | .name wanted, info => Ascii.sameName info.name wanted
  | .objectPath wanted, info =>
    match info.objectPath with
    | some p => Ascii.sameName p wanted
    | none => false

/-- The selector in words. -/
def text : Selector → String
  | .default => "default device"
  | .name wanted => "device named " ++ Quoted.quote wanted
  | .objectPath wanted => "device at " ++ wanted

end Selector

end PocketLink
