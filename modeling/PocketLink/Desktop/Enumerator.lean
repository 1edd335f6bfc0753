import PocketLink.Desktop.Basic

/-!
# Enumerators

An enumerator walks through the devices that were connected when it was made. What the desktop does
later changes neither the devices nor their order.
-/

namespace PocketLink

/-- A list of devices and a cursor in it. -/
structure Enumerator where
  /-- The devices, in order. -/
  devices : List DeviceId
  /-- How many of them were passed. -/
  cursor : Nat := 0
  deriving DecidableEq, Repr

namespace Enumerator

/-- The number of devices, wherever the cursor is. -/
def total (e : Enumerator) : Nat := e.devices.length

/-- The devices that are still to come. -/
def rest (e : Enumerator) : List DeviceId := e.devices.drop e.cursor

/-- The number of devices still to come. -/
def length (e : Enumerator) : Nat := e.devices.length - e.cursor

def isEmpty (e : Enumerator) : Bool := e.devices.isEmpty

def next : Operation Enumerator Error DeviceId := do
  let e ← get
  match e.devices[e.cursor]? with
  | some id =>
    set { e with cursor := e.cursor + 1 }
    return id
  | none => throw .noMoreDevices

/-- Passes `count` devices one by one. It stops at the end, if that comes first. -/
def skip : Nat → Operation Enumerator Error Unit
  | 0 => pure ()
  | count + 1 => do
    let _ ← next
    skip count

/-- Goes back to the first device. -/
def reset (e : Enumerator) : Enumerator := { e with cursor := 0 }

/-- Goes to the end, past everything that is still to come. -/
def finish (e : Enumerator) : Enumerator := { e with cursor := e.cursor + e.length }

/-- A copy, which starts at the first device. -/
def clone (e : Enumerator) : Enumerator := { devices := e.devices }

end Enumerator

/-- The devices that are connected now. -/
def Desktop.enumerate {σ : Type} (d : Desktop σ) : Enumerator := { devices := d.listed }

end PocketLink
