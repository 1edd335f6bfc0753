import PocketLink.Error
import PocketLink.Link.Outside

/-!
# Broker handover

A broker owns the link to a device and hands a connected descriptor over. The usual one listens at
the local socket that the device information names. Exactly one descriptor is taken; a broker that
sends none, or several, has failed.
-/

namespace PocketLink

/-- A supplier of connected descriptors. -/
structure Broker where
  /-- Requests a connection to a device. -/
  request : Outside → DeviceInfo → Except Error Descriptor

namespace Broker

/-- How many descriptors can be received at a time. -/
def capacity : Nat := 4

/-- The single descriptor of a handover. -/
def single : List Descriptor → Except BrokerFailure Descriptor
  | [] => .error .nothingSent
  | [descriptor] => .ok descriptor
  | descriptors =>
    if capacity < descriptors.length then .error .overflow
    else .error (.severalSent descriptors.length)

/-- Takes the descriptor that the broker of a device hands over. -/
def handover (world : Outside) (info : DeviceInfo) : Except BrokerFailure Descriptor :=
  match info.brokerSocket with
  | none => .error (.noSocket info.name)
  | some path =>
    match world.askBroker path with
    | .error cause => .error (.unreachable path cause)
    | .ok descriptors => single descriptors

/-- The broker at the local socket that the information about a device names. -/
def ofDevice : Broker where
  request := fun world info => (handover world info).mapError Error.broker

theorem single_eq_ok_iff {descriptors : List Descriptor} {d : Descriptor} :
    single descriptors = .ok d ↔ descriptors = [d] := by
  match descriptors with
  | [] => simp [single]
  | [_] => simp [single]
  | _ :: _ :: _ => simp only [single]; split <;> simp

end Broker

end PocketLink
