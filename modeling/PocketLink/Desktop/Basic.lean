import PocketLink.Resolver.Basic
import PocketLink.Settings

/-!
# Desktops

A desktop keeps track of the connected devices and of the sinks that want to be told when a device
comes or goes. Every device that it ever made keeps its number, under which enumerators and sessions
hold it after it has left the list; whether it is connected is recorded with it.

Operations answer the desktop afterwards and, where sinks are to be told, the notices in the order
in which they are to be delivered. Delivery is the caller's, so a sink may use the desktop while
notices are still to come.
-/

namespace PocketLink

/-- The number of a device: how many the desktop had made before it. -/
abbrev DeviceId := Nat

/-- Whether a device can be reached. -/
inductive DeviceStatus where
  | connected
  | disconnected
  deriving DecidableEq, Repr

/-- A device that a desktop made. -/
structure Device where
  /-- What is known about it. -/
  info : DeviceInfo
  /-- Whether it can be reached. -/
  status : DeviceStatus := .connected
  deriving DecidableEq, Repr

/-- The connected devices and the sinks that are told about them. `σ` is what a sink is. -/
structure Desktop (σ : Type) where
  /-- The settings of the devices' sessions. -/
  settings : Settings
  /-- Where device information comes from. -/
  resolver : Resolver
  /-- Every device ever made; its place is its number. -/
  created : List Device := []
  /-- The numbers of the connected devices, in order of arrival. -/
  listed : List DeviceId := []
  /-- The sinks by cookie, in increasing order. -/
  sinks : List (UInt32 × σ) := []
  /-- The cookie that was issued last. -/
  lastCookie : UInt32 := 0
  /-- Whether the desktop was shut down. -/
  isClosed : Bool := false

namespace Desktop

variable {σ : Type}

/-- What discovery calls the devices of the connection broker. -/
def brokerPrefix : String := "/org/synce/dccm/"

/-! ## Devices -/

/-- The device with a number. -/
def device? (d : Desktop σ) (id : DeviceId) : Option Device := d.created[id]?

/-- What is known about the device with a number. -/
def info (d : Desktop σ) (id : DeviceId) : DeviceInfo :=
  match d.device? id with
  | some device => device.info
  | none => {}

/-- Whether the device with a number can be reached. -/
def status (d : Desktop σ) (id : DeviceId) : DeviceStatus :=
  match d.device? id with
  | some device => device.status
  | none => .disconnected

/-- The desktop with one device more, at the end of the list. -/
def addDevice (d : Desktop σ) (info : DeviceInfo) : Desktop σ :=
  { d with created := d.created ++ [{ info := info }], listed := d.listed ++ [d.created.length] }

/-- The desktop after a device was found to be gone. -/
def markGone (d : Desktop σ) (id : DeviceId) : Desktop σ :=
  { d with created := d.created.modify id fun device => { device with status := .disconnected } }

/-- The desktop after some of the listed devices were found to be gone. -/
def removeWhere (d : Desktop σ) (gone : DeviceId → Bool) : Desktop σ :=
  let d' := (d.listed.filter gone).foldl markGone d
  { d' with listed := d.listed.filter fun id => !gone id }

/-- The listed device that is known under exactly this path. -/
def withPath? (d : Desktop σ) (path : String) : Option DeviceId :=
  d.listed.find? fun id => (d.info id).objectPath == some path

/-- Whether a listed device stands for the same device as some information: it has the same path,
or, if the information has none, the same name. -/
def knows (d : Desktop σ) (info : DeviceInfo) : Bool :=
  match info.objectPath with
  | some path => (d.withPath? path).isSome
  | none => d.listed.any fun id => Ascii.sameName (d.info id).name info.name

/-- The desktop after everything that is not known yet was added, and how much that is. -/
def addUnknown (d : Desktop σ) (found : List DeviceInfo) : Desktop σ × Nat :=
  found.foldl (fun (d, added) info =>
    if d.knows info then (d, added) else (d.addDevice info, added + 1)) (d, 0)

/-- Adds every device that the resolver lists and that is not known yet, and answers how many these
are. No sink is told. -/
def discover (d : Desktop σ) : Except Error Nat × Desktop σ :=
  match d.resolver.devices with
  | .error e => (.error e, d)
  | .ok found =>
    if d.isClosed then (.ok 0, d)
    else
      let (d, added) := d.addUnknown found
      (.ok added, d)

/-- The first listed device with an identifier. -/
def find (d : Desktop σ) (id : Guid) : Except Error DeviceId :=
  let hasId (device : DeviceId) : Bool :=
    match (d.info device).guid with
    | some text => Ascii.sameName text id.text
    | none => false
  match d.listed.find? hasId with
  | some device => .ok device
  | none => .error .noMoreDevices

/-! ## Sinks -/

/-- The least cookie from a number on that can be issued at all: neither zero nor the largest word.
-/
def wrapCookie (c : UInt32) : UInt32 := if c = 0 ∨ c = 0xFFFFFFFF then 1 else c

/-- The first cookie from a number on that is not in use, tried for at most `tries` cookies that
are. -/
def freeCookie (used : List UInt32) : Nat → UInt32 → UInt32
  | 0, c => wrapCookie c
  | tries + 1, c =>
    if wrapCookie c ∈ used then freeCookie used tries (wrapCookie c + 1) else wrapCookie c

/-- The cookies in use. -/
def cookies (d : Desktop σ) : List UInt32 := d.sinks.map Prod.fst

/-- A table in the order of its keys with one entry more. -/
def insertSink (cookie : UInt32) (sink : σ) : List (UInt32 × σ) → List (UInt32 × σ)
  | [] => [(cookie, sink)]
  | (c, s) :: rest =>
    if cookie < c then (cookie, sink) :: (c, s) :: rest else (c, s) :: insertSink cookie sink rest

/-- Adds a sink under a free cookie. The search starts at the cookie that was issued last. -/
def advise (d : Desktop σ) (sink : σ) : UInt32 × Desktop σ :=
  let cookie := freeCookie d.cookies d.cookies.length d.lastCookie
  (cookie, { d with sinks := insertSink cookie sink d.sinks, lastCookie := cookie })

/-- Removes the sink under a cookie, if there is one. -/
def unadvise (d : Desktop σ) (cookie : UInt32) : Desktop σ :=
  { d with sinks := d.sinks.filter fun entry => entry.1 ≠ cookie }

/-- Lets go of all devices and all sinks, for good. -/
def shutdown (d : Desktop σ) : Desktop σ :=
  { d.removeWhere (fun _ => true) with sinks := [], isClosed := true }

/-! ## Laws -/

@[simp] theorem listed_addDevice (d : Desktop σ) (info : DeviceInfo) :
    (d.addDevice info).listed = d.listed ++ [d.created.length] := rfl

@[simp] theorem created_addDevice (d : Desktop σ) (info : DeviceInfo) :
    (d.addDevice info).created = d.created ++ [{ info := info }] := rfl

@[simp] theorem listed_removeWhere (d : Desktop σ) (gone : DeviceId → Bool) :
    (d.removeWhere gone).listed = d.listed.filter fun id => !gone id := rfl

@[simp] theorem listed_shutdown (d : Desktop σ) : d.shutdown.listed = [] := by
  simp [shutdown]

end Desktop

end PocketLink
