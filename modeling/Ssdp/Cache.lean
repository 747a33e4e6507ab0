import Ssdp.Device

/-!
# The cache

The devices known at present, one for each pair of a notification type and a
`USN`; both are compared exactly, case included. The cache is a map, and nothing
tells in which order a map is gone through, or that it is the same the next time.

* `VisitOrder`, `VisitOrder.arrange`: an order, and a list in that order;
* `Cache.replace`: puts a device under its key;
* `Cache.remove`: takes out every device with a `USN`;
* `Cache.sweepAt`: takes out every device that has expired;
* `Cache.find?`, `Cache.findAll`: look devices up.
-/

namespace Ssdp

/-- What a device is cached under. -/
structure DeviceKey where
  notificationType : Text
  usn : Text
deriving DecidableEq, Repr

/-- The key of a device. -/
def Device.key (d : Device) : DeviceKey :=
  ⟨d.notificationType, d.usn⟩

/-- In which order the entries of a map are visited, when it is gone through: each pick
tells which of those that are left comes next, counted round. Without picks they come as
they stand. -/
structure VisitOrder where
  picks : List Nat := []
deriving DecidableEq, Repr

namespace VisitOrder

variable {α : Type}

/-- A list as picks tell. -/
def visit : List Nat → List α → List α
  | [], xs => xs
  | pick :: picks, xs =>
    let i := pick % xs.length
    match xs[i]? with
    | none => xs
    | some x => x :: visit picks (xs.eraseIdx i)

/-- A list in the order. -/
def arrange (order : VisitOrder) (xs : List α) : List α :=
  visit order.picks xs

end VisitOrder

/-- Devices under their keys. -/
structure Cache where
  entries : List (DeviceKey × Device) := []
deriving DecidableEq

namespace Cache

/-- The devices cached. -/
def devices (c : Cache) : List Device :=
  c.entries.map (·.2)

/-- The number of devices cached. -/
def size (c : Cache) : Nat :=
  c.entries.length

/-- Whether no device is cached. -/
def isEmpty (c : Cache) : Bool :=
  c.entries.isEmpty

/-- Puts a device under a key among entries, and gives the one it replaces. -/
def place (key : DeviceKey) (d : Device) :
    List (DeviceKey × Device) → List (DeviceKey × Device) × Option Device
  | [] => ([(key, d)], none)
  | e :: rest =>
    if e.1 = key then ((key, d) :: rest, some e.2)
    else
      let (rest', old) := place key d rest
      (e :: rest', old)

/-- Puts a device under its key, and gives the one it replaces. -/
def replace (c : Cache) (d : Device) : Cache × Option Device :=
  let (entries, old) := place d.key d c.entries
  (⟨entries⟩, old)

/-- Puts a device under its key, and tells whether the key is new. -/
def addOrUpdate (c : Cache) (d : Device) : Cache × Bool :=
  let (c, old) := c.replace d
  (c, old.isNone)

/-- The cache with its entries in another order. -/
def inOrder (c : Cache) (order : VisitOrder) : Cache :=
  ⟨order.arrange c.entries⟩

/-- The cache without the entries that satisfy `p`, and their devices as they stood in it. -/
def takeOut (c : Cache) (p : DeviceKey × Device → Bool) : Cache × List Device :=
  (⟨c.entries.filter (!p ·)⟩, (c.entries.filter p).map (·.2))

/-- Takes out every device with this `USN`, whatever its type. -/
def remove (c : Cache) (usn : Text) : Cache × List Device :=
  c.takeOut (·.1.usn = usn)

/-- Takes out every device that has expired at the given instant. -/
def sweepAt (c : Cache) (now : Instant) : Cache × List Device :=
  c.takeOut (·.2.isExpiredAt now)

/-- The first device with this type and `USN`. -/
def find? (c : Cache) (notificationType usn : Text) : Option Device :=
  c.devices.find? fun d => d.notificationType = notificationType ∧ d.usn = usn

/-- Every device with this `USN`. -/
def findAll (c : Cache) (usn : Text) : List Device :=
  c.devices.filter (·.usn = usn)

end Cache

end Ssdp
